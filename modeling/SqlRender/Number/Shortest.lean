import SqlRender.Number.Binary64

/-!
# Shortest decimal form

The text of a binary64 number has the fewest digits that read back as the same number, and of
those the nearest. The search tries one digit, two digits and so on; on each grid only the two
neighbours of the value can lie among the reals that round to it.
-/

namespace SqlRender.Binary64

/-- Compares `a * 10 ^ i` with `n * 2 ^ j`, exactly. -/
def compareScaled (a : Nat) (i : Int) (n : Nat) (j : Int) : Ordering :=
  compare (a * Nat.pow 10 i.toNat * Nat.pow 2 (-j).toNat)
    (n * Nat.pow 2 j.toNat * Nat.pow 10 (-i).toNat)

/-- `digits * 10 ^ power` lies among the reals that round to `mantissa * 2 ^ exponent`. Below a
power of two the gap is half as wide; the ends belong to the even mantissa. -/
def readsBack (mantissa : Nat) (exponent : Int) (digits : Nat) (power : Int) : Bool :=
  let narrow := mantissa = Nat.pow 2 52 ∧ exponent > minExponent
  let low := if narrow then 4 * mantissa - 1 else 4 * mantissa - 2
  let high := 4 * mantissa + 2
  let closed := mantissa % 2 = 0
  let toLow := compareScaled digits power low (exponent - 2)
  let toHigh := compareScaled digits power high (exponent - 2)
  (toLow = .gt ∨ (closed ∧ toLow = .eq)) ∧ (toHigh = .lt ∨ (closed ∧ toHigh = .eq))

/-- The least `k` with `mantissa * 2 ^ exponent < 10 ^ k`, sought from an estimate by the binary
logarithm. -/
def magnitude (mantissa : Nat) (exponent : Int) : Int :=
  let estimate := ((mantissa.log2 : Int) + exponent) * 30103 / 100000
  let candidates := [estimate - 1, estimate, estimate + 1, estimate + 2]
  (candidates.find? fun k => compareScaled 1 k mantissa exponent = .gt).getD (estimate + 3)

/-- The decimal on the grid `10 ^ power` that reads back, if there is one: the nearer of the two
neighbours of the value, at the same distance the even one. -/
def onGrid? (m : Nat) (exponent power : Int) : Option Nat :=
  let num := m * Nat.pow 2 exponent.toNat * Nat.pow 10 (-power).toNat
  let den := Nat.pow 2 (-exponent).toNat * Nat.pow 10 power.toNat
  let below := num / den
  match readsBack m exponent below power, readsBack m exponent (below + 1) power with
  | true, true => some (roundHalfEven num den)
  | true, false => some below
  | false, true => some (below + 1)
  | false, false => none

/-- The shortest digits of a number other than zero, with their power of ten. Seventeen digits
always read back. -/
def shortest (mantissa : Nat) (exponent : Int) : Nat × Int :=
  let top := magnitude mantissa exponent
  let grids := (List.range 17).map fun (n : Nat) => top - (n + 1 : Int)
  match grids.findSome? fun power => (onGrid? mantissa exponent power).map fun d => (d, power) with
  | some (digits, power) => dropZeros 20 digits power
  | none => (mantissa * Nat.pow 2 exponent.toNat * Nat.pow 5 (-exponent).toNat, min exponent 0)

/-- The power of ten behind digits: a sign and at least two digits. -/
def powerText (power : Int) : List Char :=
  let size := Nat.toDigits 10 power.natAbs
  (if power < 0 then '-' else '+') :: (if size.length = 1 then '0' :: size else size)

/-- Digits with a point: positional from `1e-4` up to below `1e16`, otherwise with a power of ten
of at least two digits. A positional form has a digit on both sides of the point. -/
def layout (digits : List Char) (power : Int) : List Char :=
  let lead : Int := digits.length + power - 1
  if -4 ≤ lead ∧ lead < 16 then
    if 0 ≤ power then digits ++ List.replicate power.toNat '0' ++ ['.', '0']
    else if 0 ≤ lead then digits.take (lead.toNat + 1) ++ '.' :: digits.drop (lead.toNat + 1)
    else '0' :: '.' :: List.replicate (-lead - 1).toNat '0' ++ digits
  else
    let fraction := if digits.length = 1 then [] else '.' :: digits.drop 1
    digits.take 1 ++ fraction ++ 'e' :: powerText lead

/-- The text of a number. -/
def text : Binary64 → String
  | .nan => "nan"
  | .infinite negative => if negative then "-inf" else "inf"
  | .finite negative mantissa exponent =>
    let sign := if negative then ['-'] else []
    if mantissa = 0 then String.ofList (sign ++ ['0', '.', '0'])
    else
      let (digits, power) := shortest mantissa exponent
      String.ofList (sign ++ layout (Nat.toDigits 10 digits) power)

example : (ofText? "0.1").map text = some "0.1" := by decide +kernel

example : (ofText? "1e16").map text = some "1e+16" := by decide +kernel

example : (ofText? "2.98023223876953125e-8").map text = some "2.9802322387695312e-08" := by
  decide +kernel

example : (ofText? "-5e-324").map text = some "-5e-324" := by decide +kernel

end SqlRender.Binary64
