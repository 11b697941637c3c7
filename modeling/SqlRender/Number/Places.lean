import SqlRender.Number.Shortest

/-!
# Rounded decimal forms

A binary64 number with a given number of digits: fixed with so many digits behind the point,
scientific with a power of ten behind the digits, or general, which is the one of the two that is
shorter to read. The exact value is rounded once, a half to the even neighbour.
-/

namespace SqlRender.Binary64

/-- How a number is laid out. -/
inductive Form where
  | fixed | scientific | general
deriving DecidableEq, Repr

/-- `mantissa * 2 ^ exponent` in units of `10 ^ power`, rounded. -/
def inUnits (mantissa : Nat) (exponent power : Int) : Nat :=
  roundHalfEven (mantissa * Nat.pow 2 exponent.toNat * Nat.pow 10 (-power).toNat)
    (Nat.pow 2 (-exponent).toNat * Nat.pow 10 power.toNat)

/-- The first `places + 1` digits of a number and the power of ten of the leading one. -/
def leadingDigits (places mantissa : Nat) (exponent : Int) : List Char × Int :=
  if mantissa = 0 then (List.replicate (places + 1) '0', 0)
  else
    let lead := magnitude mantissa exponent - 1
    let digits := inUnits mantissa exponent (lead - places)
    if digits = Nat.pow 10 (places + 1) then (Nat.toDigits 10 (Nat.pow 10 places), lead + 1)
    else (Nat.toDigits 10 digits, lead)

/-- A point in front of the fraction. Without a fraction it stands only if it is `marked`. -/
def withPoint (marked : Bool) (whole fraction : List Char) : List Char :=
  if fraction.isEmpty && !marked then whole else whole ++ '.' :: fraction

/-- Takes the zeros off the end, unless the form is `marked`. -/
def trimZeros (marked : Bool) (fraction : List Char) : List Char :=
  if marked then fraction else (fraction.reverse.dropWhile (· = '0')).reverse

/-- Digits with a power of ten behind them. -/
def scientificText (marked : Bool) (first fraction : List Char) (lead : Int) : List Char :=
  withPoint marked first fraction ++ 'e' :: powerText lead

/-- A number with `places` digits behind the point. -/
def fixedText (marked : Bool) (places mantissa : Nat) (exponent : Int) : List Char :=
  let digits := Nat.toDigits 10 (inUnits mantissa exponent (-places))
  let digits := List.replicate (places + 1 - digits.length) '0' ++ digits
  withPoint marked (digits.take (digits.length - places)) (digits.drop (digits.length - places))

/-- A number with `places + 1` digits in all: positional from `1e-4` up to below the power of ten
that has more digits. Zeros at the end of the fraction are left out. -/
def generalText (marked : Bool) (places mantissa : Nat) (exponent : Int) : List Char :=
  let (digits, lead) := leadingDigits places mantissa exponent
  if lead < -4 ∨ places < lead then
    scientificText marked (digits.take 1) (trimZeros marked (digits.drop 1)) lead
  else
    let digits := List.replicate (-lead).toNat '0' ++ digits
    let whole := lead.toNat + 1
    withPoint marked (digits.take whole) (trimZeros marked (digits.drop whole))

/-- A number without its sign. The precision is the number of digits behind the point, and for the
general form that of all digits, of which there is at least one. -/
def formText (form : Form) (marked : Bool) (precision : Nat) : Binary64 → List Char
  | .nan => ['n', 'a', 'n']
  | .infinite _ => ['i', 'n', 'f']
  | .finite _ mantissa exponent =>
    match form with
    | .fixed => fixedText marked precision mantissa exponent
    | .scientific =>
      let (digits, lead) := leadingDigits precision mantissa exponent
      scientificText marked (digits.take 1) (digits.drop 1) lead
    | .general => generalText marked (precision - 1) mantissa exponent

/-- The number with `places` digits behind the point. -/
def toFixed (places : Nat) (x : Binary64) : String :=
  String.ofList ((if x.isNegative then ['-'] else []) ++ x.formText .fixed false places)

example : (ofText? "0.125").map (toFixed 2) = some "0.12" := by decide +kernel

example : (ofText? "9.5").map (formText .scientific false 0) = some "1e+01".toList := by
  decide +kernel

example : (ofText? "0.0001").map (formText .general false 6) = some "0.0001".toList := by
  decide +kernel

example : (ofText? "1234567").map (formText .general true 6) = some "1.23457e+06".toList := by
  decide +kernel

end SqlRender.Binary64
