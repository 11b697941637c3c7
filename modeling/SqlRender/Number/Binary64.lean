import SqlRender.Number.Numeral

/-!
# Binary floating point

A binary64 number as its exact value: a mantissa below `2 ^ 53` times a power of two. Every
operation computes the exact rational result and rounds it once, to the nearest number, a half to
the even mantissa.
-/

namespace SqlRender

/-- A binary64 number. A finite one is `mantissa * 2 ^ exponent` with a sign; so zero has one. -/
inductive Binary64 where
  | nan
  | infinite (negative : Bool)
  | finite (negative : Bool) (mantissa : Nat) (exponent : Int)
deriving DecidableEq, Repr

/-- `num / den` to the nearest whole number, a half to the even neighbour. -/
def roundHalfEven (num den : Nat) : Nat :=
  let q := num / den
  let r := num % den
  if 2 * r < den then q else if den < 2 * r then q + 1 else q + q % 2

namespace Binary64

/-- The exponent of the least positive number. -/
def minExponent : Int := -1074

/-- The exponent of the greatest numbers. -/
def maxExponent : Int := 971

def zero (negative : Bool) : Binary64 := .finite negative 0 minExponent

/-- The fraction `num / den / 2 ^ exponent`. -/
def scaled (num den : Nat) (exponent : Int) : Nat × Nat :=
  (num * Nat.pow 2 (-exponent).toNat, den * Nat.pow 2 exponent.toNat)

/-- The number nearest to `num / den`. The exponent is the one that puts the quotient between
`2 ^ 52` and `2 ^ 53`, unless that is below the least exponent. -/
def ofRatio (negative : Bool) (num den : Nat) : Binary64 :=
  if num = 0 then zero negative
  else
    let guess := max minExponent ((num.log2 : Int) - den.log2 - 53)
    let (n, d) := scaled num den guess
    let exponent := if n < d * Nat.pow 2 53 then guess else guess + 1
    let (n, d) := scaled num den exponent
    let mantissa := roundHalfEven n d
    let (mantissa, exponent) :=
      if mantissa = Nat.pow 2 53 then (Nat.pow 2 52, exponent + 1) else (mantissa, exponent)
    if exponent > maxExponent then .infinite negative else .finite negative mantissa exponent

/-- The number nearest to a decimal numeral. A numeral other than zero with a power above `10 ^ 400`
is beyond all finite numbers. As `10 ^ k` is at least `2 ^ (3 * k)`, one that is divided by enough
tens lies below half of the least number. -/
def ofNumeral (n : Numeral) : Binary64 :=
  let tens := (-n.exponent).toNat
  if n.digits = 0 then zero n.negative
  else if 400 < n.exponent then .infinite n.negative
  else if n.digits.log2 + 1076 ≤ 3 * tens then zero n.negative
  else ofRatio n.negative (n.digits * Nat.pow 10 n.exponent.toNat) (Nat.pow 10 tens)

/-- The texts of infinity and of the number that is none, in small letters. -/
def ofWord? (negative : Bool) (word : List Char) : Option Binary64 :=
  let word := word.map Char.toLower
  if word = ['i', 'n', 'f'] ∨ word = ['i', 'n', 'f', 'i', 'n', 'i', 't', 'y'] then
    some (.infinite negative)
  else if word = ['n', 'a', 'n'] then some .nan
  else none

/-- Takes out the low lines that stand between two digits. -/
def dropGroupMarks : List Char → List Char
  | a :: '_' :: b :: cs =>
    if (Text.decimalDigit? a).isSome ∧ (Text.decimalDigit? b).isSome then
      a :: dropGroupMarks (b :: cs)
    else a :: '_' :: dropGroupMarks (b :: cs)
  | c :: cs => c :: dropGroupMarks cs
  | [] => []

/-- Reads a number from a text: a numeral, `inf`, `infinity` or `nan`, among blanks. -/
def ofText? (s : String) : Option Binary64 :=
  let body := Text.strip s.toList
  let (negative, word) := Text.takeSign body
  match ofWord? negative word with
  | some x => some x
  | none => (Numeral.read? (dropGroupMarks body)).map ofNumeral

/-- The exact value of a finite number as a signed numerator and a denominator. -/
def toRatio? : Binary64 → Option (Int × Nat)
  | .finite negative mantissa exponent =>
    let num : Nat := mantissa * Nat.pow 2 exponent.toNat
    some (if negative then -(num : Int) else num, Nat.pow 2 (-exponent).toNat)
  | _ => none

def isZero : Binary64 → Bool
  | .finite _ mantissa _ => mantissa = 0
  | _ => false

def isNegative : Binary64 → Bool
  | .nan => false
  | .infinite negative => negative
  | .finite negative _ _ => negative

/-- The number nearest to a rational, where an exact zero takes the sign `zeroNegative`. -/
def ofSigned (num : Int) (den : Nat) (zeroNegative : Bool) : Binary64 :=
  if num = 0 then zero zeroNegative else ofRatio (decide (num < 0)) num.natAbs den

/-- Subtraction. -/
def sub (x y : Binary64) : Binary64 :=
  match x.toRatio?, y.toRatio? with
  | some (a, b), some (c, d) =>
    ofSigned (a * d - c * b) (b * d) (x.isZero && x.isNegative && !y.isNegative)
  | none, some _ => x
  | some _, none =>
    match y with
    | .infinite negative => .infinite (!negative)
    | _ => .nan
  | none, none =>
    match x, y with
    | .infinite p, .infinite q => if p = q then .nan else .infinite p
    | _, _ => .nan

/-- Multiplication. -/
def mul (x y : Binary64) : Binary64 :=
  let negative := x.isNegative != y.isNegative
  match x.toRatio?, y.toRatio? with
  | some (a, b), some (c, d) => ofSigned (a * c) (b * d) negative
  | _, _ =>
    if x = .nan ∨ y = .nan ∨ x.isZero ∨ y.isZero then .nan else .infinite negative

/-- `x ≤ y`. A comparison with the number that is none fails. -/
def le (x y : Binary64) : Bool :=
  match x.toRatio?, y.toRatio? with
  | some (a, b), some (c, d) => a * d ≤ c * b
  | _, _ =>
    match x, y with
    | .nan, _ => false
    | _, .nan => false
    | .infinite p, .infinite q => p || !q
    | .infinite p, .finite .. => p
    | .finite .., .infinite q => !q
    | .finite .., .finite .. => false

/-- The whole part, toward zero. -/
def truncate? (x : Binary64) : Option Int :=
  x.toRatio?.map fun (num, den) => num.tdiv den

end Binary64

example : Binary64.ofText? "0.1" = some (.finite false 7205759403792794 (-56)) := by decide +kernel

example : Binary64.ofText? "1e400" = some (.infinite false) := by decide +kernel

example : Binary64.ofText? "-1e-99999999999" = some (.zero true) := by decide +kernel

end SqlRender
