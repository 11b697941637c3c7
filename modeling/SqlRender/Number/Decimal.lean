import SqlRender.Number.Numeral

/-!
# Decimal numbers

A decimal number keeps its coefficient and its power of ten apart, so `1.0` and `1.00` are equal in
value and differ as texts.
-/

namespace SqlRender

inductive Decimal where
  | nan (negative signalling : Bool) (payload : Nat)
  | infinite (negative : Bool)
  | finite (negative : Bool) (coefficient : Nat) (exponent : Int)
deriving DecidableEq, Repr

namespace Decimal

/-- The value of a text that consists of decimal digits only; the empty text counts as zero. -/
def payload? (cs : List Char) : Option Nat :=
  match Numeral.takeDigits cs with
  | (digits, []) => some (Text.digitsValue digits)
  | (_, _ :: _) => none

/-- The texts of infinity and of the numbers that are none, in small letters. -/
def ofWord? (negative : Bool) : List Char → Option Decimal
  | 's' :: 'n' :: 'a' :: 'n' :: rest => (payload? rest).map (.nan negative true)
  | 'n' :: 'a' :: 'n' :: rest => (payload? rest).map (.nan negative false)
  | ['i', 'n', 'f'] => some (.infinite negative)
  | ['i', 'n', 'f', 'i', 'n', 'i', 't', 'y'] => some (.infinite negative)
  | _ => none

/-- The greatest power of ten of a leading digit. -/
def maxPower : Int := 999999999999999999

/-- The least power of ten of a last digit. -/
def minPower : Int := -1999999999999999997

/-- A numeral whose digits all stand in the range of powers. -/
def fits (n : Numeral) : Bool :=
  minPower ≤ n.exponent && n.exponent + (Nat.toDigits 10 n.digits).length - 1 ≤ maxPower

/-- Reads a decimal number; low lines are passed over. -/
def ofText? (s : String) : Option Decimal :=
  let body := (Text.strip s.toList).filter (· != '_')
  let (negative, word) := Text.takeSign body
  match ofWord? negative (word.map Char.toLower) with
  | some d => some d
  | none =>
    match Numeral.read? body with
    | some n => if fits n then some (.finite n.negative n.digits n.exponent) else none
    | none => none

def signText (negative : Bool) : List Char := if negative then ['-'] else []

/-- The digits of a coefficient with its power of ten. A point alone is used while the power is not
positive and the leading digit stands at most six places behind the point. -/
def layout (digits : List Char) (exponent : Int) : List Char :=
  let lead : Int := digits.length + exponent
  if exponent ≤ 0 ∧ -6 < lead then
    if exponent = 0 then digits
    else if lead ≤ 0 then '0' :: '.' :: List.replicate (-lead).toNat '0' ++ digits
    else digits.take lead.toNat ++ '.' :: digits.drop lead.toNat
  else
    let fraction := if digits.length = 1 then [] else '.' :: digits.drop 1
    let power := lead - 1
    digits.take 1 ++ fraction ++
      'E' :: (if power < 0 then '-' else '+') :: Nat.toDigits 10 power.natAbs

/-- The text of a decimal number. -/
def text : Decimal → String
  | .nan negative signalling payload =>
    let word := if signalling then ['s', 'N', 'a', 'N'] else ['N', 'a', 'N']
    String.ofList (signText negative ++ word ++ if payload = 0 then [] else Nat.toDigits 10 payload)
  | .infinite negative => String.ofList (signText negative ++ "Infinity".toList)
  | .finite negative coefficient exponent =>
    String.ofList (signText negative ++ layout (Nat.toDigits 10 coefficient) exponent)

def isZero : Decimal → Bool
  | .finite _ coefficient _ => coefficient = 0
  | _ => false

/-- The whole part of `coefficient * 10 ^ exponent`. As `10 ^ k` is at least `2 ^ k`, nothing is
left behind the point once the tens outnumber the binary digits. -/
def wholePart (coefficient : Nat) (exponent : Int) : Nat :=
  let tens := (-exponent).toNat
  if coefficient.log2 < tens then 0 else coefficient * Nat.pow 10 exponent.toNat / Nat.pow 10 tens

/-- The whole part, toward zero. -/
def truncate? : Decimal → Option Int
  | .finite negative coefficient exponent =>
    let whole := wholePart coefficient exponent
    some (if negative then -(whole : Int) else whole)
  | _ => none

end Decimal

example : (Decimal.ofText? "-19.99").bind Decimal.truncate? = some (-19) := by decide +kernel

example : (Decimal.ofText? "1e-99999999999").bind Decimal.truncate? = some 0 := by decide +kernel

example : (Decimal.ofText? "1e3").map Decimal.text = some "1E+3" := by decide +kernel

example : (Decimal.ofText? "0.0000001").map Decimal.text = some "1E-7" := by decide +kernel

example : (Decimal.ofText? "-0.000001").map Decimal.text = some "-0.000001" := by decide +kernel

end SqlRender
