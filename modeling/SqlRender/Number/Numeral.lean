import SqlRender.Text.Digit

/-!
# Numerals

Reading of written numbers: whole numbers with grouping by low lines, and decimal numerals with a
fraction and a power of ten.
-/

namespace SqlRender

/-- The number that decimal digits stand for. -/
def Text.digitsValue (digits : List Nat) : Nat :=
  digits.foldl (fun value digit => 10 * value + digit) 0

/-- Moves the zeros at the end of `digits` into the power of ten, at most as many as the fuel. -/
def dropZeros : Nat → Nat → Int → Nat × Int
  | 0, digits, power => (digits, power)
  | fuel + 1, digits, power =>
    if digits % 10 = 0 then dropZeros fuel (digits / 10) (power + 1) else (digits, power)

/-- The numeral of a whole number. -/
def Text.ofInt (n : Int) : String :=
  String.ofList ((if n < 0 then ['-'] else []) ++ Nat.toDigits 10 n.natAbs)

/-- A sign in front, if there is one. The flag says that it is a minus. -/
def Text.takeSign : List Char → Bool × List Char
  | '-' :: cs => (true, cs)
  | '+' :: cs => (false, cs)
  | cs => (false, cs)

/-- Digits with single low lines between them, as a list of digit values. `inGroup` says that a
digit stands right before. -/
def Text.groupedDigits? (inGroup : Bool) : List Char → Option (List Nat)
  | [] => if inGroup then some [] else none
  | c :: cs =>
    match decimalDigit? c with
    | some digit => (groupedDigits? true cs).map (digit :: ·)
    | none => if c = '_' ∧ inGroup then groupedDigits? false cs else none

/-- A numeral may stand among blanks. Below U+0080 only the space and U+0009 to U+000D count. -/
def Text.isMargin (c : Char) : Bool :=
  if c.toNat < 0x80 then c = ' ' ∨ (9 ≤ c.toNat ∧ c.toNat ≤ 13) else isBlank c

def Text.dropMargins (cs : List Char) : List Char :=
  ((cs.dropWhile isMargin).reverse.dropWhile isMargin).reverse

/-- The longest run of digits that is read or written as a whole number. -/
def Text.maxDigits : Nat := 4300

/-- The numeral of a whole number is not too long to be written. -/
def Text.isWritable (n : Int) : Bool := n.natAbs < Nat.pow 10 maxDigits

/-- Reads a whole number: blanks, a sign, grouped decimal digits, blanks. -/
def Text.readInt? (cs : List Char) : Option Int :=
  let (negative, body) := takeSign (dropMargins cs)
  match groupedDigits? false body with
  | none => none
  | some digits =>
    if digits.length > maxDigits then none
    else some (if negative then -(digitsValue digits : Int) else digitsValue digits)

/-- A decimal numeral: `digits * 10 ^ exponent`, with a sign. -/
structure Numeral where
  negative : Bool
  digits : Nat
  exponent : Int
deriving DecidableEq, Repr

namespace Numeral

/-- The leading decimal digits of a text and the rest. -/
def takeDigits : List Char → List Nat × List Char
  | [] => ([], [])
  | c :: cs =>
    match Text.decimalDigit? c with
    | some digit => let (digits, rest) := takeDigits cs; (digit :: digits, rest)
    | none => ([], c :: cs)

/-- The power of ten behind a numeral: nothing, or the letter, a sign and digits. -/
def readExponent? : List Char → Option Int
  | [] => some 0
  | c :: cs =>
    if c = 'e' ∨ c = 'E' then
      let (negative, body) := Text.takeSign cs
      match takeDigits body with
      | ([], _) => none
      | (digits, []) =>
        some (if negative then -(Text.digitsValue digits : Int) else Text.digitsValue digits)
      | (_, _ :: _) => none
    else none

/-- Reads a sign, digits with at most one point, and a power of ten. -/
def read? (cs : List Char) : Option Numeral :=
  let (negative, body) := Text.takeSign cs
  let (whole, rest) := takeDigits body
  let (fraction, rest) :=
    match rest with
    | '.' :: more => takeDigits more
    | _ => ([], rest)
  if whole = [] ∧ fraction = [] then none
  else (readExponent? rest).map fun power =>
    ⟨negative, Text.digitsValue (whole ++ fraction), power - fraction.length⟩

end Numeral

example : Text.readInt? [' ', '-', '1', '_', '0', '\n'] = some (-10) := by decide

example : Text.readInt? ['1', '_', '_', '0'] = none ∧ Text.readInt? [] = none := by decide

example : Numeral.read? ['1', '.', '5', '0', 'e', '-', '3'] = some ⟨false, 150, -5⟩ := by decide

end SqlRender
