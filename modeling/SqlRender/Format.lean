import SqlRender.Number.Places
import SqlRender.Value.Access

/-!
# Formats

The text of a clause is a format. `%s` takes the next argument, `%%` is a per cent sign. A directive
may have flags, a width, a precision and a size in front of its letter; a star takes the width or
the precision from the arguments. Besides `s` the letters `r` and `a` show values, `c` is one
character, `d`, `i` and `u` write a whole number in base ten, `o` in base eight and `x` and `X` in
base sixteen, `f`, `e` and `g` a fraction in its three forms. Other letters are refused.

Where the arguments are the entries of a map, a name in parentheses in front of all that chooses
one of them.
-/

namespace SqlRender.Format

/-- What the directives take their arguments from. -/
structure Supply where
  rest : List Value
  /-- The map in which names are looked up. -/
  entries? : Option Mapping := none

namespace Supply

/-- Arguments by their places. -/
def ofList (args : List Value) : Supply := { rest := args }

/-- Arguments by their names. A directive without a name takes the whole map, once. -/
def ofMapping (entries : Mapping) : Supply := { rest := [.map entries], entries? := some entries }

def next (s : Supply) : Except Error (Value × Supply) :=
  match s.rest with
  | [] => .error .wrongType
  | arg :: rest => .ok (arg, { s with rest := rest })

/-- Puts the argument with a name in front. -/
def choose (s : Supply) (name : String) : Except Error Supply :=
  match s.entries? with
  | none => .error .wrongType
  | some entries =>
    match Assoc.get? (.text name) entries with
    | some v => .ok { s with rest := [v] }
    | none => .error .noEntry

/-- Arguments by their places have all to be taken. -/
def isSpent (s : Supply) : Bool := s.entries?.isSome || s.rest.isEmpty

end Supply

/-- How far a directive has been read. -/
inductive Stage where
  | opened
  /-- Inside a name, with the parentheses that are still open in it and its characters, the last
  one first. -/
  | name (depth : Nat) (read : List Char)
  | flags | width | widthRead | precisionStart | precision | precisionRead | sized
deriving DecidableEq, Repr

/-- A directive as far as it has been read. -/
structure Directive where
  stage : Stage := .opened
  left : Bool := false
  zeros : Bool := false
  plus : Bool := false
  space : Bool := false
  marked : Bool := false
  width : Nat := 0
  precision : Option Nat := none
deriving DecidableEq, Repr

/-- What the next character of a directive does. -/
inductive Step where
  | more (d : Directive) (supply : Supply)
  | done (text : List Char) (supply : Supply)
  /-- The directive asks for more than can be written. -/
  | tooLong (supply : Supply)

/-- What a directive writes: a text, or a number that may have zeros between its front and its
digits. -/
inductive Piece where
  | text (cs : List Char)
  | number (front digits : List Char)
  /-- A number with more digits than can be written. -/
  | endless

/-- The same in capitals. -/
def Piece.upper : Piece → Piece
  | .text cs => .text (cs.map Char.toUpper)
  | .number front digits => .number (front.map Char.toUpper) (digits.map Char.toUpper)
  | .endless => .endless

/-- The greatest width that can be written in a format. -/
def maxWidth : Nat := Nat.pow 2 63 - 1

/-- The greatest precision that can be written in a format. -/
def maxPrecision : Nat := Nat.pow 2 31 - 1

/-- The longest text that is written. -/
def maxLength : Nat := Nat.pow 10 7

/-- A width for which there is no room at all, so that nothing behind it is read. -/
def noRoom : Nat := Nat.pow 2 36

/-- More digits than any binary64 number has. -/
def allDigits : Nat := 2000

namespace Directive

/-- Fills up with blanks to the width. -/
def pad (d : Directive) (cs : List Char) : List Char :=
  let blanks := List.replicate (d.width - cs.length) ' '
  if d.left then cs ++ blanks else blanks ++ cs

/-- Fills up to the width: a number with zeros if it is asked for, all else with blanks. -/
def put? (d : Directive) : Piece → Option (List Char)
  | .text cs => some (d.pad cs)
  | .number front digits =>
    let missing := if d.zeros && !d.left then d.width - front.length - digits.length else 0
    some (d.pad (front ++ List.replicate missing '0' ++ digits))
  | .endless => none

/-- The sign in front of a number. -/
def sign (d : Directive) (negative : Bool) : List Char :=
  if negative then ['-'] else if d.plus then ['+'] else if d.space then [' '] else []

/-- A text, cut to the precision. -/
def textPiece (d : Directive) (s : String) : Piece :=
  .text (d.precision.elim s.toList s.toList.take)

/-- A whole number with its sign and the mark of its base, with at least as many digits as the
precision asks for. -/
def intPiece (d : Directive) (base : Nat) (mark : List Char) (n : Int) : Except Error Piece :=
  let precision := d.precision.getD 0
  let front := d.sign (n < 0) ++ if d.marked then mark else []
  if maxPrecision - 3 < precision then .error .outOfRange
  else if base = 10 ∧ !Text.isWritable n then .error .badValue
  else if maxLength < precision then .ok .endless
  else
    let digits := Nat.toDigits base n.natAbs
    .ok (.number front (List.replicate (precision - digits.length) '0' ++ digits))

/-- A fraction, with six digits unless the precision asks for others. The general form leaves out
zeros at the end, and then there are never more digits than the number has. -/
def fractionPiece (d : Directive) (form : Binary64.Form) (x : Binary64) : Piece :=
  let precision := d.precision.getD 6
  let precision := if form = .general ∧ !d.marked then min precision allDigits else precision
  if maxLength < precision ∧ x.toRatio?.isSome then .endless
  else .number (d.sign x.isNegative) (x.formText form d.marked precision)

/-- A value inspected, with escapes for all that is not ASCII. -/
def asciiText (v : Value) : String :=
  String.ofList (v.inspect.toList.flatMap fun c =>
    if c.toNat < 0x80 then [c] else Text.codeEscape c)

/-- A whole number for a directive; a text is none. -/
def intOf : Value → Except Error Int
  | .text _ => .error .wrongType
  | v => v.asInt

/-- The whole number that a value is, without any rounding. -/
def exactInt : Value → Except Error Int
  | .int n => .ok n
  | .bool b => .ok (if b then 1 else 0)
  | _ => .error .wrongType

/-- The fraction that a value is. -/
def fractionOf : Value → Except Error Binary64
  | .real x => .ok x
  | .decimal (.nan _ signalling _) => if signalling then .error .badValue else .ok .nan
  | .decimal (.infinite negative) => .ok (.infinite negative)
  | .decimal (.finite negative digits exponent) => .ok (.ofNumeral ⟨negative, digits, exponent⟩)
  | v => do
    let n ← exactInt v
    match Binary64.ofRatio (n < 0) n.natAbs 1 with
    | .infinite _ => throw .outOfRange
    | x => return x

/-- A single character, or the one with a code. -/
def oneChar : Value → Except Error (List Char)
  | .text s => if s.length = 1 then .ok s.toList else .error .wrongType
  | v => do
    let n ← exactInt v
    if 0 ≤ n ∧ n < 0x110000 then return [Char.ofNat n.toNat] else throw .outOfRange

/-- An argument as the letter of the directive asks for it. -/
def convert (d : Directive) (letter : Char) (arg : Value) : Except Error Piece :=
  match letter with
  | 's' => d.textPiece <$> arg.shown Value.display
  | 'r' => d.textPiece <$> arg.shown Value.inspect
  | 'a' => d.textPiece <$> arg.shown asciiText
  | 'c' => .text <$> oneChar arg
  | 'd' | 'i' | 'u' => do d.intPiece 10 [] (← intOf arg)
  | 'o' => do d.intPiece 8 ['0', 'o'] (← exactInt arg)
  | 'x' => do d.intPiece 16 ['0', 'x'] (← exactInt arg)
  | 'X' => do return (← d.intPiece 16 ['0', 'x'] (← exactInt arg)).upper
  | 'f' => d.fractionPiece .fixed <$> fractionOf arg
  | 'F' => do return (d.fractionPiece .fixed (← fractionOf arg)).upper
  | 'e' => d.fractionPiece .scientific <$> fractionOf arg
  | 'E' => do return (d.fractionPiece .scientific (← fractionOf arg)).upper
  | 'g' => d.fractionPiece .general <$> fractionOf arg
  | 'G' => do return (d.fractionPiece .general (← fractionOf arg)).upper
  | _ => .error .badValue

/-- The end of a directive: its letter with the next argument. -/
def finish (d : Directive) (letter : Char) (supply : Supply) : Except Error Step := do
  let (arg, supply) ← supply.next
  let piece ← d.convert letter arg
  if noRoom < d.width then throw .tooLong
  if maxLength < d.width then return .tooLong supply
  match d.put? piece with
  | some text => return .done text supply
  | none => return .tooLong supply

/-- A number with one more digit, if it is not greater than the limit. -/
def addDigit (limit n : Nat) (c : Char) : Except Error Nat :=
  let n := 10 * n + (c.toNat - 48)
  if limit < n then .error .badValue else .ok n

/-- The whole number that a star takes from the arguments, between its limits. -/
def starred (low high : Int) (supply : Supply) : Except Error (Int × Supply) := do
  let (arg, supply) ← supply.next
  let n ← exactInt arg
  if low ≤ n ∧ n ≤ high then return (n, supply) else throw .outOfRange

/-- The next character of a directive. -/
def step (d : Directive) (c : Char) (supply : Supply) : Except Error Step :=
  match d.stage with
  | .opened =>
    if c = '%' then .ok (.done ['%'] supply)
    else if c = '(' then
      if supply.entries?.isSome then .ok (.more { d with stage := .name 0 [] } supply)
      else .error .wrongType
    else flag { d with stage := .flags }
  | .name 0 read =>
    if c = ')' then do
      return .more { d with stage := .flags } (← supply.choose (String.ofList read.reverse))
    else inName (if c = '(' then 1 else 0) read
  | .name (depth + 1) read =>
    inName (if c = ')' then depth else if c = '(' then depth + 2 else depth + 1) read
  | .flags => flag d
  | .width =>
    if c.isDigit then do
      return .more { d with width := ← addDigit maxWidth d.width c } supply
    else point d
  | .widthRead => point d
  | .precisionStart =>
    if c = '*' then do
      let (n, supply) ← starred (-maxPrecision - 1) maxPrecision supply
      return .more { d with stage := .precisionRead, precision := some n.toNat } supply
    else digit d
  | .precision => digit d
  | .precisionRead => size d
  | .sized => d.finish c supply
where
  inName (depth : Nat) (read : List Char) : Except Error Step :=
    .ok (.more { d with stage := .name depth (c :: read) } supply)
  flag (d : Directive) : Except Error Step :=
    if c = '-' then .ok (.more { d with left := true } supply)
    else if c = '0' then .ok (.more { d with zeros := true } supply)
    else if c = '+' then .ok (.more { d with plus := true } supply)
    else if c = ' ' then .ok (.more { d with space := true } supply)
    else if c = '#' then .ok (.more { d with marked := true } supply)
    else if c.isDigit then .ok (.more { d with stage := .width, width := c.toNat - 48 } supply)
    else if c = '*' then do
      let (n, supply) ← starred (-maxWidth - 1) maxWidth supply
      return .more
        { d with stage := .widthRead, width := n.natAbs, left := d.left || n < 0 } supply
    else point d
  point (d : Directive) : Except Error Step :=
    if c = '.' then .ok (.more { d with stage := .precisionStart, precision := some 0 } supply)
    else size d
  digit (d : Directive) : Except Error Step :=
    if c.isDigit then do
      let precision ← addDigit maxPrecision (d.precision.getD 0) c
      return .more { d with stage := .precision, precision := some precision } supply
    else size d
  size (d : Directive) : Except Error Step :=
    if c = 'h' ∨ c = 'l' ∨ c = 'L' then .ok (.more { d with stage := .sized } supply)
    else d.finish c supply

end Directive

/-- Fills in a format from the left; `open?` is the directive that is being read. Too few
arguments and arguments left over are faults. A directive that asks for too much fails only if
nothing behind it does. -/
def fill (open? : Option Directive) : List Char → Supply → Except Error (List Char)
  | [], supply =>
    if open?.isSome then .error .badValue
    else if supply.isSpent then .ok []
    else .error .wrongType
  | c :: cs, supply =>
    match open? with
    | none =>
      if c = '%' then fill (some {}) cs supply
      else do return c :: (← fill none cs supply)
    | some d => do
      match ← d.step c supply with
      | .more d supply => fill (some d) cs supply
      | .done text supply => return text ++ (← fill none cs supply)
      | .tooLong supply => do
        let _ ← fill none cs supply
        throw .tooLong

/-- A format with its arguments, of which there is at least one. -/
def apply (format : String) (supply : Supply) : Except Error String := do
  return String.ofList (← fill none format.toList supply)

example : fill none "%s: 5%%".toList (.ofList [.text "a"]) = .ok "a: 5%".toList := rfl

end SqlRender.Format
