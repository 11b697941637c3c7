import SqlRender.Value

/-!
# Equality of values

Numbers of all kinds are equal when their exact values are; true is one and false is zero. Maps are
equal whatever the order of their entries. The number that is none equals nothing, and if it is a
signalling one, the comparison with any number is refused.

Items are compared from the left up to the first difference, so a refusal behind it does not show.
Lists and predicates of different lengths differ at once; tuples are compared item by item first.

A value can be the key of a map if no list, map, predicate or signalling number is in it.
-/

namespace SqlRender

/-- The exact value of a number. A finite one is `coefficient * 10 ^ exponent` with a sign, where
the coefficient does not end in zero; zero is without sign and power. -/
inductive Amount where
  | nan
  | infinite (negative : Bool)
  | finite (negative : Bool) (coefficient : Nat) (exponent : Int)
deriving DecidableEq, Repr

namespace Amount

/-- The amount `coefficient * 10 ^ exponent`. A number has no more decimal digits than binary
ones. -/
def ofParts (negative : Bool) (coefficient : Nat) (exponent : Int) : Amount :=
  if coefficient = 0 then .finite false 0 0
  else
    let (coefficient, exponent) := dropZeros (coefficient.log2 + 1) coefficient exponent
    .finite negative coefficient exponent

def ofInt (n : Int) : Amount := ofParts (n < 0) n.natAbs 0

/-- A half is five tenths, so a negative power of two is a power of five and one of ten. -/
def ofBinary64 : Binary64 → Amount
  | .nan => .nan
  | .infinite negative => .infinite negative
  | .finite negative mantissa exponent =>
    ofParts negative (mantissa * Nat.pow 2 exponent.toNat * Nat.pow 5 (-exponent).toNat)
      (min exponent 0)

def ofDecimal : Decimal → Amount
  | .nan .. => .nan
  | .infinite negative => .infinite negative
  | .finite negative coefficient exponent => ofParts negative coefficient exponent

/-- Equality of amounts; the number that is none differs from itself. -/
def same (a b : Amount) : Bool := a ≠ .nan && a = b

end Amount

namespace Value

def amount? : Value → Option Amount
  | .bool b => some (.ofInt (if b then 1 else 0))
  | .int n => some (.ofInt n)
  | .real x => some (.ofBinary64 x)
  | .decimal d => some (.ofDecimal d)
  | _ => none

/-- A number that is none and refuses to be compared. -/
def isSignalling : Value → Bool
  | .decimal (.nan _ signalling _) => signalling
  | _ => false

/-- Equality of two numbers. What is no number equals none. -/
def sameAmount? (a b : Value) : Option Bool :=
  match a.amount?, b.amount? with
  | some x, some y => if a.isSignalling || b.isSignalling then none else some (x.same y)
  | _, _ => some false

mutual

/-- Equality of values, none where the comparison is refused. -/
def same? : Value → Value → Option Bool
  | .null, .null => some true
  | .text a, .text b => some (a = b)
  | .raw a, .raw b => some (a = b)
  | .keyword a, .keyword b => some (a = b)
  | .clause a, .clause b => some (a = b)
  | .kind a, .kind b => some (a = b)
  | .list a, .list b => if a.length = b.length then sameAll? a b else some false
  | .tuple a, .tuple b => sameAll? a b
  | .map a, .map b => if a.length = b.length then sameEntries? a b else some false
  | .predicate a k m, .predicate b l n =>
    if a.length = b.length then (sameAll? a b).map (· && decide (k = l) && m == n) else some false
  | a, b => sameAmount? a b
termination_by structural a => a

def sameAll? : List Value → List Value → Option Bool
  | [], [] => some true
  | a :: as, b :: bs =>
    match same? a b with
    | some true => sameAll? as bs
    | other => other
  | _, _ => some false

/-- Every entry of the first list has an equal one in the second. -/
def sameEntries? : List (Value × Value) → List (Value × Value) → Option Bool
  | [], _ => some true
  | entry :: rest, others =>
    match sameEntry? entry others with
    | some true => sameEntries? rest others
    | other => other

def sameEntry? : Value × Value → List (Value × Value) → Option Bool
  | (key, value), others =>
    match others.find? fun other => same? key other.1 == some true with
    | some other => same? value other.2
    | none => some false

end

/-- The values are equal. -/
def same (a b : Value) : Bool := same? a b == some true

/-- The items are equal, one by one. -/
def sameAll (as bs : List Value) : Bool := sameAll? as bs == some true

instance : BEq Value := ⟨same⟩

/-- A value that equals itself and nothing else. -/
def isSymbol : Value → Bool
  | .null | .text _ | .raw _ | .keyword _ | .clause _ | .kind _ => true
  | _ => false

theorem beq_symbol (a : Value) {b : Value} (hb : b.isSymbol = true) :
    (a == b) = true ↔ a = b := by
  show (same? a b == some true) = true ↔ _
  cases b with
  | null | text s | raw sql | keyword k | clause c | kind k =>
    cases a <;> simp [same?, sameAmount?, amount?]
  | _ => cases hb

theorem symbol_beq {a : Value} (ha : a.isSymbol = true) (b : Value) :
    (a == b) = true ↔ b = a := by
  show (same? a b == some true) = true ↔ _
  cases a with
  | null | text s | raw sql | keyword k | clause c | kind k =>
    cases b <;> simp [same?, sameAmount?, amount?, eq_comm]
  | _ => cases ha

theorem beq_text (v : Value) (s : String) : (v == .text s) = true ↔ v = .text s :=
  beq_symbol v rfl

theorem text_beq (s : String) (v : Value) : (.text s == v) = true ↔ v = .text s :=
  symbol_beq rfl v

mutual

/-- The value can be the key of a map. -/
def isKey : Value → Bool
  | .list _ => false
  | .map _ => false
  | .predicate .. => false
  | .tuple items => areKeys items
  | v => !v.isSignalling

def areKeys : List Value → Bool
  | [] => true
  | item :: rest => isKey item && areKeys rest

end

end Value

example : Value.same (.bool true) (.int 1) = true := by decide +kernel

example : Value.same (.list [.int 1]) (.tuple [.int 1]) = false := by decide +kernel

example : Value.same (.decimal (.finite false 1 (-99999999999))) (.real (.zero false)) = false := by
  decide +kernel

example : Value.same? (.decimal (.nan false true 0)) (.int 1) = none := by decide +kernel

end SqlRender
