import SqlRender.Value.Access

/-!
# Predicates

Conditions as trees. A node has children, a connector between them and a mark for negation. The
combination with an empty node is the other node.
-/

namespace SqlRender

structure Predicate where
  children : List Value
  connector : Keyword := .and
  negated : Bool := false

namespace Predicate

def toValue (p : Predicate) : Value := .predicate p.children p.connector p.negated

def ofValue? : Value → Option Predicate
  | .predicate children connector negated => some ⟨children, connector, negated⟩
  | _ => none

/-- A child that a predicate may be made with. -/
def isChild : Value → Bool
  | .predicate .. => true
  | .raw _ => true
  | _ => false

/-- A lookup as a child. -/
def leaf (lookup : String × Value) : Value := .tuple [.text lookup.1, lookup.2]

/-- A predicate of predicates and raw SQL, followed by lookups. -/
def make (children : List Value) (lookups : List (String × Value)) : Except Error Predicate :=
  match children.find? (!isChild ·) with
  | some child => .error (Error.predicateChild child).raised
  | none => .ok { children := children ++ (Assoc.ofPairs lookups).map leaf }

def isEmpty (p : Predicate) : Bool := p.children.isEmpty

/-- The children are all added as they are. -/
def push (p : Predicate) (children : List Value) : Predicate :=
  { p with children := p.children ++ children }

def combine (connector : Keyword) (p q : Predicate) : Predicate :=
  if q.isEmpty then p
  else if p.isEmpty then q
  else { children := [p.toValue, q.toValue], connector := connector }

def and (p q : Predicate) : Predicate := combine .and p q

def or (p q : Predicate) : Predicate := combine .or p q

def not (p : Predicate) : Predicate := { p with negated := !p.negated }

end Predicate

end SqlRender
