import SqlRender.Predicate

/-!
# Shared predicates

Predicates that callers hold by name and change later. A predicate that was given as a child is
shared, not copied: a change to it shows wherever it stands. Combining and negating copy the node
and share its children.

Nodes stand in a list and are named by their place in it. A child that is a value has a number, so
that a child is equal to itself even where its value is not.
-/

namespace SqlRender

inductive Pool.Child where
  | node (index : Nat)
  | value (number : Nat) (v : Value)

structure Pool.Node where
  children : List Pool.Child
  connector : Keyword := .and
  negated : Bool := false

structure Pool where
  nodes : List Pool.Node := []
  names : List (String × Nat) := []
  /-- The number of the next child that is a value. -/
  next : Nat := 0

namespace Pool

/-- What a caller gives as a child: a predicate by its name, or a value. -/
inductive Operand where
  | name (name : String)
  | value (v : Value)

def node (p : Pool) (index : Nat) : Node := p.nodes[index]?.getD { children := [] }

/-- The place of the predicate with a name. -/
def find (p : Pool) (name : String) : Except Error Nat :=
  match Assoc.get? name p.names with
  | some index => .ok index
  | none => .error .noEntry

/-- Adds a node and gives its place. -/
def add (p : Pool) (n : Node) : Pool × Nat :=
  ({ p with nodes := p.nodes ++ [n] }, p.nodes.length)

def bindName (p : Pool) (name : String) (index : Nat) : Pool :=
  { p with names := Assoc.put name index p.names }

/-- The child that an operand stands for. -/
def child (p : Pool) : Operand → Except Error (Pool × Child)
  | .name name => do return (p, .node (← p.find name))
  | .value v => .ok ({ p with next := p.next + 1 }, .value p.next v)

def childrenOf (p : Pool) : List Operand → Except Error (Pool × List Child)
  | [] => .ok (p, [])
  | operand :: rest => do
    let (p, first) ← p.child operand
    let (p, others) ← childrenOf p rest
    return (p, first :: others)

/-- A value that a predicate may not be made with. -/
def badOperand? : Operand → Option Value
  | .name _ => none
  | .value v => if Predicate.isChild v then none else some v

/-- Makes a predicate of predicates and raw SQL, followed by lookups. -/
def make (p : Pool) (name : String) (children : List Operand) (lookups : List (String × Value)) :
    Except Error Pool := do
  if let some v := children.findSome? badOperand? then throw (Error.predicateChild v).raised
  let leaves := (Assoc.ofPairs lookups).map fun lookup => Operand.value (Predicate.leaf lookup)
  let (p, children) ← p.childrenOf (children ++ leaves)
  let (p, index) := p.add { children }
  return p.bindName name index

/-- Adds a copy of one node, or a node with a copy of both. -/
def join (p : Pool) (connector : Keyword) (a b : Node) : Pool × Nat :=
  if b.children.isEmpty then p.add a
  else if a.children.isEmpty then p.add b
  else
    let (p, i) := p.add a
    let (p, j) := p.add b
    p.add { children := [.node i, .node j], connector }

/-- Names the combination of two predicates. -/
def combine (p : Pool) (connector : Keyword) (name left right : String) : Except Error Pool := do
  let a := p.node (← p.find left)
  let b := p.node (← p.find right)
  let (p, index) := p.join connector a b
  return p.bindName name index

/-- Names a copy of a predicate with the opposite sign. -/
def negate (p : Pool) (name operand : String) : Except Error Pool := do
  let a := p.node (← p.find operand)
  let (p, index) := p.add { a with negated := !a.negated }
  return p.bindName name index

/-- Adds a child to a predicate, wherever it stands. -/
def push (p : Pool) (name : String) (operand : Operand) : Except Error Pool := do
  let index ← p.find name
  let (p, child) ← p.child operand
  let n := p.node index
  return { p with nodes := p.nodes.set index { n with children := n.children ++ [child] } }

def isEmpty (p : Pool) (name : String) : Except Error Bool := do
  return (p.node (← p.find name)).children.isEmpty

/-- The value of a node as it stands now. The fuel bounds the depth. -/
def expand (p : Pool) : Nat → Nat → Value
  | 0, _ => .null
  | fuel + 1, index =>
    let n := p.node index
    let children := n.children.map fun
      | .node child => expand p fuel child
      | .value _ v => v
    .predicate children n.connector n.negated

/-- The value of a predicate. No path through shared nodes is longer than their number. -/
def valueOf (p : Pool) (name : String) : Except Error Value := do
  return p.expand (p.nodes.length + 1) (← p.find name)

/-- Two children are equal if they are the same one, or if `equal` says so of two nodes, or if their
values are. -/
def sameChild (equal : Nat → Nat → Option Bool) (value : Nat → Value) :
    Child → Child → Option Bool
  | .node i, .node j => equal i j
  | .value m v, .value n w => if m = n then some true else v.same? w
  | .node i, .value _ w => (value i).same? w
  | .value _ v, .node j => v.same? (value j)

/-- Children are compared from the left up to the first difference. -/
def sameChildren (equal : Nat → Nat → Option Bool) (value : Nat → Value) :
    List Child → List Child → Option Bool
  | [], [] => some true
  | a :: as, b :: bs =>
    match sameChild equal value a b with
    | some true => sameChildren equal value as bs
    | other => other
  | _, _ => some false

/-- Two nodes are equal if they are the same, or if their children, connectors and signs are. None
where a comparison is refused. -/
def sameNode? (p : Pool) : Nat → Nat → Nat → Option Bool
  | 0, _, _ => none
  | fuel + 1, i, j =>
    let a := p.node i
    let b := p.node j
    if i = j then some true
    else if a.children.length ≠ b.children.length then some false
    else (sameChildren (sameNode? p fuel) (p.expand fuel) a.children b.children).map
      (· && decide (a.connector = b.connector) && a.negated == b.negated)

/-- The predicates with two names are equal. -/
def same (p : Pool) (left right : String) : Except Error Bool := do
  match p.sameNode? (p.nodes.length + 1) (← p.find left) (← p.find right) with
  | some equal => return equal
  | none => throw .invalidOperation

end Pool

end SqlRender
