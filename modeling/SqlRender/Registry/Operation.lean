import SqlRender.Registry

/-!
# Operations on registries

A registry holds symbols or statements. Symbols keep what they are given. A registry of statements
makes a statement of a template that is given without one, and has no other way to read an item than
one that fails if there is none.
-/

namespace SqlRender.Registry

inductive Kind where
  | symbols | statements
deriving DecidableEq, Repr

/-- What is registered under a key: a value, or a statement with its template. -/
inductive Item where
  | value (v : Value)
  | statement (template : Value)
deriving Repr

namespace Kind

/-- What is kept of an item that is given. -/
def coerce : Kind → Item → Item
  | .statements, .value template => .statement template
  | _, item => item

/-- The error for a key without an item. -/
def missing : Kind → Value → Value → Error
  | .symbols => .unknownSymbol
  | .statements => .unsupportedStatement

end Kind

inductive Operation where
  | register (key : Value) (item : Item)
  | registerAll (pairs : List (Value × Item))
  | freeze
  | lookup (key : Value)
  /-- The default stands for an item that is not there. -/
  | get (key default : Value)
  | contains (key : Value)
  | keys
deriving Repr

/-- What an operation answers. -/
inductive Answer where
  | done
  | item (item : Item)
  | flag (b : Bool)
  | keys (keys : List Value)
deriving Repr

variable {κ : Type} [BEq κ] [RegistryKey κ]

/-- Registers pairs as the kind of registry keeps them. -/
def write (kind : Kind) (r : Registry κ Item) (pairs : List (Value × Item)) :
    Registry κ Item × Except Error Answer :=
  let (r, result) := r.registerAll (pairs.map fun pair => (pair.1, kind.coerce pair.2))
  (r, result.map fun _ => .done)

/-- The item of a key, which has to be there. -/
def require (kind : Kind) (r : Registry κ Item) (key : Value) : Except Error Answer :=
  .item <$> r.lookup kind.missing key

/-- The registry after an operation, and its answer. -/
def step (kind : Kind) (r : Registry κ Item) :
    Operation → Registry κ Item × Except Error Answer
  | .register key item => r.write kind [(key, item)]
  | .registerAll pairs => r.write kind pairs
  | .freeze => (r.freeze, .ok .done)
  | .lookup key =>
    (r, match kind with
      | .symbols => r.require kind key
      | .statements => .error .noMember)
  | .get key default =>
    (r, match kind with
      | .symbols => do return .item ((← r.find? key).getD (.value default))
      | .statements => r.require kind key)
  | .contains key => (r, do return .flag (← r.find? key).isSome)
  | .keys => (r, .ok (.keys r.keys))

/-- The registry after operations, one after the other. -/
def run (kind : Kind) (r : Registry κ Item) (ops : List Operation) : Registry κ Item :=
  ops.foldl (fun r op => (r.step kind op).1) r

end SqlRender.Registry
