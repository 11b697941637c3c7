import SqlRender.Value.Access

/-!
# Registries

A registry holds one item for each key, in the order of first registration, and can be frozen. All
keys are of one type, and equal values are one key. A registration after the freeze fails whatever
its key is; before it, a key is refused if it has another type or cannot be the key of a map.
-/

namespace SqlRender

/-- A type whose members can be keys of a registry. -/
class RegistryKey (κ : Type) where
  /-- The key that a value is. One that cannot be the key of a map is none. -/
  ofValue? : Value → Option κ
  toValue : κ → Value
  typeName : String
  /-- The value has the type of the keys. -/
  isTyped : Value → Bool := fun v => (ofValue? v).isSome

instance : RegistryKey Keyword where
  ofValue? | .keyword k => some k | _ => none
  toValue := .keyword
  typeName := "Keyword"

instance : RegistryKey Clause where
  ofValue? | .clause c => some c | _ => none
  toValue := .clause
  typeName := "Clause"

instance : RegistryKey StatementKind where
  ofValue? | .kind k => some k | _ => none
  toValue := .kind
  typeName := "QueryKind"

instance : RegistryKey String where
  ofValue? | .text s => some s | _ => none
  toValue := .text
  typeName := "str"

structure Registry (κ ν : Type) where
  /-- The name of the owner, null if there is none. -/
  owner : Value
  entries : List (κ × ν) := []
  frozen : Bool := false

namespace Registry

variable {κ ν : Type} [BEq κ] [RegistryKey κ]

/-- The item of a key. -/
def item? (r : Registry κ ν) (key : κ) : Option ν := Assoc.get? key r.entries

/-- Gives an item to a key, frozen or not. -/
def put (r : Registry κ ν) (key : κ) (item : ν) : Registry κ ν :=
  { r with entries := Assoc.put key item r.entries }

def freeze (r : Registry κ ν) : Registry κ ν := { r with frozen := true }

/-- Registers an item under a value. -/
def register (r : Registry κ ν) (key : Value) (item : ν) : Except Error (Registry κ ν) :=
  if r.frozen then .error (Error.frozen key r.owner).raised
  else if !RegistryKey.isTyped κ key then .error (.keyType (RegistryKey.typeName κ) key)
  else match RegistryKey.ofValue? key with
    | some k => .ok (r.put k item)
    | none => .error .wrongType

/-- Registers pairs in order and stops at the first that is refused; the pairs before it stay. -/
def registerAll (r : Registry κ ν) : List (Value × ν) → Registry κ ν × Except Error Unit
  | [] => (r, .ok ())
  | (key, item) :: rest =>
    match r.register key item with
    | .ok r => r.registerAll rest
    | .error e => (r, .error e)

/-- The item under a value, if it is there. The value need not have the type of the keys; one that
cannot be the key of a map is a fault. -/
def find? (r : Registry κ ν) (key : Value) : Except Error (Option ν) := do
  let key ← key.asKey
  return (r.entries.find? fun entry => RegistryKey.toValue entry.1 == key).map Prod.snd

/-- The item under a value; `missing` makes the error for an absent one from key and owner. -/
def lookup (r : Registry κ ν) (missing : Value → Value → Error) (key : Value) :
    Except Error ν := do
  match ← r.find? key with
  | some item => return item
  | none => throw (missing key r.owner).raised

/-- The keys as values, in order of first registration. -/
def keys (r : Registry κ ν) : List Value := r.entries.map fun entry => RegistryKey.toValue entry.1

end Registry

end SqlRender
