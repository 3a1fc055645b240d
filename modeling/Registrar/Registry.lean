import Registrar.NameMap

/-!
# Registries

A registry maps keys to items in the order in which they were registered. The first item of a
key stays: registering a taken key fails and changes nothing.
-/

namespace Registrar

/-- Items by key. -/
structure Registry (α : Type) where
  /-- What the registry is called in error messages. -/
  name : String := "registry"
  /-- The keys with their items in the order of registration. -/
  entries : List (String × α) := []
  deriving DecidableEq, Repr

namespace Registry

variable {α : Type}

/-- A key that was registered before. -/
structure Taken (α : Type) where
  /-- The name of the registry. -/
  registry : String
  /-- The key. -/
  key : String
  /-- The item that has it. -/
  holder : α
  deriving DecidableEq, Repr

/-- A key that was never registered. -/
structure Unknown where
  /-- The name of the registry. -/
  registry : String
  /-- The key. -/
  key : String
  /-- The registered keys in increasing order. -/
  available : List String
  deriving DecidableEq, Repr

/-- The message for a taken key, given the name of its holder. -/
def Taken.message (e : Taken String) : String :=
  e.registry ++ ": key '" ++ e.key ++ "' already registered to " ++ e.holder

/-- The message for an unknown key. -/
def Unknown.message (e : Unknown) : String :=
  e.registry ++ ": unknown key '" ++ e.key ++ "'. Available: " ++ ", ".intercalate e.available

/-- The item of a key, if it has one. -/
def find? (r : Registry α) (key : String) : Option α :=
  (r.entries.find? fun e => e.1 = key).map Prod.snd

/-- The keys in the order of registration. -/
def keys (r : Registry α) : List String :=
  r.entries.map Prod.fst

/-- The key is registered. -/
def contains (r : Registry α) (key : String) : Bool :=
  (r.find? key).isSome

/-- The number of registered keys. -/
def size (r : Registry α) : Nat :=
  r.entries.length

/-- Registers an item behind the others, unless its key is taken. -/
def register (r : Registry α) (key : String) (item : α) : Except (Taken α) (Registry α) :=
  match r.find? key with
  | some holder => .error { registry := r.name, key, holder }
  | none => .ok { r with entries := r.entries ++ [(key, item)] }

/-- The item of a key. -/
def get (r : Registry α) (key : String) : Except Unknown α :=
  match r.find? key with
  | some item => .ok item
  | none => .error { registry := r.name, key, available := sortNames r.keys }

end Registry

end Registrar
