import Registrar.Registry

/-!
# Sessions with a registry

An item is registered in two steps. A decorator is made for a key, which never fails, and it is
applied to the item later, which fails if the key is taken by then. A decorator can be applied any
number of times, and others can be made and applied in between. An item that is found by its key
can make instances of itself out of arguments, and that may fail for reasons of its own.
-/

namespace Registrar.Registry

variable {α β κ ε ι : Type}

/-- The same key taken by another holder. -/
def Taken.map (f : α → β) (e : Taken α) : Taken β :=
  { registry := e.registry, key := e.key, holder := f e.holder }

/-- What the item of a key makes. -/
def create (r : Registry α) (key : String) (make : α → β) : Except Unknown β :=
  (r.get key).map make

/-- A use of a registry. -/
inductive Use (α κ : Type) where
  /-- A decorator is made for a key. -/
  | decorator (key : String)
  /-- A decorator is applied to an item. Decorators are counted in the order in which they are
  made. -/
  | apply (decorator : Nat) (item : α)
  /-- The item of a key is asked for. -/
  | get (key : String)
  /-- The item of a key makes an instance out of arguments. -/
  | create (key : String) (arguments : κ)
  /-- The keys are asked for. -/
  | keys
  /-- It is asked whether a key is registered. -/
  | contains (key : String)
  /-- The number of keys is asked for. -/
  | size
  deriving DecidableEq, Repr

/-- What comes of a use. -/
inductive Answer (α ε ι : Type) where
  /-- The decorator is there. -/
  | made
  /-- An item: the one of a key, or the one that was registered. -/
  | item (item : α)
  /-- An instance, or why there is none. -/
  | created (result : Except ε ι)
  /-- Keys. -/
  | names (keys : List String)
  /-- Yes or no. -/
  | truth (yes : Bool)
  /-- A number. -/
  | number (n : Nat)
  /-- The key is taken. -/
  | taken (e : Taken α)
  /-- No item has the key. -/
  | unknown (e : Unknown)
  /-- The decorator was never made. -/
  | noDecorator

namespace Answer

/-- The use fails. -/
def isFailure : Answer α ε ι → Bool
  | taken _ | unknown _ | noDecorator => true
  | created (.error _) => true
  | _ => false

/-- The message of a failure of the registry, given how items are called. -/
def message? (label : α → String) : Answer α ε ι → Option String
  | taken e => some (e.map label).message
  | unknown e => some e.message
  | _ => none

end Answer

/-- A registry with the decorators that are made for it. -/
structure Session (α : Type) where
  /-- The registry. -/
  registry : Registry α := {}
  /-- The keys of the decorators in the order in which they are made. -/
  decorators : List String := []

namespace Session

/-- The session with an empty registry of a name. -/
def opened (name : String) : Session α :=
  { registry := { name } }

variable (construct : α → κ → Except ε ι)

/-- What comes of a use, and the session behind it. -/
def step (s : Session α) : Use α κ → Answer α ε ι × Session α
  | .decorator key => (.made, { s with decorators := s.decorators ++ [key] })
  | .apply n item =>
    match s.decorators[n]? with
    | none => (.noDecorator, s)
    | some key =>
      match s.registry.register key item with
      | .ok registry => (.item item, { s with registry })
      | .error e => (.taken e, s)
  | .get key =>
    match s.registry.get key with
    | .ok item => (.item item, s)
    | .error e => (.unknown e, s)
  | .create key arguments =>
    match s.registry.create key fun item => construct item arguments with
    | .ok result => (.created result, s)
    | .error e => (.unknown e, s)
  | .keys => (.names s.registry.keys, s)
  | .contains key => (.truth (s.registry.contains key), s)
  | .size => (.number s.registry.size, s)

/-- What comes of a use. -/
def answer (s : Session α) (u : Use α κ) : Answer α ε ι :=
  (s.step construct u).1

/-- The session behind a use. -/
def next (s : Session α) (u : Use α κ) : Session α :=
  (s.step construct u).2

/-- The session behind some uses. -/
def after (s : Session α) (uses : List (Use α κ)) : Session α :=
  uses.foldl (next construct) s

/-- What comes of a use behind some uses of a registry of a name. -/
def outcome (name : String) (uses : List (Use α κ)) (u : Use α κ) : Answer α ε ι :=
  ((opened name).after construct uses).answer construct u

end Session

end Registrar.Registry
