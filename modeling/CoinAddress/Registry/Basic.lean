import CoinAddress.Registry.Record

/-!
# The registry

A registry holds the built-in networks and those registered since, in the order of registration.
Every search looks at the built-in networks first and then at the registered ones, the earliest
first. Every change is a pure step that returns an answer, the registry afterwards and the records
it wrote.
-/

namespace CoinAddress

/-- The networks that an address may belong to. -/
structure Registry where
  /-- The networks that are not built in, earliest first. One id may occur more than once. -/
  registered : List Network
deriving DecidableEq, Repr

namespace Registry

/-- The answer of an operation, the registry after it, and what it wrote to the journal. -/
structure Change (α : Type) where
  /-- The answer. -/
  answer : α
  /-- The registry after the operation. -/
  registry : Registry
  /-- The records of the operation, in order. -/
  journal : List Record

/-- An answer that changes nothing and writes nothing. -/
def Change.unchanged {α : Type} (registry : Registry) (answer : α) : Change α :=
  ⟨answer, registry, []⟩

/-- The change with another answer. -/
def Change.map {α β : Type} (f : α → β) (change : Change α) : Change β :=
  ⟨f change.answer, change.registry, change.journal⟩

/-- The registry of the built-in networks alone. -/
def initial : Registry := ⟨[]⟩

/-- All networks in search order. -/
def networks (registry : Registry) : List Network :=
  Network.builtins ++ registry.registered

/-- The number of networks, built-in ones included. -/
def size (registry : Registry) : Nat :=
  Network.builtins.length + registry.registered.length

/-- Whether there is no network. -/
def isEmpty (registry : Registry) : Bool :=
  registry.networks.isEmpty

/-- The networks that accept a version, in search order. -/
def findByVersion (registry : Registry) (version : UInt8) : List Network :=
  (Network.builtins ++ registry.registered).filter (·.accepts version)

/-- The built-in network with an id or, if there is none, the first registered one. -/
def findById? (registry : Registry) (id : String) : Option Network :=
  match Network.builtins.find? (·.id = id) with
  | some builtin => some builtin
  | none => registry.registered.find? (·.id = id)

/-- The record of an attempt to register a network. -/
def registrationRecord (network : Network) : Record :=
  if Network.isBuiltinId network.id then .registrationRefused network.id
  else .registered network.id network.acceptable

/-- Appends the networks of a batch, except those with a built-in id, and answers how many. -/
def registerAll (registry : Registry) (batch : List Network) : Change Nat :=
  let accepted := batch.filter (!Network.isBuiltinId ·.id)
  { answer := accepted.length
    registry := ⟨registry.registered ++ accepted⟩
    journal := batch.map registrationRecord }

/-- Appends a network unless its id is built in, and answers whether it did. -/
def register (registry : Registry) (network : Network) : Change Bool :=
  (registry.registerAll [network]).map (· = 1)

/-- Removes the first registered network with an id, and answers whether there was one. -/
def unregisterId (registry : Registry) (id : String) : Change Bool :=
  if Network.isBuiltinId id then ⟨false, registry, [.removalRefused id]⟩
  else
    match registry.registered.findIdx? (·.id = id) with
    | some index => ⟨true, ⟨registry.registered.eraseIdx index⟩, [.removed id]⟩
    | none => .unchanged registry false

/-- Removes the first registered network with the id of the given one. -/
def unregister (registry : Registry) (network : Network) : Change Bool :=
  registry.unregisterId network.id

end Registry

end CoinAddress
