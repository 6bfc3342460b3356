import CoinAddress.Network

/-!
# Journal records

What a registry does is written to a journal. A record is data, and its line is made from it.
-/

namespace CoinAddress.Registry

/-- How much a record matters. -/
inductive Level where
  /-- Work as usual. -/
  | debug
  /-- A refused request. -/
  | warn
deriving DecidableEq, Repr

/-- The name of the level. -/
def Level.label : Level → String
  | debug => "DEBUG"
  | warn => "WARN"

/-- What happened. -/
inductive Record where
  /-- A network was appended. -/
  | registered (id : String) (versions : List UInt8)
  /-- A network was not appended, because its id belongs to a built-in one. -/
  | registrationRefused (id : String)
  /-- The first network with the id was removed. -/
  | removed (id : String)
  /-- A built-in network was not removed. -/
  | removalRefused (id : String)
  /-- A config was registered, and so many of its networks were appended. -/
  | configRegistered (count : Nat)
  /-- A version was resolved although further networks accept it. -/
  | shadowed (version : UInt8) (winner : String) (others : List String)
deriving DecidableEq, Repr

namespace Record

/-- The level of a record. -/
def level : Record → Level
  | registrationRefused _ | removalRefused _ => .warn
  | registered .. | removed _ | configRegistered _ | shadowed .. => .debug

/-- The text of a record. -/
def message : Record → String
  | registered id versions =>
    s!"registry: registering network {id} (versions {Hex.list versions})"
  | registrationRefused id => s!"registry: refusing to register network with built-in id {id}"
  | removed id => s!"registry: unregistered network {id}"
  | removalRefused id => s!"registry: refusing to unregister built-in network {id}"
  | configRegistered count => s!"registry: registered {count} networks from config"
  | shadowed version winner others =>
    s!"resolver: version 0x{Hex.byte version} resolved to {winner}, shadowing "
      ++ Text.quotedList others

/-- The line of a record: its level and its text. -/
def line (record : Record) : String :=
  s!"{record.level.label} {record.message}"

end Record

end CoinAddress.Registry
