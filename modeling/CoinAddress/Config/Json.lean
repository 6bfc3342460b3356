import CoinAddress.Config.Basic
import CoinAddress.Json.Layout
import CoinAddress.Json.Shape

/-!
# Configs as JSON

A config document is an object with the member `networks`, or an array of that one field. Each
network has an id, two versions and, if they are not left open, its acceptable versions.
-/

namespace CoinAddress.Config

/-- What has been read of an entry. -/
structure Entry.Draft where
  /-- The name of the network. -/
  id : Option String := none
  /-- The version of addresses that pay to a key hash. -/
  keyVersion : Option UInt8 := none
  /-- The version of addresses that pay to a script hash. -/
  scriptVersion : Option UInt8 := none
  /-- The acceptable versions, which may be given as left open. -/
  acceptable : Option (Option (List UInt8)) := none
deriving DecidableEq, Repr

/-- The entry of a draft, or the first key that is required and was not read. -/
def Entry.Draft.build (draft : Entry.Draft) : Except String Entry := do
  let some id := draft.id | throw "id"
  let some keyVersion := draft.keyVersion | throw "p2pkh_version"
  let some scriptVersion := draft.scriptVersion | throw "p2sh_version"
  return { id, keyVersion, scriptVersion, acceptable := draft.acceptable.getD none }

/-- How an entry is read. -/
def Entry.shape : Json.Shape Entry.Draft Entry where
  name := "struct NetworkSpec"
  fields :=
    [{ key := "id"
       isSet := fun draft => draft.id.isSome
       reader := Json.Reader.string.map fun id draft => { draft with id := some id } },
     { key := "p2pkh_version"
       isSet := fun draft => draft.keyVersion.isSome
       reader := Json.Reader.byte.map fun version draft =>
         { draft with keyVersion := some version } },
     { key := "p2sh_version"
       isSet := fun draft => draft.scriptVersion.isSome
       reader := Json.Reader.byte.map fun version draft =>
         { draft with scriptVersion := some version } },
     { key := "acceptable_versions"
       isSet := fun draft => draft.acceptable.isSome
       reader := (Json.Reader.nullable (Json.Reader.list Json.Reader.byte)).map
         fun versions draft => { draft with acceptable := some versions } }]
  blank := {}
  build := Entry.Draft.build

/-- What has been read of a config. -/
structure Draft where
  /-- The entries. -/
  entries : Option (List Entry) := none
deriving DecidableEq, Repr

/-- How a config is read. -/
def shape : Json.Shape Draft Config where
  name := "struct NetworkConfig"
  fields :=
    [{ key := "networks"
       isSet := fun draft => draft.entries.isSome
       reader := (Json.Reader.list Entry.shape.reader).map fun entries _ => ⟨some entries⟩ }]
  blank := {}
  build draft := .ok ⟨draft.entries.getD []⟩

/-- Why no config can be had from a document. -/
inductive Error where
  /-- The document is no config. -/
  | document (fault : Json.Fault)
  /-- An entry of the config is invalid. -/
  | entry (invalid : InvalidEntry)
deriving DecidableEq, Repr

/-- The text of the error. -/
def Error.message : Error → String
  | document fault => s!"invalid network config: {fault.message}"
  | entry invalid => invalid.message

/-- The config of a document. -/
def ofJson (text : String) : Except Error Config :=
  (shape.reader.document text).mapError .document

/-- The document of an entry at the given depth. -/
def Entry.render (depth : Nat) (entry : Entry) : List Char :=
  let versions := match entry.acceptable with
    | none => []
    | some versions =>
      [Json.member "acceptable_versions"
        (Json.array (depth + 1) (versions.map fun version => Json.natural version.toNat))]
  Json.object depth
    ([Json.member "id" (Json.quote entry.id),
      Json.member "p2pkh_version" (Json.natural entry.keyVersion.toNat),
      Json.member "p2sh_version" (Json.natural entry.scriptVersion.toNat)] ++ versions)

/-- The document of a config. -/
def toJson (config : Config) : String :=
  String.ofList
    (Json.object 0
      [Json.member "networks" (Json.array 1 (config.entries.map (Entry.render 2)))])

end CoinAddress.Config
