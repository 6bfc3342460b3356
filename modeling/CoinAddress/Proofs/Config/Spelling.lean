import CoinAddress.Proofs.Config.Meaning

/-!
# Spellings of configs

A config is spelled with its fields in any order, among members of other names or in an array of their
own order, and with what is empty or open left out. Every spelling is read as the config, while a value
that repeats a field or lacks one is read as no config (`ofJson_eq_ok_of_spelling`).
-/

namespace CoinAddress.Config

open Json

namespace Entry

/-- The values for the fields of the entry in order. Acceptable versions that are left open are given
as null or not at all. -/
inductive Row (entry : Entry) : List Value → Prop where
  | short {id keyVersion scriptVersion : Value} :
    entry.acceptable = none → IsText id entry.id → IsByte keyVersion entry.keyVersion →
    IsByte scriptVersion entry.scriptVersion → Row entry [id, keyVersion, scriptVersion]
  | full {id keyVersion scriptVersion versions : Value} :
    IsText id entry.id → IsByte keyVersion entry.keyVersion →
    IsByte scriptVersion entry.scriptVersion →
    IsNullable (IsList IsByte) versions entry.acceptable →
    Row entry [id, keyVersion, scriptVersion, versions]

/-- The value is a spelling of the entry. -/
def Spelling (entry : Entry) (value : Value) : Prop :=
  Struct names entry.Row value

/-- The names of the fields that every entry has. -/
def requiredNames : List String :=
  ["id", "p2pkh_version", "p2sh_version"]

/-- No entry is made without its required fields. -/
lemma isSet_of_build {field : Json.Field Draft} (mem : field ∈ shape.fields)
    (need : field.key ∈ requiredNames) {draft : Draft} {entry : Entry}
    (built : shape.build draft = .ok entry) : field.isSet draft = true := by
  obtain ⟨id, keyVersion, scriptVersion, _⟩ := build_eq_ok_iff.mp built
  simp only [shape, List.mem_cons, List.not_mem_nil, or_false] at mem
  rcases mem with rfl | rfl | rfl | rfl
  · exact congrArg Option.isSome id
  · exact congrArg Option.isSome keyVersion
  · exact congrArg Option.isSome scriptVersion
  · exact absurd need (by decide)

/-- What means an entry has all required fields. -/
lemma Means.has {entry : Entry} {value : Value} (meant : Means value entry) :
    ∀ name ∈ requiredNames, Has names name value := by
  intro name need
  obtain ⟨field, mem, rfl⟩ : ∃ field ∈ shape.fields, field.key = name :=
    List.mem_map.mp (List.mem_append_left ["acceptable_versions"] need)
  exact lawful.has mem (isSet_of_build mem need) rfl meant

end Entry

/-- The values for the fields of the config in order. Networks that there are none of may be left out. -/
inductive Row (config : Config) : List Value → Prop where
  | short :
    config.entries = [] → Row config []
  | full {elements : List Value} :
    List.Forall₂ (fun value entry => Entry.Spelling entry value) elements config.entries →
    Row config [.array elements]

/-- The value is a spelling of the config. -/
def Spelling (config : Config) (value : Value) : Prop :=
  Struct names config.Row value

/-- The elements of an array that is given for the networks of a config. -/
inductive Networks : Value → List Value → Prop where
  | mk {hole : Value → Value} {elements : List Value} :
    Hole names "networks" hole → Networks (hole (.array elements)) elements

/-- A field is given twice, to the config or to an entry, or an entry is not given a required one. -/
inductive Faulty (value : Value) : Prop where
  | repeats {name : String} :
    name ∈ names → Repeats name value → Faulty value
  | entryRepeats {elements : List Value} {element : Value} {name : String} :
    Networks value elements → element ∈ elements → name ∈ Entry.names → Repeats name element →
    Faulty value
  | entryLacks {elements : List Value} {element : Value} {name : String} :
    Networks value elements → element ∈ elements → name ∈ Entry.requiredNames →
    ¬ Has Entry.names name element → Faulty value

end CoinAddress.Config
