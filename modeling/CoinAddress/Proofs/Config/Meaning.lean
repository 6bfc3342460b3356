import CoinAddress.Config.Json
import CoinAddress.Proofs.Json.FieldOrder

/-!
# What configs are read from

An entry is given by its id, its two versions and the versions that it accepts, and a config by its
entries. Each of these is read into a place of its own (`Entry.lawful`, `lawful`), so a document is
read as a config exactly if its value means the config (`ofJson_eq_ok_iff`).
-/

namespace CoinAddress.Config

open Json

namespace Entry

/-- What the value for the field of a name puts into the draft of an entry. -/
inductive Puts (name : String) (value : Value) : (Draft → Draft) → Prop where
  | id {id : String} :
    name = "id" → IsText value id → Puts name value fun draft => { draft with id := some id }
  | keyVersion {version : UInt8} :
    name = "p2pkh_version" → IsByte value version →
    Puts name value fun draft => { draft with keyVersion := some version }
  | scriptVersion {version : UInt8} :
    name = "p2sh_version" → IsByte value version →
    Puts name value fun draft => { draft with scriptVersion := some version }
  | acceptable {versions : Option (List UInt8)} :
    name = "acceptable_versions" → IsNullable (IsList IsByte) value versions →
    Puts name value fun draft => { draft with acceptable := some versions }

/-- The names of the fields in order. -/
def names : List String :=
  ["id", "p2pkh_version", "p2sh_version", "acceptable_versions"]

/-- The word null is no list. -/
lemma not_isList_null {α : Type} {means : Value → α → Prop} (as : List α) :
    ¬ IsList means .null as := nofun

/-- Each field of an entry is read into a place of its own. -/
theorem lawful : shape.Lawful Puts where
  decodes := by
    have acceptable := (decodes_byte.list).nullable not_isList_null
    simp only [shape, List.forall_mem_cons]
    refine ⟨(decodes_string.map _).of_iff fun value put => ⟨?_, ?_⟩,
      (decodes_byte.map _).of_iff fun value put => ⟨?_, ?_⟩,
      (decodes_byte.map _).of_iff fun value put => ⟨?_, ?_⟩,
      (acceptable.map _).of_iff fun value put => ⟨?_, ?_⟩, nofun⟩
    · intro puts
      cases puts with
      | id _ text => exact ⟨_, text, rfl⟩
      | _ => contradiction
    · rintro ⟨id, text, rfl⟩
      exact .id rfl text
    · intro puts
      cases puts with
      | keyVersion _ byte => exact ⟨_, byte, rfl⟩
      | _ => contradiction
    · rintro ⟨version, byte, rfl⟩
      exact .keyVersion rfl byte
    · intro puts
      cases puts with
      | scriptVersion _ byte => exact ⟨_, byte, rfl⟩
      | _ => contradiction
    · rintro ⟨version, byte, rfl⟩
      exact .scriptVersion rfl byte
    · intro puts
      cases puts with
      | acceptable _ bytes => exact ⟨_, bytes, rfl⟩
      | _ => contradiction
    · rintro ⟨versions, bytes, rfl⟩
      exact .acceptable rfl bytes
  nodup := by decide
  blank := by
    simp only [shape, List.forall_mem_cons]
    exact ⟨rfl, rfl, rfl, rfl, nofun⟩
  isSet_put := by
    simp only [shape, List.forall_mem_cons]
    refine ⟨?_, ?_, ?_, ?_, nofun⟩
    all_goals
      intro name value put puts draft
      cases puts <;> subst name <;> rfl
  commute := by
    intro name name' value value' put put' puts puts' other draft
    cases puts with
    | id same =>
      cases puts' with
      | id same' => exact absurd (same.trans same'.symm) other
      | _ => rfl
    | keyVersion same =>
      cases puts' with
      | keyVersion same' => exact absurd (same.trans same'.symm) other
      | _ => rfl
    | scriptVersion same =>
      cases puts' with
      | scriptVersion same' => exact absurd (same.trans same'.symm) other
      | _ => rfl
    | acceptable same =>
      cases puts' with
      | acceptable same' => exact absurd (same.trans same'.symm) other
      | _ => rfl

/-- A draft makes an entry if it has the id and both versions. -/
lemma build_eq_ok_iff {draft : Draft} {entry : Entry} :
    shape.build draft = .ok entry
      ↔ draft.id = some entry.id ∧ draft.keyVersion = some entry.keyVersion ∧
          draft.scriptVersion = some entry.scriptVersion ∧
          draft.acceptable.getD none = entry.acceptable := by
  obtain ⟨id, keyVersion, scriptVersion, acceptable⟩ := draft
  constructor
  · intro built
    cases id with
    | none => cases built
    | some id =>
      cases keyVersion with
      | none => cases built
      | some keyVersion =>
        cases scriptVersion with
        | none => cases built
        | some scriptVersion =>
          cases built
          exact ⟨rfl, rfl, rfl, rfl⟩
  · obtain ⟨id', keyVersion', scriptVersion', acceptable'⟩ := entry
    rintro ⟨⟨⟩, ⟨⟩, ⟨⟩, eq⟩
    dsimp only at eq
    subst eq
    rfl

/-- What a value means as an entry. -/
def Means : Value → Entry → Prop :=
  shape.Means Puts

end Entry

/-- What the value for the field of a name puts into the draft of a config. -/
inductive Puts (name : String) (value : Value) : (Draft → Draft) → Prop where
  | networks {entries : List Entry} :
    name = "networks" → IsList Entry.Means value entries →
    Puts name value fun _ => ⟨some entries⟩

/-- The name of the only field. -/
def names : List String :=
  ["networks"]

/-- The only field of a config has a place of its own. -/
theorem lawful : shape.Lawful Puts where
  decodes := by
    have entries := (Shape.decodes_reader Entry.lawful.decodes).list
    simp only [shape, List.forall_mem_cons]
    refine ⟨(entries.map _).of_iff fun value put => ⟨?_, ?_⟩, nofun⟩
    · rintro ⟨_, list⟩
      exact ⟨_, list, rfl⟩
    · rintro ⟨entries, list, rfl⟩
      exact .networks rfl list
  nodup := by decide
  blank := by
    simp only [shape, List.forall_mem_cons]
    exact ⟨rfl, nofun⟩
  isSet_put := by
    simp only [shape, List.forall_mem_cons]
    refine ⟨?_, nofun⟩
    rintro name value put ⟨rfl, _⟩ draft
    rfl
  commute := by
    rintro name name' value value' put put' ⟨same, _⟩ ⟨same', _⟩ other
    exact absurd (same.trans same'.symm) other

/-- What a value means as a config. -/
def Means : Value → Config → Prop :=
  shape.Means Puts

/-- A document is read exactly as the config that its value means. -/
theorem ofJson_eq_ok_iff {value : Value} {document : String} (spelled : value.Document document)
    {config : Config} : ofJson document = .ok config ↔ Means value config := by
  rw [ofJson, Outcome.mapError_eq_ok_iff]
  exact (Shape.decodes_reader lawful.decodes).document_eq_ok_iff spelled

end CoinAddress.Config
