import CoinAddress.Proofs.Config.Meaning

/-!
# Version bytes of documents

A version is a byte, and a document gives it as a number. Whatever number literal is put in place of a
version of a readable document, the document stays readable exactly if the literal has digits only and
denotes a byte, and then this byte is the only thing that changes in the config
(`ofJson_number_eq_ok_iff`).
-/

namespace CoinAddress.Config

open Json

namespace Entry

/-- Where a version stands in an entry. -/
inductive Place where
  | key
  | script
  | acceptable (index : Nat)
deriving DecidableEq, Repr

/-- The version at a place, if there is one. -/
def version? (entry : Entry) : Place → Option UInt8
  | .key => some entry.keyVersion
  | .script => some entry.scriptVersion
  | .acceptable index => entry.acceptable.bind (·[index]?)

/-- The entry with another version at a place. -/
def setVersion (entry : Entry) (place : Place) (version : UInt8) : Entry :=
  match place with
  | .key => { entry with keyVersion := version }
  | .script => { entry with scriptVersion := version }
  | .acceptable index => { entry with acceptable := entry.acceptable.map (·.set index version) }

/-- A value for an entry, with a hole in place of a version. -/
inductive VersionHole : Place → (Value → Value) → Prop where
  | key {hole : Value → Value} :
    Hole names "p2pkh_version" hole → VersionHole .key hole
  | script {hole : Value → Value} :
    Hole names "p2sh_version" hole → VersionHole .script hole
  | acceptable {outer inner : Value → Value} {index : Nat} :
    Hole names "acceptable_versions" outer → ElementHole index inner →
    VersionHole (.acceptable index) fun value => outer (inner value)

/-- What means an entry gives a byte for the version in the hole, and with another byte there it means the
entry with that version. -/
lemma VersionHole.replace {place : Place} {hole : Value → Value} (site : VersionHole place hole)
    {value : Value} {entry : Entry} (meant : Means (hole value) entry) :
    ∃ version, entry.version? place = some version ∧ IsByte value version ∧
      ∀ {value' : Value} {version' : UInt8}, IsByte value' version' →
        Means (hole value') (entry.setVersion place version') := by
  cases site with
  | key site =>
    obtain ⟨draft, put, puts, built, replace⟩ := site.replace lawful rfl (by decide) meant
    cases puts with
    | keyVersion _ byte =>
      obtain ⟨id, keyVersion, scriptVersion, acceptable⟩ := build_eq_ok_iff.mp built
      cases keyVersion
      refine ⟨_, rfl, byte, fun byte' => ?_⟩
      exact replace (.keyVersion rfl byte')
        (build_eq_ok_iff.mpr ⟨id, rfl, scriptVersion, acceptable⟩)
    | _ => contradiction
  | script site =>
    obtain ⟨draft, put, puts, built, replace⟩ := site.replace lawful rfl (by decide) meant
    cases puts with
    | scriptVersion _ byte =>
      obtain ⟨id, keyVersion, scriptVersion, acceptable⟩ := build_eq_ok_iff.mp built
      cases scriptVersion
      refine ⟨_, rfl, byte, fun byte' => ?_⟩
      exact replace (.scriptVersion rfl byte')
        (build_eq_ok_iff.mpr ⟨id, keyVersion, rfl, acceptable⟩)
    | _ => contradiction
  | @acceptable outer inner index site element =>
    obtain ⟨draft, put, puts, built, replace⟩ := site.replace lawful rfl (by decide) meant
    cases puts with
    | acceptable _ versions =>
      obtain ⟨id, keyVersion, scriptVersion, acceptable⟩ := build_eq_ok_iff.mp built
      obtain ⟨name, key, script, listed⟩ := entry
      cases acceptable
      generalize eq : inner value = elements at versions
      cases versions with
      | none =>
        obtain ⟨_⟩ := element
        cases eq
      | some versions =>
        subst eq
        obtain ⟨version, found, byte, replace'⟩ := element.replace versions
        refine ⟨version, found, byte, fun byte' => ?_⟩
        exact replace (.acceptable rfl (.some (replace' byte')))
          (build_eq_ok_iff.mpr ⟨id, keyVersion, scriptVersion, rfl⟩)
    | _ => contradiction

end Entry

/-- The version at a place of an entry, if there is one. -/
def version? (config : Config) (index : Nat) (place : Entry.Place) : Option UInt8 :=
  config.entries[index]?.bind (·.version? place)

/-- The config with another version at a place of an entry. -/
def setVersion (config : Config) (index : Nat) (place : Entry.Place) (version : UInt8) : Config :=
  ⟨config.entries.modify index (·.setVersion place version)⟩

/-- Setting a version changes the entry at the index. -/
lemma setVersion_of_getElem? {config : Config} {index : Nat} {place : Entry.Place} {entry : Entry}
    {version : UInt8} (found : config.entries[index]? = some entry) :
    config.setVersion index place version
      = ⟨config.entries.set index (entry.setVersion place version)⟩ := by
  rw [setVersion, List.modify_eq_set_getElem?, found]
  rfl

/-- A value for a config, with a hole in place of a version of an entry. -/
inductive VersionHole (index : Nat) (place : Entry.Place) : (Value → Value) → Prop where
  | mk {outer middle inner : Value → Value} :
    Hole names "networks" outer → ElementHole index middle → Entry.VersionHole place inner →
    VersionHole index place fun value => outer (middle (inner value))

section
variable {index : Nat} {place : Entry.Place} {hole : Value → Value}

/-- What means a config gives a byte for the version in the hole, and with another byte there it means the
config with that version. -/
lemma VersionHole.replace (site : VersionHole index place hole) {value : Value} {config : Config}
    (meant : Means (hole value) config) :
    ∃ version, config.version? index place = some version ∧ IsByte value version ∧
      ∀ {value' : Value} {version' : UInt8}, IsByte value' version' →
        Means (hole value') (config.setVersion index place version') := by
  obtain ⟨outer, middle, inner⟩ := site
  obtain ⟨draft, _, ⟨_, list⟩, built, replace⟩ :=
    outer.replace lawful rfl (List.mem_singleton_self _) meant
  cases built
  obtain ⟨entry, found, meant, replace'⟩ := middle.replace list
  obtain ⟨version, version_eq, byte, replace''⟩ := inner.replace meant
  refine ⟨version, (congrArg (Option.bind · _) found).trans version_eq, byte, fun byte' => ?_⟩
  apply replace (.networks rfl (replace' (replace'' byte')))
  exact congrArg Except.ok (setVersion_of_getElem? found).symm

/-- A number in place of a version is read as that version if it is a byte in digits, and with any
other number no config is read. No other part of the config changes. -/
theorem ofJson_number_eq_ok_iff (site : VersionHole index place hole) {value₀ : Value}
    {document₀ : String} {config₀ : Config} (spelled₀ : (hole value₀).Document document₀)
    (readable : ofJson document₀ = .ok config₀) {literal : List Char} {document : String}
    (shape : Numeral.Literal literal) (spelled : (hole (.number literal)).Document document)
    (config : Config) :
    ofJson document = .ok config
      ↔ (∀ c ∈ literal, c.isDigit) ∧
        ∃ version : UInt8, version.toNat = Nat.ofDigitChars 10 literal 0 ∧
          config.version? index place = some version ∧
          config = config₀.setVersion index place version := by
  obtain ⟨_, _, _, replace⟩ := site.replace ((ofJson_eq_ok_iff spelled₀).mp readable)
  constructor
  · intro read
    obtain ⟨version, found, byte, _⟩ := site.replace ((ofJson_eq_ok_iff spelled).mp read)
    have replaced := (ofJson_eq_ok_iff spelled).mpr (replace byte)
    obtain ⟨plain, eq⟩ := byte
    refine ⟨plain.all, version, eq.symm, found, ?_⟩
    exact Except.ok.inj (read.symm.trans replaced)
  · rintro ⟨all, version, eq, _, rfl⟩
    exact (ofJson_eq_ok_iff spelled).mpr (replace (.mk (shape.plain_iff.mpr all) eq.symm))

end

/-- A config of one network as arrays, with a hole in place of the first version. -/
def versionAt (value : Value) : Value :=
  .array [.array [.array [.string ['a'], value, .number ['2']]]]

/-- The hole is in place of the first version. -/
lemma versionHole_versionAt : VersionHole 0 .key versionAt := by
  have outer : Hole names "networks" fun value => .array ([] ++ value :: []) := .array rfl
  have middle : ElementHole 0 fun value => .array ([] ++ value :: []) := .mk rfl
  have inner : Hole Entry.names "p2pkh_version"
      fun value => .array ([.string ['a']] ++ value :: [.number ['2']]) := .array rfl
  exact .mk outer middle (.key inner)

/-- The document with a literal in place of the version. -/
def versionText (literal : List Char) : String :=
  "[[[\"a\"," ++ String.ofList literal ++ ",2]]]"

/-- With a literal in the hole the text is a document. -/
lemma document_versionText {literal : List Char} (shape : Numeral.Literal literal) :
    (versionAt (.number literal)).Document (versionText literal) := by
  have text : Spells ['a'] ['a'] := spells_of_shown (by decide)
  have two : Numeral.Literal ['2'] := Numeral.Plain.literal (by decide)
  have nil := blank_nil
  have entry : (Value.array [.string ['a'], .number literal, .number ['2']]).Spelled _ :=
    .array (.cons (.string text.wellFormed) (.cons (.number shape) (.cons (.number two) .nil)))
      (.first nil (.next nil nil (.next nil nil (.close nil))))
  have entries : (Value.array [.array [.string ['a'], .number literal, .number ['2']]]).Spelled _ :=
    .array (.cons entry .nil) (.first nil (.close nil))
  refine ⟨[], _, [], nil, nil, .array (.cons entries .nil) (.first nil (.close nil)), ?_⟩
  simp [versionText]

/-- With a one in the hole the document is readable. -/
lemma ofJson_versionText_one : ofJson (versionText ['1']) = .ok ⟨[⟨"a", 1, 2, none⟩]⟩ := by
  have text : Spells ['a'] "a".toList := spells_of_shown (by decide)
  have entry : Entry.Means (.array [.string ['a'], .number ['1'], .number ['2']])
      ⟨"a", 1, 2, none⟩ :=
    .array (.cons (.id rfl (.mk text)) (.cons (.keyVersion rfl (.mk (by decide) rfl))
      (.cons (.scriptVersion rfl (.mk (by decide) rfl)) .nil))) rfl
  have meant : Means (versionAt (.number ['1'])) ⟨[⟨"a", 1, 2, none⟩]⟩ :=
    .array (.cons (.networks rfl (.mk (.cons entry .nil))) .nil) rfl
  exact (ofJson_eq_ok_iff (document_versionText (Numeral.Plain.literal (by decide)))).mpr meant

/-- The version one may be replaced by 255. A number that is one up to a multiple of `2 ^ 64` makes the
document no config. -/
theorem ofJson_number_eq_ok_iff_wrapped :
    VersionHole 0 .key versionAt ∧ ofJson (versionText ['1']) = .ok ⟨[⟨"a", 1, 2, none⟩]⟩ ∧
      ofJson (versionText "255".toList) = .ok ⟨[⟨"a", 255, 2, none⟩]⟩ ∧
      ∀ config, ofJson (versionText "18446744073709551617".toList) ≠ .ok config := by
  have one : Numeral.Literal ['1'] := Numeral.Plain.literal (by decide)
  have plain : Numeral.Plain "255".toList := by decide
  have greatest : Numeral.Literal "255".toList := plain.literal
  have large : Numeral.Literal "18446744073709551617".toList := Numeral.Plain.literal (by decide)
  refine ⟨versionHole_versionAt, ofJson_versionText_one, ?_, ?_⟩
  · apply (ofJson_number_eq_ok_iff versionHole_versionAt (document_versionText one)
      ofJson_versionText_one greatest (document_versionText greatest) _).mpr
    exact ⟨plain.all, 255, by decide, rfl, rfl⟩
  · intro config read
    obtain ⟨_, version, eq, _⟩ := (ofJson_number_eq_ok_iff versionHole_versionAt
      (document_versionText one) ofJson_versionText_one large (document_versionText large) _).mp read
    have value : Nat.ofDigitChars 10 "18446744073709551617".toList 0 = 18446744073709551617 := by
      decide
    have lt := version.toNat_lt
    omega

end CoinAddress.Config
