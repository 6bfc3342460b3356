import CoinAddress.Config.Json
import CoinAddress.Proofs.Json.Members
import CoinAddress.Proofs.Network

/-!
# Configs are read back

Every config, be its entries valid or not, is read back from its document (`ofJson_toJson`). An
entry that leaves its versions open is written without the member for them. The entry of a network
lists them all, so a document keeps the networks that it was made of if they are ones that can be made
at all (`networks_ofJson_toJson_iff`).
-/

namespace CoinAddress.Config

open Json

/-- The members that every written entry has. -/
def Entry.required (entry : Entry) : List (String × List Char) :=
  [("id", quote entry.id), ("p2pkh_version", natural entry.keyVersion.toNat),
    ("p2sh_version", natural entry.scriptVersion.toNat)]

/-- What has been read of an entry after the members that every entry has. -/
def Entry.Draft.ofRequired (entry : Entry) : Entry.Draft where
  id := some entry.id
  keyVersion := some entry.keyVersion
  scriptVersion := some entry.scriptVersion

/-- The required members fill the first three fields of a draft. -/
lemma fills_required (entry : Entry) {members : List (String × List Char)} {filled : Entry.Draft}
    (others : Shape.Fills Entry.shape (.ofRequired entry) members filled) :
    Shape.Fills Entry.shape Entry.shape.blank (entry.required ++ members) filled := by
  have id := (reads_string entry.id).map
    fun id (draft : Entry.Draft) => { draft with id := some id }
  have keyVersion := (reads_byte entry.keyVersion).map
    fun version (draft : Entry.Draft) => { draft with keyVersion := some version }
  have scriptVersion := (reads_byte entry.scriptVersion).map
    fun version (draft : Entry.Draft) => { draft with scriptVersion := some version }
  apply Shape.Fills.cons rfl rfl id
  apply Shape.Fills.cons rfl rfl keyVersion
  apply Shape.Fills.cons rfl rfl scriptVersion
  exact others

/-- A written list of versions is read back. -/
lemma reads_versions (versions : List UInt8) (depth : Nat) :
    Reads (Reader.nullable (Reader.list Reader.byte))
      (array depth (versions.map fun version => natural version.toNat)) (some versions) := by
  have elements : List.Forall₂ (Reads Reader.byte)
      (versions.map fun version => natural version.toNat) versions := by
    rw [List.forall₂_map_left_iff, List.forall₂_same]
    intro version _
    exact reads_byte version
  apply (Reads.array elements depth).nullable
  obtain ⟨tail, form⟩ := exists_block_eq_cons '[' ']' depth
    (versions.map fun version => natural version.toNat)
  rw [array, form]
  intro eq
  cases eq

/-- Every entry is read back from its written form. -/
lemma reads_render (entry : Entry) (depth : Nat) :
    Reads Entry.shape.reader (entry.render depth) entry := by
  obtain ⟨id, keyVersion, scriptVersion, acceptable⟩ := entry
  cases acceptable with
  | none => exact (fills_required ⟨id, keyVersion, scriptVersion, none⟩ .nil).reads_object rfl depth
  | some versions =>
    have listed := (reads_versions versions (depth + 1)).map
      fun versions (draft : Entry.Draft) => { draft with acceptable := some versions }
    have last : Shape.Fills Entry.shape
        (.ofRequired ⟨id, keyVersion, scriptVersion, some versions⟩)
        [("acceptable_versions",
          array (depth + 1) (versions.map fun version => natural version.toNat))]
        ⟨some id, some keyVersion, some scriptVersion, some (some versions)⟩ :=
      .cons rfl rfl listed .nil
    exact (fills_required _ last).reads_object rfl depth

/-- The object of all entries is read as the config. -/
lemma reads_object (config : Config) :
    Reads shape.reader
      (object 0 [member "networks" (array 1 (config.entries.map (Entry.render 2)))]) config := by
  have elements : List.Forall₂ (Reads Entry.shape.reader)
      (config.entries.map (Entry.render 2)) config.entries := by
    rw [List.forall₂_map_left_iff, List.forall₂_same]
    intro entry _
    exact reads_render entry 2
  have entries := (Reads.array elements 1).map
    fun entries (_ : Draft) => (⟨some entries⟩ : Draft)
  have fills : Shape.Fills shape shape.blank
      [("networks", array 1 (config.entries.map (Entry.render 2)))] ⟨some config.entries⟩ :=
    .cons rfl rfl entries .nil
  exact fills.reads_object rfl 0

/-- The document of a config is the object of its entries and nothing else. -/
lemma document_toJson (config : Config) : shape.reader.document config.toJson = .ok config := by
  have document := (reads_object config).document blank_nil blank_nil
  rw [List.append_nil] at document
  exact document

/-- Every config is read back from its document. -/
theorem ofJson_toJson (config : Config) : ofJson config.toJson = .ok config := by
  rw [ofJson, Outcome.mapError_eq_ok_iff]
  exact document_toJson config

/-- The entry of a network defines it again exactly if the network can be made. -/
lemma Entry.network_ofNetwork_eq_ok_iff {network : Network} :
    (Entry.ofNetwork network).network = .ok network ↔ network.Constructed := by
  rw [Entry.network, ofNetwork]
  dsimp only
  -- the versions are listed, so the network is made by the constructor that tests the list
  rw [Outcome.mapError_eq_ok_iff, Network.ofAcceptable_eq_ok_iff, Network.constructed_iff_proper]
  constructor
  · rintro ⟨⟨nonempty, nodup⟩, _⟩
    exact ⟨nonempty, nodup⟩
  · rintro ⟨nonempty, nodup⟩
    exact ⟨⟨nonempty, nodup⟩, rfl⟩

/-- The config of networks defines them again exactly if each of them can be made. -/
lemma networks_ofNetworks_eq_ok_iff {networks : List Network} :
    (ofNetworks networks).networks = .ok networks ↔ ∀ network ∈ networks, network.Constructed := by
  rw [Config.networks, Outcome.mapM_eq_ok_iff, ofNetworks, List.forall₂_map_left_iff,
    List.forall₂_same]
  simp only [Entry.network_ofNetwork_eq_ok_iff]

/-- Networks come back from the document of their config, in their order and with all fields, exactly
if each of them can be made. -/
theorem networks_ofJson_toJson_iff (networks : List Network) :
    (ofJson (ofNetworks networks).toJson).map Config.networks = .ok (.ok networks)
      ↔ ∀ network ∈ networks, network.Constructed := by
  have read : ofJson (ofNetworks networks).toJson = .ok (ofNetworks networks) := by
    rw [ofJson, document_toJson]
    rfl
  rw [read, ← networks_ofNetworks_eq_ok_iff]
  exact ⟨Except.ok.inj, congrArg Except.ok⟩

/-- Networks of every make: built in, of two versions, of one version twice, and with a list of
versions that names neither of the two. -/
def assorted : List Network :=
  [.testnet, .ofVersions "alt" 48 5, .ofVersions "a \"quoted\" id" 7 7, ⟨"", 1, 2, [9, 0, 255]⟩]

/-- The assorted networks come back from their document. -/
theorem networks_ofJson_toJson_assorted :
    (∀ network ∈ assorted, network.Constructed) ∧
      (ofJson (ofNetworks assorted).toJson).map Config.networks = .ok (.ok assorted) := by
  have listed : Network.ofAcceptable "" 1 2 [9, 0, 255] = .ok ⟨"", 1, 2, [9, 0, 255]⟩ := rfl
  have constructed : ∀ network ∈ assorted, network.Constructed := by
    simp only [assorted, List.forall_mem_cons]
    exact ⟨.testnet, .ofVersions .., .ofVersions .., .ofAcceptable listed, nofun⟩
  exact ⟨constructed, (networks_ofJson_toJson_iff assorted).mpr constructed⟩

end CoinAddress.Config
