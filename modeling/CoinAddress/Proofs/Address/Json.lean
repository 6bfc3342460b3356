import CoinAddress.Address.Json
import CoinAddress.Proofs.Address.Canonical
import CoinAddress.Proofs.Json.Escapes

/-!
# Addresses in documents

The document of an address is its text between quotes, for the alphabet has no character that is
escaped. Read as the address is every string that spells the text, whatever its escapes, with nothing
but blanks around it (`ofJson_eq_ok_iff_spells`).
-/

namespace CoinAddress

/-- Characters of the alphabet are written as themselves. -/
lemma Base58.escapeChar_of_mem_alphabet {c : Char} (mem : c ∈ alphabet.toList) :
    Json.escapeChar c = [c] := by
  have all : ∀ c ∈ alphabet.toList, Json.escapeChar c = [c] :=
    List.all_iff_forall_prop.mp (by decide +kernel)
  exact all c mem

namespace Address
open Json (Blank Spells)

/-- The text of an address is quoted without an escape. -/
lemma quote_toText (address : Address) :
    Json.quote address.toText = '"' :: address.toText.toList ++ ['"'] := by
  have plain : ∀ c ∈ address.toText.toList, Json.escapeChar c = [c] :=
    fun c mem => Base58.escapeChar_of_mem_alphabet (Base58.mem_alphabet_of_mem_encode c mem)
  rw [Json.quote, List.flatMap_congr plain, List.flatMap_singleton']

/-- The document has to end after the string, but only once the string is an address. -/
lemma ofJson_eq_ok_iff {document : String} {address : Address} :
    ofJson document = .ok address
      ↔ ∃ rest, Json.Reader.readString document.toList = .ok (address.toText, rest) ∧
          Blank rest := by
  rw [ofJson, Outcome.bind_eq_ok_iff]
  constructor
  · rintro ⟨⟨text, rest⟩, read, eq⟩
    obtain ⟨found, parsed, eq⟩ := Outcome.bind_eq_ok_iff.mp eq
    have text_eq := toText_of_parse (Outcome.mapError_eq_ok_iff.mp parsed)
    split at eq
    case isTrue empty =>
      cases eq
      rw [← text_eq] at read
      refine ⟨rest, Outcome.mapError_eq_ok_iff.mp read, ?_⟩
      exact Json.skipBlanks_eq_nil_iff.mp (List.isEmpty_iff.mp empty)
    case isFalse => cases eq
  · rintro ⟨rest, read, blank⟩
    have parsed := Outcome.mapError_eq_ok_iff (f := JsonError.text).mpr (parse_toText address)
    refine ⟨(address.toText, rest), Outcome.mapError_eq_ok_iff.mpr read, ?_⟩
    refine Outcome.bind_eq_ok_iff.mpr ⟨address, parsed, ?_⟩
    rw [Json.skipBlanks_eq_nil_iff.mpr blank]
    rfl

/-- The document of an address is its text between quotes, and it is read as the address. So is just
every document that is a string between blanks, with or without escapes, which spells the text. -/
theorem ofJson_eq_ok_iff_spells :
    (∀ address : Address, address.toJson = "\"" ++ address.toText ++ "\"") ∧
    (∀ document address, ofJson document = .ok address
      ↔ ∃ blanks body blanks', Blank blanks ∧ Blank blanks' ∧
          Spells body address.toText.toList ∧
          document.toList = blanks ++ '"' :: (body ++ '"' :: blanks')) ∧
    (∀ address : Address, ofJson address.toJson = .ok address) := by
  refine ⟨?_, ?_, ?_⟩
  · intro address
    rw [toJson, quote_toText, ← String.toList_inj]
    simp only [String.toList_ofList, String.toList_append]
    rfl
  · intro document address
    rw [ofJson_eq_ok_iff]
    simp only [Json.readString_eq_ok_iff]
    constructor
    · rintro ⟨blanks', ⟨blanks, body, blank, spelled, eq⟩, blank'⟩
      exact ⟨blanks, body, blanks', blank, blank', spelled, eq⟩
    · rintro ⟨blanks, body, blanks', blank, blank', spelled, eq⟩
      exact ⟨blanks', ⟨blanks, body, blank, spelled, eq⟩, blank'⟩
  · intro address
    rw [ofJson_eq_ok_iff, toJson, String.toList_ofList]
    have read := (Json.reads_string address.toText).run Json.blank_nil Json.delimited_nil
    rw [List.nil_append, List.append_nil] at read
    exact ⟨[], read, Json.blank_nil⟩

end Address

end CoinAddress
