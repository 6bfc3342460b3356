import CoinAddress.Proofs.Base58.RoundTrip

/-!
# Base58 text is a positional numeral

The text of a byte string is the Base58 numeral of the number that the bytes denote, and the bytes of
a text are the numeral to the radix 256 of the number that its characters denote. What leads without
a value, zero bytes on one side and ones on the other, is kept apart and counted
(`encode_decode_positional`).
-/

namespace CoinAddress.Base58
open Conversion (Numeral number)

/-- The place of a character in the alphabet. -/
def position (c : Char) : UInt8 :=
  UInt8.ofNat (alphabet.toList.idxOf c)

section
variable {digits : List UInt8}

/-- The symbol of a digit stands at the place of the digit. -/
lemma position_symbol {digit : UInt8} (lt : digit.toNat < 58) : position (symbol digit) = digit := by
  have place : alphabet.toList.idxOf (symbol digit) = digit.toNat := by
    rw [symbol_eq_getElem lt]
    exact nodup_alphabet.idxOf_getElem digit.toNat lt
  rw [position, place, UInt8.ofNat_toNat]

/-- The symbols of digits have these for their places. -/
lemma map_position_map_symbol (below : ∀ digit ∈ digits, digit.toNat < 58) :
    (digits.map symbol).map position = digits := by
  rw [List.map_map]
  have same : ∀ digit ∈ digits, (position ∘ symbol) digit = digit :=
    fun digit mem => position_symbol (below digit mem)
  exact (List.map_congr_left same).trans (List.map_id _)

/-- Zeros are written as ones, and no other digit is. -/
lemma length_takeWhile_map_symbol (below : ∀ digit ∈ digits, digit.toNat < 58) :
    ((digits.map symbol).takeWhile (· = '1')).length = (digits.takeWhile (· = 0)).length := by
  induction digits with
  | nil => rfl
  | cons digit digits ih =>
    obtain ⟨lt, below⟩ := List.forall_mem_cons.mp below
    rw [List.map_cons]
    by_cases zero : digit = 0
    · have one : symbol digit = '1' := by rw [zero]; rfl
      rw [List.takeWhile_cons_of_pos (by simpa using one),
        List.takeWhile_cons_of_pos (by simpa using zero), List.length_cons, List.length_cons,
        ih below]
    · have other : symbol digit ≠ '1' := by
        intro one
        apply zero
        rw [← position_symbol lt, one]
        rfl
      rw [List.takeWhile_cons_of_neg (by simpa using other),
        List.takeWhile_cons_of_neg (by simpa using zero)]
      rfl

end

/-- What is read of a text is the transcription of the digits whose symbols it consists of. -/
lemma decode_eq_ok_iff_transcribe {text : String} {bytes : Bytes} :
    decode text = .ok bytes
      ↔ ∃ digits : List UInt8, (∀ digit ∈ digits, digit.toNat < 58) ∧
          digits.map symbol = text.toList ∧ toBytes.transcribe digits = bytes := by
  constructor
  · intro read
    rw [decode_eq_map_readDigits] at read
    obtain ⟨digits, found, eq⟩ := Outcome.map_eq_ok_iff.mp read
    obtain ⟨below, spelled⟩ := eq_map_symbol_of_readDigits found
    exact ⟨digits, below, spelled, eq⟩
  · rintro ⟨digits, below, spelled, rfl⟩
    rw [← decode_ofList_map_symbol below, spelled, String.ofList_toList]

/-- A byte string has for its text a one for each leading zero byte, and then its numeral. -/
lemma encode_eq_iff_numeral {bytes : Bytes} {text : String} :
    encode bytes = text ↔ ∃ digits, Numeral 58 (number 256 bytes) digits ∧
      text = String.ofList
        (List.replicate (bytes.takeWhile (· = 0)).length '1' ++ digits.map symbol) := by
  have transcribed {digits : List UInt8} : fromBytes.transcribe bytes = digits ↔ _ :=
    narrow_fromBytes.transcribe_eq_iff (toNat_lt_source_fromBytes bytes)
  rw [encode_eq_ofList]
  constructor
  · rintro rfl
    obtain ⟨digits, numeral, eq⟩ := transcribed.mp rfl
    refine ⟨digits, numeral, ?_⟩
    rw [eq, List.map_append, List.map_replicate]
    rfl
  · rintro ⟨digits, numeral, rfl⟩
    rw [transcribed.mpr ⟨digits, numeral, rfl⟩, List.map_append, List.map_replicate]
    rfl

/-- A text over the alphabet has for its bytes a zero for each leading one, and then its numeral. -/
lemma decode_eq_ok_iff_numeral {text : String} {bytes : Bytes} :
    decode text = .ok bytes ↔ (∀ c ∈ text.toList, c ∈ alphabet.toList) ∧
      ∃ rest, Numeral 256 (number 58 (text.toList.map position)) rest ∧
        bytes = List.replicate (text.toList.takeWhile (· = '1')).length 0 ++ rest := by
  rw [decode_eq_ok_iff_transcribe]
  constructor
  · rintro ⟨digits, below, spelled, eq⟩
    rw [← spelled, map_position_map_symbol below, length_takeWhile_map_symbol below]
    refine ⟨?_, (narrow_toBytes.transcribe_eq_iff below).mp eq⟩
    intro c mem
    obtain ⟨digit, mem', rfl⟩ := List.mem_map.mp mem
    exact symbol_mem_alphabet (below digit mem')
  · rintro ⟨regular, rest⟩
    obtain ⟨digits, below, spelled⟩ := exists_map_symbol regular
    rw [← spelled, map_position_map_symbol below, length_takeWhile_map_symbol below] at rest
    exact ⟨digits, below, spelled, (narrow_toBytes.transcribe_eq_iff below).mpr rest⟩

/-- To both radices every number has one numeral, which is empty for zero. The text of a byte string
is a one for each leading zero byte and then the Base58 numeral of the number of the bytes. Only a
text over the alphabet is read, as a zero byte for each leading one and then the numeral to the radix
256 of the number that the places of its characters denote. -/
theorem encode_decode_positional :
    (∀ n, ∃! digits, Numeral 58 n digits) ∧ (∀ n, ∃! bytes, Numeral 256 n bytes) ∧
    (∀ radix digits, Numeral radix 0 digits ↔ digits = []) ∧
    (∀ bytes text, encode bytes = text ↔ ∃ digits, Numeral 58 (number 256 bytes) digits ∧
      text = String.ofList
        (List.replicate (bytes.takeWhile (· = 0)).length '1' ++ digits.map symbol)) ∧
    (∀ text bytes, decode text = .ok bytes ↔ (∀ c ∈ text.toList, c ∈ alphabet.toList) ∧
      ∃ rest, Numeral 256 (number 58 (text.toList.map position)) rest ∧
        bytes = List.replicate (text.toList.takeWhile (· = '1')).length 0 ++ rest) := by
  refine ⟨?_, ?_, ?_, ?_, ?_⟩
  · exact Conversion.existsUnique_numeral (by decide) (by decide)
  · exact Conversion.existsUnique_numeral (by decide) (by decide)
  · intro radix digits
    exact Conversion.numeral_zero_iff
  · intro bytes text
    exact encode_eq_iff_numeral
  · intro text bytes
    exact decode_eq_ok_iff_numeral

/-- The zeros in front are written as ones, and the numeral follows them. -/
example : encode ([0, 0] ++ Hex.utf8 "hello world") = "11StV1DL6CwTryKyV" := by decide +kernel

end CoinAddress.Base58
