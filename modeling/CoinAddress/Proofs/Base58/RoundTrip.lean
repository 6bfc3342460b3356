import CoinAddress.Base58.Basic
import CoinAddress.Proofs.Base58.Alphabet
import CoinAddress.Proofs.Base58.Radix
import CoinAddress.Outcome

/-!
# Base58 text and bytes

Writing and reading are one transcription of digits between the radices 256 and 58, seen through the
alphabet. Every byte string has one text, every text over the alphabet is the text of one byte
string, and no other text is read (`encode_bijection`).
-/

namespace CoinAddress.Base58

/-- Digits are small enough when bytes are written. -/
lemma narrow_fromBytes : fromBytes.Narrow :=
  ⟨by decide, by decide, by decide⟩

/-- Digits are small enough when bytes are read. -/
lemma narrow_toBytes : toBytes.Narrow :=
  ⟨by decide, by decide, by decide⟩

/-- Every byte is a digit to the radix 256. -/
lemma toNat_lt_source_fromBytes (bytes : Bytes) :
    ∀ byte ∈ bytes, byte.toNat < fromBytes.source.toNat := by
  intro byte _
  exact byte.toNat_lt

/-- The text of a byte string spells its transcription. -/
lemma encode_eq_ofList (bytes : Bytes) :
    encode bytes = String.ofList ((fromBytes.transcribe bytes).map symbol) := by
  have zeros : (bytes.takeWhile (· = 0)).map (fun _ => zeroSymbol)
      = (bytes.takeWhile (· = 0)).map symbol := by
    apply List.map_congr_left
    intro byte mem
    rw [Conversion.eq_zero_of_mem_takeWhile byte mem]
    rfl
  rw [Conversion.transcribe, List.map_append, ← zeros]
  rfl

/-- The bytes of a text are the transcription of its digits. -/
lemma decode_eq_map_readDigits (text : String) :
    decode text = (readDigits 0 text.toList).map toBytes.transcribe := by
  rw [decode]
  cases readDigits 0 text.toList <;> rfl

/-- Reading symbols gives back their digits. -/
lemma readDigits_map_symbol (position : Nat) {digits : List UInt8}
    (below : ∀ digit ∈ digits, digit.toNat < 58) :
    readDigits position (digits.map symbol) = .ok digits := by
  induction digits generalizing position with
  | nil => rfl
  | cons digit digits ih =>
    have rest := ih (position + 1) fun d mem => below d (List.mem_cons_of_mem _ mem)
    rw [List.map_cons, readDigits, digit?_symbol (below digit (List.mem_cons_self ..)), rest]
    rfl

/-- Characters that are read are the symbols of the digits that are read. -/
lemma eq_map_symbol_of_readDigits {position : Nat} {cs : List Char} {digits : List UInt8}
    (read : readDigits position cs = .ok digits) :
    (∀ digit ∈ digits, digit.toNat < 58) ∧ digits.map symbol = cs := by
  induction cs generalizing position digits with
  | nil =>
    cases read
    exact ⟨nofun, rfl⟩
  | cons c cs ih =>
    rw [readDigits] at read
    split at read
    case h_1 => cases read
    case h_2 digit found =>
      obtain ⟨lt, rfl⟩ := digit?_eq_some_iff.mp found
      obtain ⟨rest, found', rfl⟩ := Outcome.map_eq_ok_iff.mp read
      obtain ⟨below, rfl⟩ := ih found'
      exact ⟨List.forall_mem_cons.mpr ⟨lt, below⟩, rfl⟩

/-- Characters of the alphabet are the symbols of some digits. -/
lemma exists_map_symbol {cs : List Char} (mem : ∀ c ∈ cs, c ∈ alphabet.toList) :
    ∃ digits : List UInt8, (∀ digit ∈ digits, digit.toNat < 58) ∧ digits.map symbol = cs := by
  induction cs with
  | nil => exact ⟨[], nofun, rfl⟩
  | cons c cs ih =>
    obtain ⟨memc, memcs⟩ := List.forall_mem_cons.mp mem
    obtain ⟨digits, below, rfl⟩ := ih memcs
    obtain ⟨digit, found⟩ := Option.isSome_iff_exists.mp (isSome_digit?_iff.mpr memc)
    obtain ⟨lt, rfl⟩ := digit?_eq_some_iff.mp found
    exact ⟨digit :: digits, List.forall_mem_cons.mpr ⟨lt, below⟩, rfl⟩

/-- A text of symbols is read as the transcription of their digits. -/
lemma decode_ofList_map_symbol {digits : List UInt8} (below : ∀ digit ∈ digits, digit.toNat < 58) :
    decode (String.ofList (digits.map symbol)) = .ok (toBytes.transcribe digits) := by
  rw [decode_eq_map_readDigits, String.toList_ofList, readDigits_map_symbol 0 below]
  rfl

/-- A text over the alphabet spells bytes. -/
lemma exists_decode {text : String} (regular : ∀ c ∈ text.toList, c ∈ alphabet.toList) :
    ∃ bytes, decode text = .ok bytes := by
  obtain ⟨digits, below, eq⟩ := exists_map_symbol regular
  refine ⟨toBytes.transcribe digits, ?_⟩
  rw [← decode_ofList_map_symbol below, eq, String.ofList_toList]

/-- The text of a byte string is read as that byte string. -/
lemma decode_encode (bytes : Bytes) : decode (encode bytes) = .ok bytes := by
  have below := toNat_lt_source_fromBytes bytes
  rw [encode_eq_ofList, decode_ofList_map_symbol (narrow_fromBytes.transcribe_lt below),
    Conversion.transcribe_transcribe narrow_fromBytes narrow_toBytes rfl rfl below]

/-- A text that is read is the text of the bytes that are read. -/
lemma encode_of_decode {text : String} {bytes : Bytes} (read : decode text = .ok bytes) :
    encode bytes = text := by
  rw [decode_eq_map_readDigits] at read
  obtain ⟨digits, found, rfl⟩ := Outcome.map_eq_ok_iff.mp read
  obtain ⟨below, eq⟩ := eq_map_symbol_of_readDigits found
  rw [encode_eq_ofList,
    Conversion.transcribe_transcribe narrow_toBytes narrow_fromBytes rfl rfl below, eq,
    String.ofList_toList]

/-- A text is read as a byte string exactly if it is the text of the byte string. -/
theorem decode_eq_ok_iff {text : String} {bytes : Bytes} :
    decode text = .ok bytes ↔ encode bytes = text := by
  constructor
  · exact encode_of_decode
  · rintro rfl
    exact decode_encode bytes

/-- The characters of the text of a byte string are in the alphabet. -/
lemma mem_alphabet_of_mem_encode {bytes : Bytes} :
    ∀ c ∈ (encode bytes).toList, c ∈ alphabet.toList := by
  intro c mem
  rw [encode_eq_ofList, String.toList_ofList] at mem
  obtain ⟨digit, mem', rfl⟩ := List.mem_map.mp mem
  have below := toNat_lt_source_fromBytes bytes
  exact symbol_mem_alphabet (narrow_fromBytes.transcribe_lt below digit mem')

/-- Writing and reading are inverse to each other between the byte strings and the texts over the
alphabet, and no other text is read. -/
theorem encode_bijection :
    (∀ bytes, decode (encode bytes) = .ok bytes) ∧
    (∀ text bytes, decode text = .ok bytes ↔ encode bytes = text) ∧
    (∀ text, (∃ bytes, decode text = .ok bytes) ↔ ∀ c ∈ text.toList, c ∈ alphabet.toList) := by
  refine ⟨decode_encode, fun text bytes => decode_eq_ok_iff, fun text => ⟨?_, ?_⟩⟩
  · rintro ⟨bytes, read⟩
    rw [← decode_eq_ok_iff.mp read]
    exact mem_alphabet_of_mem_encode
  · intro mem
    obtain ⟨digits, below, eq⟩ := exists_map_symbol mem
    refine ⟨toBytes.transcribe digits, ?_⟩
    rw [← decode_ofList_map_symbol below, eq, String.ofList_toList]

end CoinAddress.Base58
