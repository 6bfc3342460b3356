import CoinAddress.Proofs.Base58.Length
import CoinAddress.Proofs.Base58.Positional

/-!
# Room for a conversion

A number has no more digits to a greater radix (`Numeral.length_le`), so no text is shorter than its
bytes. In the other direction the ratio of the lengths is bounded by powers of the radices, for a
whole numeral and for every numeral on the way to it. The room that is set aside for the digits of a
conversion from its input alone is therefore always enough (`length_bounds`).
-/

namespace CoinAddress

namespace Conversion

/-- A number has no more digits to a greater radix. -/
lemma Numeral.length_le {radix radix' n : Nat} {digits digits' : List UInt8} (base : 1 < radix')
    (le : radix' ≤ radix) (numeral : Numeral radix n digits) (numeral' : Numeral radix' n digits') :
    digits.length ≤ digits'.length := by
  cases digits with
  | nil => exact Nat.zero_le _
  | cons first rest =>
    have base' : 1 < radix := lt_of_lt_of_le base le
    have lt : radix ^ rest.length < radix ^ digits'.length := by
      calc radix ^ rest.length
          ≤ n := (numeral.leads base').pow_le
        _ = number radix' digits' := numeral'.number_eq.symm
        _ < radix' ^ digits'.length := number_lt_pow base numeral'.below
        _ ≤ radix ^ digits'.length := Nat.pow_le_pow_left le _
    exact (Nat.pow_lt_pow_iff_right base').mp lt

/-- Digits become no fewer when they are transcribed to a smaller radix. -/
lemma Narrow.length_le_transcribe {c : Conversion} {digits : List UInt8} (narrow : c.Narrow)
    (le : c.target.toNat ≤ c.source.toNat)
    (below : ∀ digit ∈ digits, digit.toNat < c.source.toNat) :
    digits.length ≤ (c.transcribe digits).length := by
  have below' := lt_of_mem_dropWhile below
  have read : Numeral c.source.toNat (number c.source.toNat (digits.dropWhile (· = 0)))
      (digits.dropWhile (· = 0)) := ⟨below', head?_dropWhile_zero digits, rfl⟩
  have written := narrow.numeral_convert below'
  calc digits.length
      = (digits.takeWhile (· = 0)).length + (digits.dropWhile (· = 0)).length := by
        rw [← List.length_append, List.takeWhile_append_dropWhile]
    _ ≤ (digits.takeWhile (· = 0)).length + (c.convert (digits.dropWhile (· = 0))).reverse.length :=
        Nat.add_le_add_left (read.length_le c.one_lt_target_toNat le written) _
    _ = (c.transcribe digits).length := List.length_append.symm

end Conversion

namespace Base58

/-- Seventy-one characters fit into 52 bytes. -/
lemma ratio_toBytes : toBytes.source.toNat ^ 71 ≤ toBytes.target.toNat ^ 52 := by
  have radices : toBytes.source.toNat = 58 ∧ toBytes.target.toNat = 256 := ⟨rfl, rfl⟩
  rw [radices.1, radices.2]
  norm_num

section
variable {bytes : Bytes} {digits : List UInt8}

/-- Bytes are converted into no more digits than 138 hundredths of them, and one. -/
lemma length_convert_fromBytes_le (bytes : Bytes) :
    (fromBytes.convert bytes).length ≤ 138 * bytes.length / 100 + 1 :=
  narrow_fromBytes.length_convert_le (by decide) (by decide) ratio_fromBytes
    (toNat_lt_source_fromBytes bytes)

/-- Digits are converted into no more bytes than 733 thousandths of them, and one. -/
lemma length_convert_toBytes_le (below : ∀ digit ∈ digits, digit.toNat < 58) :
    (toBytes.convert digits).length ≤ 733 * digits.length / 1000 + 1 := by
  have le := narrow_toBytes.length_convert_le (by decide) (by decide) ratio_toBytes below
  -- 52 / 71 is below 733 / 1000
  omega

/-- A text has a character for each transcribed digit. -/
lemma length_encode_eq (bytes : Bytes) :
    (encode bytes).length = (fromBytes.transcribe bytes).length := by
  rw [encode_eq_ofList, String.length_ofList, List.length_map]

/-- Each character of a text that is written takes one byte. -/
lemma utf8ByteSize_encode (bytes : Bytes) : (encode bytes).utf8ByteSize = (encode bytes).length := by
  have below := narrow_fromBytes.transcribe_lt (toNat_lt_source_fromBytes bytes)
  rw [length_encode_eq, encode_eq_ofList, utf8ByteSize_ofList_map_symbol below]

/-- No text is shorter than its bytes. -/
lemma length_le_encode (bytes : Bytes) : bytes.length ≤ (encode bytes).length := by
  rw [length_encode_eq]
  exact narrow_fromBytes.length_le_transcribe (by decide) (toNat_lt_source_fromBytes bytes)

/-- A text is no longer than 138 hundredths of its bytes, and one character more. -/
lemma length_encode_le (bytes : Bytes) :
    (encode bytes).length ≤ 138 * bytes.length / 100 + 1 := by
  rw [← utf8ByteSize_encode]
  exact utf8ByteSize_encode_le bytes

/-- A text spells no more bytes than it has characters. -/
lemma length_le_of_decode {text : String} (read : decode text = .ok bytes) :
    bytes.length ≤ text.length := by
  rw [← decode_eq_ok_iff.mp read]
  exact length_le_encode bytes

/-- Every character takes at least one byte. -/
lemma length_le_utf8ByteSize_ofList (cs : List Char) :
    cs.length ≤ (String.ofList cs).utf8ByteSize := by
  induction cs with
  | nil => exact Nat.zero_le _
  | cons c cs ih =>
    rw [String.ofList_cons, String.utf8ByteSize_append, String.utf8ByteSize_singleton,
      List.length_cons, Nat.add_comm]
    exact Nat.add_le_add c.utf8Size_pos ih

/-- What has been read of a text has no more digits than the text has bytes. -/
lemma length_le_of_readDigits {text : String} {processed : List Char} {position : Nat}
    (within : processed <+: text.toList) (read : readDigits position processed = .ok digits) :
    digits.length ≤ text.utf8ByteSize := by
  obtain ⟨_, rfl⟩ := eq_map_symbol_of_readDigits read
  calc digits.length
      = (digits.map symbol).length := (List.length_map _).symm
    _ ≤ text.toList.length := within.length_le
    _ ≤ (String.ofList text.toList).utf8ByteSize := length_le_utf8ByteSize_ofList _
    _ = text.utf8ByteSize := by rw [String.ofList_toList]

/-- A text over the alphabet is read as a zero for each leading one and a few bytes more. -/
lemma exists_decode_length_le {text : String} (regular : ∀ c ∈ text.toList, c ∈ alphabet.toList) :
    ∃ rest : Bytes,
      decode text
        = .ok (List.replicate (text.toList.takeWhile (· = '1')).length 0 ++ rest) ∧
      rest.head? ≠ some 0 ∧ rest.length ≤ 733 * text.length / 1000 + 1 := by
  obtain ⟨digits, below, spelled⟩ := exists_map_symbol regular
  have below' := Conversion.lt_of_mem_dropWhile below
  have zeros : digits.takeWhile (· = 0) = List.replicate (digits.takeWhile (· = 0)).length 0 :=
    List.eq_replicate_of_mem Conversion.eq_zero_of_mem_takeWhile
  refine ⟨(toBytes.convert (digits.dropWhile (· = 0))).reverse, ?_, ?_, ?_⟩
  · rw [← spelled, length_takeWhile_map_symbol below, ← zeros]
    exact decode_eq_ok_iff_transcribe.mpr ⟨digits, below, spelled, rfl⟩
  · exact (narrow_toBytes.numeral_convert below').leading
  · have length : digits.length = text.length := by
      rw [← String.length_toList, ← spelled, List.length_map]
    have fewer : (digits.dropWhile (· = 0)).length ≤ digits.length :=
      (List.dropWhile_sublist _).length_le
    have le := length_convert_toBytes_le below'
    rw [List.length_reverse]
    omega

end

/-- A byte string of length `n` has a text of `n` to `138 * n / 100 + 1` characters, each of which
takes one byte. A text of `n` characters of the alphabet has at most `n` bytes, and at most
`733 * n / 1000 + 1` of them after the zeros for its leading ones. No numeral on the way to the text
or to the bytes is longer, also if the text has a stray character later on. The text of 25 bytes has
25 to 35 characters. The bounds are those of the formulas over the natural numbers: in words of 32 bits
the products would wrap around for more than 31 million bytes, or 5.8 million bytes of text. -/
theorem length_bounds :
    (∀ bytes : Bytes, (encode bytes).utf8ByteSize = (encode bytes).length ∧
      bytes.length ≤ (encode bytes).length ∧
      (encode bytes).length ≤ 138 * bytes.length / 100 + 1) ∧
    (∀ text : String, (∀ c ∈ text.toList, c ∈ alphabet.toList) → ∃ bytes rest : Bytes,
      decode text = .ok bytes ∧ bytes.length ≤ text.length ∧
      bytes = List.replicate (text.toList.takeWhile (· = '1')).length 0 ++ rest ∧
      rest.head? ≠ some 0 ∧ rest.length ≤ 733 * text.length / 1000 + 1) ∧
    (∀ bytes processed : Bytes, processed <+: bytes.dropWhile (· = 0) →
      (fromBytes.convert processed).length ≤ 138 * bytes.length / 100 + 1) ∧
    (∀ (text : String) (processed : List Char) (digits : List UInt8),
      processed <+: text.toList → readDigits 0 processed = .ok digits →
      (toBytes.convert digits).length ≤ 733 * text.utf8ByteSize / 1000 + 1) ∧
    (∀ bytes : Bytes, bytes.length = 25 →
      25 ≤ (encode bytes).length ∧ (encode bytes).length ≤ 35) := by
  refine ⟨?_, ?_, ?_, ?_, ?_⟩
  · intro bytes
    exact ⟨utf8ByteSize_encode bytes, length_le_encode bytes, length_encode_le bytes⟩
  · intro text regular
    obtain ⟨rest, read, leading, le⟩ := exists_decode_length_le regular
    exact ⟨_, rest, read, length_le_of_decode read, rfl, leading, le⟩
  · intro bytes processed within
    have fewer : processed.length ≤ bytes.length :=
      (within.sublist.trans (List.dropWhile_sublist _)).length_le
    have le := length_convert_fromBytes_le processed
    omega
  · intro text processed digits within read
    have fewer := length_le_of_readDigits within read
    have le := length_convert_toBytes_le (eq_map_symbol_of_readDigits read).1
    omega
  · intro bytes length
    have lower := length_le_encode bytes
    have upper := length_encode_le bytes
    omega

/-- The bounds hold of a text of ones and others, of one that is broken off by a stray character, and
of the greatest number of 25 bytes. -/
theorem length_bounds_extreme :
    (∀ c ∈ "11zz".toList, c ∈ alphabet.toList) ∧
      (∃ bytes, decode "11zz" = .ok bytes ∧ bytes.length ≤ 4) ∧
      "zzz".toList <+: "zzzO".toList ∧ readDigits 0 "zzz".toList = .ok [57, 57, 57] ∧
      (toBytes.convert [57, 57, 57]).length ≤ 3 ∧
      (List.replicate 25 (255 : UInt8)).length = 25 ∧
      (encode (List.replicate 25 255)).length ≤ 35 := by
  have all : "11zz".toList.all (· ∈ alphabet.toList) := by decide
  have regular : ∀ c ∈ "11zz".toList, c ∈ alphabet.toList := by
    intro c mem
    exact of_decide_eq_true (List.all_eq_true.mp all c mem)
  have within : "zzz".toList <+: "zzzO".toList := by decide
  have read : readDigits 0 "zzz".toList = .ok [57, 57, 57] := by decide
  obtain ⟨_, texts, _, onTheWay, addresses⟩ := length_bounds
  obtain ⟨bytes, _, found, le, _⟩ := texts _ regular
  have length : (List.replicate 25 (255 : UInt8)).length = 25 := List.length_replicate ..
  exact ⟨regular, ⟨bytes, found, le⟩, within, read, onTheWay _ _ _ within read, length,
    (addresses _ length).2⟩

end Base58

end CoinAddress
