import CoinAddress.Proofs.Base58.RoundTrip

/-!
# Base58 text keeps the order of bytes

Digits of one length are ordered as the numbers that they denote, whether zeros lead them or not
(`lt_iff_number_lt`). Bytes and the digits of their text denote the same number, and the alphabet is
in ascending order, so byte strings of one length whose texts are of one length too are ordered as
their texts (`encode_lt_encode_iff`).
-/

namespace CoinAddress

namespace Conversion

variable {radix : Nat} {x y : UInt8} {xs ys : List UInt8}

/-- The first digit decides, since the others together are worth less than one more of it. -/
lemma number_lt_number (base : 1 < radix) (length : xs.length = ys.length)
    (below : ∀ x ∈ xs, x.toNat < radix) (below' : ∀ y ∈ ys, y.toNat < radix) (lt : x < y) :
    number radix (x :: xs) < number radix (y :: ys) := by
  calc number radix (x :: xs)
      < (x.toNat + 1) * radix ^ xs.length := (number_cons_bounds base x below).2
    _ ≤ y.toNat * radix ^ xs.length := Nat.mul_le_mul_right _ (UInt8.lt_iff_toNat_lt.mp lt)
    _ = y.toNat * radix ^ ys.length := by rw [length]
    _ ≤ number radix (y :: ys) := (number_cons_bounds base y below').1

/-- Digits of one length are ordered as the numbers that they denote. -/
theorem lt_iff_number_lt (base : 1 < radix) (length : xs.length = ys.length)
    (below : ∀ x ∈ xs, x.toNat < radix) (below' : ∀ y ∈ ys, y.toNat < radix) :
    xs < ys ↔ number radix xs < number radix ys := by
  induction xs generalizing ys with
  | nil =>
    cases List.length_eq_zero_iff.mp length.symm
    exact iff_of_false (List.lt_irrefl []) (Nat.lt_irrefl _)
  | cons x xs ih =>
    cases ys with
    | nil => cases length
    | cons y ys =>
      obtain ⟨_, rest⟩ := List.forall_mem_cons.mp below
      obtain ⟨_, rest'⟩ := List.forall_mem_cons.mp below'
      have same : xs.length = ys.length := Nat.succ.inj length
      rw [List.cons_lt_cons_iff]
      rcases Std.lt_trichotomy x y with less | rfl | more
      · exact iff_of_true (.inl less) (number_lt_number base same rest rest' less)
      · rw [number_cons, number_cons, ← same, Nat.add_lt_add_iff_left, ← ih same rest rest']
        simp only [UInt8.lt_irrefl, false_or, true_and]
      · apply iff_of_false
        · rintro (less | ⟨rfl, _⟩)
          · exact UInt8.lt_asymm less more
          · exact UInt8.lt_irrefl _ more
        · exact Nat.lt_asymm (number_lt_number base same.symm rest' rest more)

/-- Transcribed digits denote the same number as before. -/
lemma Narrow.number_transcribe {c : Conversion} (narrow : c.Narrow) {digits : List UInt8}
    (below : ∀ digit ∈ digits, digit.toNat < c.source.toNat) :
    number c.target.toNat (c.transcribe digits) = number c.source.toNat digits := by
  have numeral := narrow.numeral_convert (lt_of_mem_dropWhile below)
  have rest : (c.transcribe digits).dropWhile (· = 0)
      = (c.convert (digits.dropWhile (· = 0))).reverse :=
    dropWhile_zero_append eq_zero_of_mem_takeWhile numeral.leading
  rw [← number_dropWhile_zero, rest, numeral.number_eq, number_dropWhile_zero]

end Conversion

namespace Base58
open Conversion (number)

/-- The alphabet is in ascending order. -/
lemma pairwise_alphabet : alphabet.toList.Pairwise (· < ·) := by
  decide +kernel

/-- The symbol of a smaller digit comes first. -/
lemma symbol_lt_symbol {d e : UInt8} (lt : d < e) (below : e.toNat < 58) : symbol d < symbol e := by
  have lt : d.toNat < e.toNat := UInt8.lt_iff_toNat_lt.mp lt
  rw [symbol_eq_getElem (Nat.lt_trans lt below), symbol_eq_getElem below]
  exact List.pairwise_iff_getElem.mp pairwise_alphabet _ _ _ _ lt

/-- Digits are ordered as their symbols. -/
lemma map_symbol_lt_iff {xs ys : List UInt8} (below : ∀ x ∈ xs, x.toNat < 58)
    (below' : ∀ y ∈ ys, y.toNat < 58) : xs.map symbol < ys.map symbol ↔ xs < ys := by
  induction xs generalizing ys with
  | nil =>
    cases ys with
    | nil => exact iff_of_false (List.lt_irrefl _) (List.lt_irrefl _)
    | cons y ys => exact iff_of_true .nil .nil
  | cons x xs ih =>
    cases ys with
    | nil => exact iff_of_false nofun nofun
    | cons y ys =>
      obtain ⟨lt, rest⟩ := List.forall_mem_cons.mp below
      obtain ⟨lt', rest'⟩ := List.forall_mem_cons.mp below'
      rw [List.map_cons, List.map_cons, List.cons_lt_cons_iff, List.cons_lt_cons_iff]
      rcases Std.lt_trichotomy x y with less | rfl | more
      · exact iff_of_true (.inl (symbol_lt_symbol less lt')) (.inl less)
      · rw [ih rest rest']
        simp only [Char.lt_irrefl, UInt8.lt_irrefl]
      · have more' := symbol_lt_symbol more lt
        apply iff_of_false
        · rintro (less | ⟨eq, _⟩)
          · exact Char.lt_asymm less more'
          · exact Char.lt_irrefl _ (eq ▸ more')
        · rintro (less | ⟨rfl, _⟩)
          · exact UInt8.lt_asymm less more
          · exact UInt8.lt_irrefl _ more

/-- A zero byte in front is one more character. -/
lemma length_encode_zero_cons (bytes : Bytes) :
    (encode (0 :: bytes)).length = (encode bytes).length + 1 := by
  have zero : fromBytes.transcribe (0 :: bytes) = 0 :: fromBytes.transcribe bytes := by
    rw [Conversion.transcribe, Conversion.transcribe, List.takeWhile_cons_of_pos (by decide),
      List.dropWhile_cons_of_pos (by decide), List.cons_append]
  rw [encode_eq_ofList, encode_eq_ofList, zero, String.length_ofList, String.length_ofList]
  rfl

/-- Byte strings of one length are ordered as their texts if these are of one length too. -/
theorem encode_lt_encode_iff {bytes bytes' : Bytes} (length : bytes.length = bytes'.length)
    (length' : (encode bytes).toList.length = (encode bytes').toList.length) :
    (encode bytes).toList < (encode bytes').toList ↔ bytes < bytes' := by
  have source := toNat_lt_source_fromBytes
  have below := narrow_fromBytes.transcribe_lt (source bytes)
  have below' := narrow_fromBytes.transcribe_lt (source bytes')
  rw [encode_eq_ofList, encode_eq_ofList, String.toList_ofList, String.toList_ofList] at length' ⊢
  rw [List.length_map, List.length_map] at length'
  calc (fromBytes.transcribe bytes).map symbol < (fromBytes.transcribe bytes').map symbol
      ↔ fromBytes.transcribe bytes < fromBytes.transcribe bytes' := map_symbol_lt_iff below below'
    _ ↔ number 58 (fromBytes.transcribe bytes) < number 58 (fromBytes.transcribe bytes') :=
        Conversion.lt_iff_number_lt (by decide) length' below below'
    _ ↔ number 256 bytes < number 256 bytes' := by
        have same := narrow_fromBytes.number_transcribe (source bytes)
        have same' := narrow_fromBytes.number_transcribe (source bytes')
        exact iff_of_eq (congrArg₂ _ same same')
    _ ↔ bytes < bytes' :=
        (Conversion.lt_iff_number_lt (by decide) length (source bytes) (source bytes')).symm

end Base58

end CoinAddress
