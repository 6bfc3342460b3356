import CoinAddress.Proofs.Base58.RoundTrip
import Mathlib.Tactic.NormNum.Pow

/-!
# Lengths under a change of radix

If `target ^ num` is at least `source ^ den`, then `num` digits are enough for every `den` source
digits, and a numeral grows by that ratio and at most one digit more (`length_convert_le`). For bytes
written in Base58 the ratio is `138 / 100` (`utf8ByteSize_encode_le`).
-/

namespace CoinAddress

namespace Conversion

/-- A ratio of exponents that suffices once suffices for every exponent, up to one digit. -/
lemma pow_lt_pow_ratio {source target num den : Nat} (base : 1 < target) (positive : 0 < den)
    (ratio : source ^ den ≤ target ^ num) (n : Nat) :
    source ^ n < target ^ (num * n / den + 1) := by
  -- raised to the power `den`, both sides are compared through the ratio
  apply (Nat.pow_lt_pow_iff_left positive.ne').mp
  calc (source ^ n) ^ den
      = (source ^ den) ^ n := by rw [← Nat.pow_mul, ← Nat.pow_mul, Nat.mul_comm]
    _ ≤ (target ^ num) ^ n := Nat.pow_le_pow_left ratio n
    _ = target ^ (num * n) := by rw [Nat.pow_mul]
    _ < target ^ (den * (num * n / den + 1)) := by
        apply Nat.pow_lt_pow_right base
        exact Nat.lt_mul_div_succ (num * n) positive
    _ = (target ^ (num * n / den + 1)) ^ den := by rw [← Nat.pow_mul, Nat.mul_comm]

section
variable {c : Conversion} {num den : Nat} {digits : List UInt8}

/-- A numeral grows by the ratio of its radices and at most one digit. -/
theorem Narrow.length_convert_le (narrow : c.Narrow) (base : 1 < c.source.toNat)
    (positive : 0 < den) (ratio : c.source.toNat ^ den ≤ c.target.toNat ^ num)
    (below : ∀ digit ∈ digits, digit.toNat < c.source.toNat) :
    (c.convert digits).length ≤ num * digits.length / den + 1 := by
  rw [← List.length_map UInt8.toNat, narrow.toNat_convert below]
  apply (Nat.digits_length_le_iff c.one_lt_target_toNat _).mpr
  calc number c.source.toNat digits
      < c.source.toNat ^ digits.length := number_lt_pow base below
    _ < c.target.toNat ^ (num * digits.length / den + 1) :=
        pow_lt_pow_ratio c.one_lt_target_toNat positive ratio _

/-- With leading zeros a numeral still grows by the ratio, if that is not below one. -/
theorem Narrow.length_transcribe_le (narrow : c.Narrow) (base : 1 < c.source.toNat)
    (positive : 0 < den) (grows : den ≤ num)
    (ratio : c.source.toNat ^ den ≤ c.target.toNat ^ num)
    (below : ∀ digit ∈ digits, digit.toNat < c.source.toNat) :
    (c.transcribe digits).length ≤ num * digits.length / den + 1 := by
  let zeros := digits.takeWhile (· = 0)
  let rest := digits.dropWhile (· = 0)
  -- a zero is kept as one digit, so the zeros stay below the ratio without the extra digit
  have total : digits.length = zeros.length + rest.length := by
    rw [← List.length_append, List.takeWhile_append_dropWhile]
  have converted : (c.convert rest).length ≤ num * rest.length / den + 1 :=
    narrow.length_convert_le base positive ratio (lt_of_mem_dropWhile below)
  have kept : zeros.length ≤ num * zeros.length / den := by
    apply (Nat.le_div_iff_mul_le positive).mpr
    rw [Nat.mul_comm]
    exact Nat.mul_le_mul_right _ grows
  rw [transcribe, List.length_append, List.length_reverse]
  calc zeros.length + (c.convert rest).length
      ≤ num * zeros.length / den + (num * rest.length / den + 1) := Nat.add_le_add kept converted
    _ = num * zeros.length / den + num * rest.length / den + 1 := (Nat.add_assoc ..).symm
    _ ≤ (num * zeros.length + num * rest.length) / den + 1 :=
        Nat.add_le_add_right (Nat.div_add_div_le_add_div ..) 1
    _ = num * digits.length / den + 1 := by rw [total, Nat.mul_add]

end

end Conversion

namespace Base58

/-- A character of the alphabet takes one byte. -/
lemma utf8Size_of_mem_alphabet {c : Char} (mem : c ∈ alphabet.toList) : c.utf8Size = 1 := by
  have ascii : c.toNat < 128 := toNat_lt_of_mem_alphabet mem
  exact Char.utf8Size_eq_one_iff.mpr (UInt32.le_iff_toNat_le.mpr (Nat.le_of_lt_succ ascii))

/-- A text of symbols has one byte for each of them. -/
lemma utf8ByteSize_ofList_map_symbol {digits : List UInt8}
    (below : ∀ digit ∈ digits, digit.toNat < 58) :
    (String.ofList (digits.map symbol)).utf8ByteSize = digits.length := by
  induction digits with
  | nil => rfl
  | cons digit digits ih =>
    obtain ⟨lt, rest⟩ := List.forall_mem_cons.mp below
    rw [List.map_cons, String.ofList_cons, String.utf8ByteSize_append, String.utf8ByteSize_singleton,
      utf8Size_of_mem_alphabet (symbol_mem_alphabet lt), ih rest, List.length_cons, Nat.add_comm]

/-- A hundred bytes fit into 138 characters. -/
lemma ratio_fromBytes : fromBytes.source.toNat ^ 100 ≤ fromBytes.target.toNat ^ 138 := by
  have radices : fromBytes.source.toNat = 256 ∧ fromBytes.target.toNat = 58 := ⟨rfl, rfl⟩
  rw [radices.1, radices.2]
  norm_num

/-- The text of a byte string is no longer than 138 hundredths of it, and one character more. -/
lemma utf8ByteSize_encode_le (bytes : Bytes) :
    (encode bytes).utf8ByteSize ≤ 138 * bytes.length / 100 + 1 := by
  have below := toNat_lt_source_fromBytes bytes
  rw [encode_eq_ofList, utf8ByteSize_ofList_map_symbol (narrow_fromBytes.transcribe_lt below)]
  exact narrow_fromBytes.length_transcribe_le (by decide) (by decide) (by decide) ratio_fromBytes
    below

end Base58

end CoinAddress
