import CoinAddress.Base58.Alphabet
import Mathlib.Data.List.Nodup

/-!
# Digits and characters of the alphabet

The table of digits is the inverse of the alphabet: a character has a digit exactly if it is in the
alphabet, and then the symbol of the digit is the character (`digit?_eq_some_iff`).
-/

namespace CoinAddress.Base58

/-- The characters of the alphabet are ASCII. -/
lemma toNat_lt_of_mem_alphabet {c : Char} (mem : c ∈ alphabet.toList) : c.toNat < 128 := by
  have all : alphabet.toList.all (·.toNat < 128) := rfl
  exact of_decide_eq_true (List.all_eq_true.mp all c mem)

/-- No character stands for two digits. -/
lemma nodup_alphabet : alphabet.toList.Nodup := by
  decide +kernel

/-- The digit of a character is its position in the alphabet. -/
lemma digit?_eq_map_idxOf? (c : Char) :
    digit? c = (alphabet.toList.idxOf? c).map UInt8.ofNat := by
  rw [digit?]
  split
  · rw [digitTable, Vector.getElem_ofFn, Char.ofNat_toNat]
  · rename_i large
    have absent : c ∉ alphabet.toList := fun mem => large (toNat_lt_of_mem_alphabet mem)
    rw [List.idxOf?_eq_none_iff.mpr absent]
    rfl

/-- The characters that have a digit are those of the alphabet. -/
lemma isSome_digit?_iff {c : Char} : (digit? c).isSome ↔ c ∈ alphabet.toList := by
  rw [digit?_eq_map_idxOf?, Option.isSome_map, List.isSome_idxOf?]

/-- The symbol of a digit stands at its position in the alphabet. -/
lemma symbol_eq_getElem {digit : UInt8} (lt : digit.toNat < 58) :
    symbol digit = alphabet.toList[digit.toNat] := by
  rw [symbol, dif_pos lt]
  rfl

/-- The symbol of a digit is in the alphabet. -/
lemma symbol_mem_alphabet {digit : UInt8} (lt : digit.toNat < 58) :
    symbol digit ∈ alphabet.toList := by
  rw [symbol_eq_getElem lt]
  exact List.getElem_mem _

/-- The digit of a symbol is the one that it stands for. -/
lemma digit?_symbol {digit : UInt8} (lt : digit.toNat < 58) :
    digit? (symbol digit) = some digit := by
  have position : alphabet.toList.idxOf? (symbol digit) = some digit.toNat := by
    apply List.idxOf?_eq_some_iff.mpr
    refine ⟨lt, (symbol_eq_getElem lt).symm, ?_⟩
    intro j before eq
    rw [symbol_eq_getElem lt] at eq
    exact absurd (nodup_alphabet.getElem_inj_iff.mp eq) (Nat.ne_of_lt before)
  rw [digit?_eq_map_idxOf?, position, Option.map_some, UInt8.ofNat_toNat]

/-- A character has a digit exactly if it is the symbol of the digit. -/
theorem digit?_eq_some_iff {c : Char} {digit : UInt8} :
    digit? c = some digit ↔ digit.toNat < 58 ∧ symbol digit = c := by
  constructor
  · intro eq
    rw [digit?_eq_map_idxOf?] at eq
    obtain ⟨position, found, rfl⟩ := Option.map_eq_some_iff.mp eq
    obtain ⟨lt, here, _⟩ := List.idxOf?_eq_some_iff.mp found
    have small : position < 58 := lt
    have toNat : (UInt8.ofNat position).toNat = position :=
      UInt8.toNat_ofNat_of_lt (Nat.lt_trans small (by decide))
    refine ⟨toNat.symm ▸ small, ?_⟩
    rw [symbol_eq_getElem (toNat.symm ▸ small)]
    simpa only [toNat] using here
  · rintro ⟨lt, rfl⟩
    exact digit?_symbol lt

end CoinAddress.Base58
