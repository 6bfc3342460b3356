import CoinAddress.Json.Text
import Mathlib.Tactic.IntervalCases

/-!
# Strings that are read back

Every character of a string is read back from its written form, whether it stands for itself, has a
short escape or is escaped by its unit (`readBody_escapeChar`), and so is the string
(`readBody_flatMap_escapeChar`).
-/

namespace CoinAddress.Json

/-- The character of a hexadecimal digit has its value. -/
lemma digit?_digitChar {n : Nat} (lt : n < 16) : Hex.digit? (Nat.digitChar n) = some n := by
  interval_cases n <;> rfl

section
variable {c d : Char} {text rest : List Char}

/-- A character that needs no escape is read as itself. -/
lemma readBody_of_plain (quote : c ≠ '"') (backslash : c ≠ '\\') (shown : isControl c = false) :
    readBody (c :: text) = (readBody text).map fun (cs, rest) => (c :: cs, rest) := by
  rw [readBody, if_neg quote, if_neg backslash, shown]
  rfl

/-- An escape is read as its character. -/
lemma readBody_of_readEscaped (read : readEscaped text = .ok (c, rest)) :
    readBody ('\\' :: text) = (readBody rest).map fun (cs, rest) => (c :: cs, rest) := by
  rw [readBody, if_neg (by decide), if_pos rfl]
  split
  case h_1 fault eq => cases read.symm.trans eq
  case h_2 d after eq =>
    cases read.symm.trans eq
    rfl

/-- A short escape is read as the character that it stands for. -/
lemma readEscaped_of_shortEscape? (short : shortEscape? c = some d) :
    readEscaped (c :: text) = .ok (d, text) := by
  have unit : c ≠ 'u' := by
    rintro rfl
    cases short
  rw [readEscaped, readEscape, if_neg unit, short]
  rfl

/-- A control character is read back from the digits of its unit. -/
lemma readEscaped_of_isControl (control : isControl c = true) :
    readEscaped ('u' :: '0' :: '0' :: (Hex.byteDigits c.toNat.toUInt8 ++ text))
      = .ok (c, text) := by
  have lt : c.toNat < 0x20 := of_decide_eq_true control
  have byte : c.toNat.toUInt8.toNat = c.toNat := UInt8.toNat_ofNat_of_lt' (Nat.lt_trans lt (by decide))
  have high := digit?_digitChar (show c.toNat / 16 < 16 by omega)
  have low := digit?_digitChar (show c.toNat % 16 < 16 by omega)
  have zero : Hex.digit? '0' = some 0 := rfl
  have value : ((0 * 16 + 0) * 16 + c.toNat / 16) * 16 + c.toNat % 16 = c.toNat := by omega
  have unit : readUnit ('0' :: '0' :: (Hex.byteDigits c.toNat.toUInt8 ++ text))
      = .ok (c.toNat, text) := by
    rw [Hex.byteDigits, byte, List.cons_append, List.cons_append, List.nil_append, readUnit]
    rw [zero, high, low]
    dsimp only
    rw [value]
  have trailing : isTrailing c.toNat = false := decide_eq_false (by omega)
  have leading : isLeading c.toNat = false := decide_eq_false (by omega)
  rw [readEscaped, readEscape, if_pos rfl, unit]
  simp only [Except.map, bind, Except.bind, trailing, leading, Char.ofNat_toNat]
  rfl

/-- A character is written with a short escape, by its unit or as itself. -/
lemma escapeChar_cases (c : Char) :
    (∃ d, shortEscape? d = some c ∧ escapeChar c = ['\\', d]) ∨
    (isControl c = true ∧
      escapeChar c = '\\' :: 'u' :: '0' :: '0' :: Hex.byteDigits c.toNat.toUInt8) ∨
    (c ≠ '"' ∧ c ≠ '\\' ∧ isControl c = false ∧ escapeChar c = [c]) := by
  unfold escapeChar
  split
  case isTrue mark =>
    rcases mark with rfl | rfl
    · exact .inl ⟨'"', rfl, rfl⟩
    · exact .inl ⟨'\\', rfl, rfl⟩
  case isFalse other =>
    split
    case isTrue eq => exact .inl ⟨'b', eq ▸ rfl, rfl⟩
    split
    case isTrue eq => exact .inl ⟨'f', eq ▸ rfl, rfl⟩
    split
    case isTrue eq => exact .inl ⟨'n', eq ▸ rfl, rfl⟩
    split
    case isTrue eq => exact .inl ⟨'r', eq ▸ rfl, rfl⟩
    split
    case isTrue eq => exact .inl ⟨'t', eq ▸ rfl, rfl⟩
    split
    case isTrue control => exact .inr (.inl ⟨control, rfl⟩)
    case isFalse shown =>
      obtain ⟨quote, backslash⟩ := not_or.mp other
      exact .inr (.inr ⟨quote, backslash, Bool.eq_false_iff.mpr shown, rfl⟩)

/-- Every character is read back from its written form. -/
lemma readBody_escapeChar (c : Char) (text : List Char) :
    readBody (escapeChar c ++ text)
      = (readBody text).map fun (cs, rest) => (c :: cs, rest) := by
  -- the three ways to write a character are the three ways in which a body goes on
  rcases escapeChar_cases c with ⟨d, short, eq⟩ | ⟨control, eq⟩ | ⟨quote, backslash, shown, eq⟩
  · rw [eq]
    exact readBody_of_readEscaped (readEscaped_of_shortEscape? short)
  · rw [eq]
    exact readBody_of_readEscaped (readEscaped_of_isControl control)
  · rw [eq]
    exact readBody_of_plain quote backslash shown

/-- A written string is read back up to its closing quote. -/
lemma readBody_flatMap_escapeChar (cs rest : List Char) :
    readBody (cs.flatMap escapeChar ++ '"' :: rest) = .ok (cs, rest) := by
  induction cs with
  | nil => rw [List.flatMap_nil, List.nil_append, readBody, if_pos rfl]
  | cons c cs ih =>
    rw [List.flatMap_cons, List.append_assoc, readBody_escapeChar, ih]
    rfl

end

end CoinAddress.Json
