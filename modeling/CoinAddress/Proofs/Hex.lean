import CoinAddress.Hex
import CoinAddress.Outcome
import Mathlib.Data.Bool.AllAny
import Mathlib.Data.List.Basic

/-!
# Hexadecimal text is read as it is written

A text spells bytes exactly if its lower-case form is what is written for them (`decode_eq_ok_iff`),
and every text of an even number of digits spells some (`exists_decode_iff`). Reading goes over the
UTF-8 bytes of a text, where no byte of a character beyond ASCII is a digit, so it may as well go
over the characters.
-/

namespace CoinAddress.Hex

/-- The digits that are written, in the order of their values. -/
def lowerDigits : List Char :=
  ['0', '1', '2', '3', '4', '5', '6', '7', '8', '9', 'a', 'b', 'c', 'd', 'e', 'f']

/-- The digits that are read. -/
def digits : List Char := lowerDigits ++ ['A', 'B', 'C', 'D', 'E', 'F']

/-- The values of the two digits of a byte. -/
def halves (byte : UInt8) : List Nat := [byte.toNat / 16, byte.toNat % 16]

/-- The value of the digit that a byte of a text stands for. -/
def value? (byte : UInt8) : Option Nat := digit? (Char.ofUInt8 byte)

/-! ## Digits -/

section
variable {c : Char} {value : Nat}

/-- No character beyond ASCII comes before one of ASCII. -/
lemma not_le_of_large {d : Char} (large : 128 ≤ c.toNat) (ascii : d.toNat < 128) : ¬ c ≤ d := by
  intro le
  have : c.toNat ≤ d.toNat := UInt32.le_iff_toNat_le.mp le
  omega

/-- No character beyond ASCII is a digit. -/
lemma digit?_of_large (large : 128 ≤ c.toNat) : digit? c = none := by
  have beyond : ∀ {d e : Char}, e.toNat < 128 → ¬ (d ≤ c ∧ c ≤ e) :=
    fun ascii range => not_le_of_large large ascii range.2
  rw [digit?, if_neg (beyond (by decide)), if_neg (beyond (by decide)), if_neg (beyond (by decide))]

/-- No character beyond ASCII is changed. -/
lemma toLower_of_large (large : 128 ≤ c.toNat) : c.toLower = c :=
  dif_neg fun range => not_le_of_large (d := 'Z') large (by decide) range.2

/-- The digits are ASCII. -/
lemma toNat_lt_of_mem_digits (mem : c ∈ digits) : c.toNat < 128 := by
  have all : ∀ d ∈ digits, d.toNat < 128 := List.all_iff_forall_prop.mp (by decide)
  exact all c mem

/-- In lower case, no character beyond ASCII is a digit either. -/
lemma toLower_not_mem_of_large (large : 128 ≤ c.toNat) : c.toLower ∉ lowerDigits := by
  intro mem
  rw [toLower_of_large large] at mem
  exact Nat.not_lt.mpr large (toNat_lt_of_mem_digits (List.mem_append_left _ mem))

/-- The value of a digit is the position of its lower-case form. -/
lemma digit?_eq_idxOf? (c : Char) : digit? c = lowerDigits.idxOf? c.toLower := by
  have table : ∀ n < 128, digit? (Char.ofNat n) = lowerDigits.idxOf? (Char.ofNat n).toLower := by
    decide +kernel
  rcases Nat.lt_or_ge c.toNat 128 with ascii | large
  · have eq := table c.toNat ascii
    rwa [Char.ofNat_toNat] at eq
  · rw [digit?_of_large large, List.idxOf?_eq_none_iff.mpr (toLower_not_mem_of_large large)]

/-- The digits that are read are those that are written if letters are made small. -/
lemma mem_digits_iff : c ∈ digits ↔ c.toLower ∈ lowerDigits := by
  have table : ∀ n < 128, Char.ofNat n ∈ digits ↔ (Char.ofNat n).toLower ∈ lowerDigits := by
    decide +kernel
  rcases Nat.lt_or_ge c.toNat 128 with ascii | large
  · have iff := table c.toNat ascii
    rwa [Char.ofNat_toNat] at iff
  · exact iff_of_false (fun mem => Nat.not_lt.mpr large (toNat_lt_of_mem_digits mem))
      (toLower_not_mem_of_large large)

/-- The digits that are written are those of the values below sixteen. -/
lemma mem_lowerDigits_iff : c ∈ lowerDigits ↔ ∃ value < 16, value.digitChar = c := by
  constructor
  · intro mem
    have all : ∀ d ∈ lowerDigits, ∃ value < 16, value.digitChar = d :=
      List.all_iff_forall_prop.mp (by decide)
    exact all c mem
  · rintro ⟨value, lt, rfl⟩
    have all : ∀ value < 16, value.digitChar ∈ lowerDigits := by decide
    exact all value lt

/-- A character has a value exactly if it is the digit of it in lower case. -/
lemma digit?_eq_some_iff : digit? c = some value ↔ value < 16 ∧ value.digitChar = c.toLower := by
  rw [digit?_eq_idxOf?]
  constructor
  · intro eq
    obtain ⟨lt, here, _⟩ := List.idxOf?_eq_some_iff.mp eq
    have symbols : ∀ i, (h : i < lowerDigits.length) → i.digitChar = lowerDigits[i] := by decide
    exact ⟨lt, (symbols value lt).trans here⟩
  · rintro ⟨lt, eq⟩
    have positions : ∀ value < 16, lowerDigits.idxOf? value.digitChar = some value := by decide
    rw [← eq]
    exact positions value lt

/-- A text has the values of digits exactly if in lower case it consists of their digits. -/
lemma map_digit?_eq_iff {cs : List Char} {values : List Nat} (below : ∀ value ∈ values, value < 16) :
    cs.map digit? = values.map some ↔ cs.map Char.toLower = values.map Nat.digitChar := by
  induction cs generalizing values with
  | nil => simp
  | cons c cs ih =>
    cases values with
    | nil => simp
    | cons value values =>
      obtain ⟨lt, below⟩ := List.forall_mem_cons.mp below
      simp only [List.map_cons, List.cons.injEq]
      rw [digit?_eq_some_iff, ih below, and_iff_right lt, eq_comm]

end

/-! ## Bytes -/

section
variable {byte : UInt8} {bytes : Bytes}

/-- Half a byte is below sixteen. -/
lemma lt_of_mem_halves {value : Nat} (mem : value ∈ halves byte) : value < 16 := by
  have := byte.toNat_lt
  rcases List.mem_pair.mp mem with rfl | rfl <;> omega

/-- All halves of bytes are below sixteen. -/
lemma lt_of_mem_flatMap_halves {value : Nat} (mem : value ∈ bytes.flatMap halves) : value < 16 := by
  obtain ⟨byte, _, mem⟩ := List.mem_flatMap.mp mem
  exact lt_of_mem_halves mem

/-- Two values make a byte of which they are the halves. -/
lemma halves_ofNat {high low : Nat} (lt_high : high < 16) (lt_low : low < 16) :
    halves (UInt8.ofNat (16 * high + low)) = [high, low] := by
  have toNat : (UInt8.ofNat (16 * high + low)).toNat = 16 * high + low :=
    UInt8.toNat_ofNat_of_lt' (by rw [UInt8.size]; omega)
  have first : (16 * high + low) / 16 = high := by omega
  have second : (16 * high + low) % 16 = low := by omega
  rw [halves, toNat, first, second]

/-- The halves of a byte make the byte. -/
lemma ofNat_halves (byte : UInt8) :
    UInt8.ofNat (16 * (byte.toNat / 16) + byte.toNat % 16) = byte := by
  rw [Nat.div_add_mod, UInt8.ofNat_toNat]

/-- Bytes have twice as many halves. -/
lemma length_flatMap_halves (bytes : Bytes) : (bytes.flatMap halves).length = 2 * bytes.length := by
  simp [List.length_flatMap, halves, Nat.mul_comm]

/-- What is written for bytes are the digits of their halves. -/
lemma toList_encode (bytes : Bytes) :
    (encode bytes).toList = (bytes.flatMap halves).map Nat.digitChar := by
  rw [encode, String.toList_ofList, List.map_flatMap]
  rfl

/-- Two characters are written for each byte. -/
lemma length_encode (bytes : Bytes) : (encode bytes).length = 2 * bytes.length := by
  rw [← String.length_toList, toList_encode, List.length_map, length_flatMap_halves]

/-- Only small digits are written. -/
lemma mem_lowerDigits_of_mem_encode (bytes : Bytes) :
    ∀ c ∈ (encode bytes).toList, c ∈ lowerDigits := by
  rw [toList_encode]
  intro c mem
  obtain ⟨value, half, rfl⟩ := List.mem_map.mp mem
  exact mem_lowerDigits_iff.mpr ⟨value, lt_of_mem_flatMap_halves half, rfl⟩

/-- Small digits in an even number are written for some bytes. -/
lemma exists_encode {n : Nat} {cs : List Char} (length : cs.length = 2 * n)
    (all : ∀ c ∈ cs, c ∈ lowerDigits) : ∃ bytes, (encode bytes).toList = cs ∧ bytes.length = n := by
  induction n generalizing cs with
  | zero => exact ⟨[], (List.eq_nil_of_length_eq_zero length).symm, rfl⟩
  | succ n ih =>
    match cs, length, all with
    | [_], length, _ =>
      rw [List.length_singleton] at length
      omega
    | high :: low :: rest, length, all =>
      obtain ⟨mem_high, mem_low, mem_rest⟩ : high ∈ lowerDigits ∧ low ∈ lowerDigits ∧
          ∀ c ∈ rest, c ∈ lowerDigits := by simpa using all
      obtain ⟨h, lt_h, rfl⟩ := mem_lowerDigits_iff.mp mem_high
      obtain ⟨l, lt_l, rfl⟩ := mem_lowerDigits_iff.mp mem_low
      have shorter : rest.length = 2 * n := by
        rw [List.length_cons, List.length_cons] at length
        omega
      obtain ⟨bytes, eq, count⟩ := ih shorter mem_rest
      refine ⟨UInt8.ofNat (16 * h + l) :: bytes, ?_, ?_⟩
      · rw [toList_encode, List.flatMap_cons, halves_ofNat lt_h lt_l, List.map_append,
          ← toList_encode, eq]
        rfl
      · rw [List.length_cons, count]

/-- A byte of a text is read as its value, wherever it stands. -/
lemma digitAt_eq_ok_iff {position value : Nat} :
    digitAt position byte = .ok value ↔ value? byte = some value := by
  rw [digitAt, value?]
  cases digit? (Char.ofUInt8 byte) <;> simp

/-- An even number of bytes is read as the bytes whose halves are their values. -/
lemma decodePairs_eq_ok_iff {position : Nat} {text : Bytes} (even : text.length % 2 = 0) :
    decodePairs position text = .ok bytes ↔ text.map value? = (bytes.flatMap halves).map some := by
  induction position, text using decodePairs.induct generalizing bytes with
  | case1 position high low rest ih =>
    have even : rest.length % 2 = 0 := by
      rw [List.length_cons, List.length_cons] at even
      omega
    rw [decodePairs, Outcome.bind_eq_ok_iff]
    constructor
    · rintro ⟨h, first, eq⟩
      obtain ⟨l, second, eq⟩ := Outcome.bind_eq_ok_iff.mp eq
      obtain ⟨others, read, eq⟩ := Outcome.bind_eq_ok_iff.mp eq
      rw [digitAt_eq_ok_iff] at first second
      have lt_h := (digit?_eq_some_iff.mp first).1
      have lt_l := (digit?_eq_some_iff.mp second).1
      rw [← Except.ok.inj eq, List.flatMap_cons, halves_ofNat lt_h lt_l, List.map_cons,
        List.map_cons, first, second, (ih even).mp read]
      rfl
    · intro eq
      cases bytes with
      | nil => cases eq
      | cons byte others =>
        simp only [List.flatMap_cons, halves, List.map_cons, List.cons_append, List.nil_append,
          List.cons.injEq] at eq
        obtain ⟨first, second, eq⟩ := eq
        refine ⟨_, digitAt_eq_ok_iff.mpr first, ?_⟩
        refine Outcome.bind_eq_ok_iff.mpr ⟨_, digitAt_eq_ok_iff.mpr second, ?_⟩
        refine Outcome.bind_eq_ok_iff.mpr ⟨_, (ih even).mpr eq, ?_⟩
        rw [ofNat_halves]
        rfl
  | case2 text position short =>
    match text with
    | [] => cases bytes <;> simp [decodePairs, halves]
    | [_] => cases even
    | high :: low :: rest => exact absurd rfl (short high low rest)

end

/-! ## Texts -/

section
variable {c : Char} {text : String} {bytes : Bytes}

/-- An ASCII character is encoded as one byte that stands for it. -/
lemma map_value?_of_ascii (ascii : c.toNat < 128) :
    (String.utf8EncodeChar c).map value? = [digit? c] := by
  have size : c.utf8Size = 1 :=
    Char.utf8Size_eq_one_iff.mpr (UInt32.le_iff_toNat_le.mpr (Nat.le_of_lt_succ ascii))
  have same : Char.ofUInt8 c.val.toUInt8 = c := by
    apply Char.ext
    apply UInt32.toNat.inj
    exact Nat.mod_eq_of_lt (Nat.lt_trans ascii (by decide))
  rw [String.utf8EncodeChar_eq_singleton size, List.map_singleton, value?, same]

/-- Any other character is encoded with a last byte that is no digit. -/
lemma none_mem_of_large (large : 128 ≤ c.toNat) : none ∈ (String.utf8EncodeChar c).map value? := by
  let last := UInt8.ofNat (c.val.toNat % 64 + 128)
  have mem : last ∈ String.utf8EncodeChar c := by
    have more : ¬ c.val.toNat ≤ 127 := Nat.not_le.mpr large
    simp only [String.utf8EncodeChar, if_neg more]
    split
    · exact List.mem_cons_of_mem _ (List.mem_cons_self ..)
    · split <;> simp [last]
  have toNat : last.toNat = c.val.toNat % 64 + 128 :=
    UInt8.toNat_ofNat_of_lt' (by rw [UInt8.size]; omega)
  have beyond : 128 ≤ (Char.ofUInt8 last).toNat := by
    show 128 ≤ last.toNat
    omega
  have stray : value? last = none := digit?_of_large beyond
  rw [← stray]
  exact List.mem_map_of_mem mem

/-- The bytes of a text have the values of digits exactly if its characters have. -/
lemma map_value?_utf8_eq_iff {values : List Nat} :
    (utf8 text).map value? = values.map some ↔ text.toList.map digit? = values.map some := by
  by_cases ascii : ∀ c ∈ text.toList, c.toNat < 128
  · have same : (utf8 text).map value? = text.toList.map digit? := by
      rw [utf8, List.map_flatMap, List.map_eq_flatMap]
      apply List.flatMap_congr
      intro c mem
      exact map_value?_of_ascii (ascii c mem)
    rw [same]
  · simp only [not_forall, Nat.not_lt] at ascii
    obtain ⟨c, mem, large⟩ := ascii
    -- the values of the digits leave no place for what has none
    have complete : none ∉ values.map some := by simp
    refine iff_of_false ?_ ?_
    · intro eq
      apply complete
      rw [← eq, utf8, List.map_flatMap]
      exact List.mem_flatMap.mpr ⟨c, mem, none_mem_of_large large⟩
    · intro eq
      apply complete
      rw [← eq, ← digit?_of_large large]
      exact List.mem_map_of_mem mem

/-- A text is made lower-case character by character. -/
lemma toList_toLower (text : String) : text.toLower.toList = text.toList.map Char.toLower :=
  String.toList_map

/-- What is written is in lower case. -/
lemma toLower_encode (bytes : Bytes) : (encode bytes).toLower = encode bytes := by
  have lower : ∀ c ∈ lowerDigits, c.toLower = c := List.all_iff_forall_prop.mp (by decide)
  rw [← String.toList_inj, toList_toLower]
  calc (encode bytes).toList.map Char.toLower
      = (encode bytes).toList.map id := by
        apply List.map_congr_left
        intro c mem
        exact lower c (mem_lowerDigits_of_mem_encode bytes c mem)
    _ = (encode bytes).toList := List.map_id _

/-- A text spells bytes exactly if in lower case it is what is written for them. -/
theorem decode_eq_ok_iff : decode text = .ok bytes ↔ encode bytes = text.toLower := by
  have written : encode bytes = text.toLower
      ↔ (utf8 text).map value? = (bytes.flatMap halves).map some := by
    rw [map_value?_utf8_eq_iff, map_digit?_eq_iff fun _ => lt_of_mem_flatMap_halves,
      ← toList_encode, ← String.toList_inj, toList_toLower, eq_comm]
  rw [written, decode]
  split
  case isTrue even => exact decodePairs_eq_ok_iff even
  case isFalse odd =>
    refine iff_of_false (by intro eq; cases eq) ?_
    intro eq
    -- two halves for each byte make an even number
    have length := congrArg List.length eq
    rw [List.length_map, List.length_map, length_flatMap_halves] at length
    omega

/-- A text spells a number of bytes exactly if it has twice as many characters, all of them digits. -/
theorem exists_decode_iff {n : Nat} :
    (∃ bytes, decode text = .ok bytes ∧ bytes.length = n)
      ↔ text.length = 2 * n ∧ ∀ c ∈ text.toList, c ∈ digits := by
  simp only [decode_eq_ok_iff, mem_digits_iff]
  have length_toLower : text.toLower.length = text.length := by
    rw [← String.length_toList, toList_toLower, List.length_map, String.length_toList]
  constructor
  · rintro ⟨bytes, eq, rfl⟩
    refine ⟨?_, ?_⟩
    · rw [← length_toLower, ← eq, length_encode]
    · intro c mem
      apply mem_lowerDigits_of_mem_encode bytes
      rw [eq, toList_toLower]
      exact List.mem_map_of_mem mem
  · rintro ⟨length, all⟩
    have lower : ∀ c ∈ text.toLower.toList, c ∈ lowerDigits := by
      rw [toList_toLower]
      intro c mem
      obtain ⟨d, here, rfl⟩ := List.mem_map.mp mem
      exact all d here
    obtain ⟨bytes, eq, count⟩ :=
      exists_encode (by rw [String.length_toList, length_toLower, length]) lower
    exact ⟨bytes, String.toList_inj.mp eq, count⟩

end

end CoinAddress.Hex
