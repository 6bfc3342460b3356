import CoinAddress.Proofs.Base58.RoundTrip

/-!
# Carries

A conversion works in words of 32 bits and stores bytes. Every place of a pass stays below both radices
(`Narrow.within_of_mem_pass`), and so do the carries that are left when the pass is over. Hence no word
overflows and no cast drops a bit. Every carry that leaves a place enters the next one
(`map_carry_pass`), so no carry is lost between them either, and the numeral has no zero on top after
any digit (`Narrow.sound_convert`). What is looked up on the way is within the alphabet and within the table of
its digits (`conversion_loses_nothing`).
-/

namespace CoinAddress

namespace Conversion

/-- Nothing is lost at a place, and its word is not above the largest one. -/
structure Lossless (c : Conversion) (largest : Nat) (p : Place) : Prop where
  within : c.Within p
  total_eq : (c.total p).toNat = p.digit.toNat * c.source.toNat + p.carry.toNat
  total_le : (c.total p).toNat ≤ largest
  stored_eq : (c.stored p).toNat = (c.total p).toNat % c.target.toNat
  stored_lt : (c.stored p).toNat < c.target.toNat
  carryOut_eq : (c.carryOut p).toNat = (c.total p).toNat / c.target.toNat
  carryOut_lt : (c.carryOut p).toNat < c.source.toNat

/-- The carry is one from which a digit is split off, and the digit is the whole remainder. -/
structure Split (c : Conversion) (carry : UInt32) : Prop where
  positive : 0 < carry.toNat
  carry_lt : carry.toNat < c.source.toNat
  digit_eq : (carry % c.target).toUInt8.toNat = carry.toNat % c.target.toNat

/-- Dividing a carry makes it smaller, so draining ends. -/
lemma toNat_div_target_lt (c : Conversion) {carry : UInt32} (nonzero : carry ≠ 0) :
    (carry / c.target).toNat < carry.toNat := by
  have positive : 0 < carry.toNat :=
    Nat.pos_of_ne_zero fun zero => nonzero (UInt32.toNat_inj.mp zero)
  rw [UInt32.toNat_div]
  exact Nat.div_lt_self positive c.one_lt_target_toNat

/-- The carries from which digits are split off, one after another, until none is left. -/
def drain (c : Conversion) (carry : UInt32) : List UInt32 :=
  if _ : carry = 0 then [] else carry :: c.drain (carry / c.target)
termination_by carry.toNat
decreasing_by exact c.toNat_div_target_lt (by assumption)

/-- The carries that remain to be drained after the pass over a numeral. -/
def drained (c : Conversion) (numeral : List UInt8) (digit : UInt8) : List UInt32 :=
  c.drain (c.overflow digit.toUInt32 (c.pass digit.toUInt32 numeral))

/-- A numeral absorbs a digit without a loss at any step, and the result is a numeral again. -/
structure Sound (c : Conversion) (largest : Nat) (numeral : List UInt8) (digit : UInt8) : Prop where
  /-- The pass is over these places, and the carries behind them are drained. -/
  steps : c.absorb numeral digit = (c.pass digit.toUInt32 numeral).map c.stored
    ++ (c.drained numeral digit).map fun carry => (carry % c.target).toUInt8
  /-- The places are those of the numeral, one for each digit. -/
  digits : (c.pass digit.toUInt32 numeral).map Place.digit = numeral
  /-- The digit enters the lowest place, what leaves a place enters the next one, and what leaves the
  last one is left to be drained. -/
  chained : (c.pass digit.toUInt32 numeral).map Place.carry
      ++ [c.overflow digit.toUInt32 (c.pass digit.toUInt32 numeral)]
    = digit.toUInt32 :: (c.pass digit.toUInt32 numeral).map c.carryOut
  /-- What is left is divided by the target radix again and again, down to zero. -/
  emptied : c.drained numeral digit ++ [0]
    = c.overflow digit.toUInt32 (c.pass digit.toUInt32 numeral)
      :: (c.drained numeral digit).map fun carry => carry / c.target
  /-- No place loses anything. -/
  places : ∀ p ∈ c.pass digit.toUInt32 numeral, c.Lossless largest p
  /-- No carry that is drained loses anything. -/
  carries : ∀ carry ∈ c.drained numeral digit, c.Split carry
  /-- All digits are below the target radix. -/
  below : ∀ d ∈ c.absorb numeral digit, d.toNat < c.target.toNat
  /-- The number has been multiplied by the source radix, and the digit added. -/
  value : number c.target.toNat (c.absorb numeral digit).reverse
    = c.source.toNat * number c.target.toNat numeral.reverse + digit.toNat
  /-- There is no zero on top. -/
  top : (c.absorb numeral digit).getLast? ≠ some 0

/-- The digits of a carry are the remainders of the carries that are drained. -/
lemma spill_eq_map_drain (c : Conversion) (carry : UInt32) :
    c.spill carry = (c.drain carry).map fun carry => (carry % c.target).toUInt8 := by
  induction carry using spill.induct c with
  | case1 =>
    rw [spill, if_pos rfl, drain, dif_pos rfl]
    rfl
  | case2 carry nonzero ih =>
    rw [spill, if_neg nonzero, drain, dif_neg nonzero, List.map_cons, ih]

/-- No carry that is drained is zero, and none is above the first. -/
lemma bounds_of_mem_drain {c : Conversion} {carry : UInt32} :
    ∀ word ∈ c.drain carry, 0 < word.toNat ∧ word.toNat ≤ carry.toNat := by
  induction carry using spill.induct c with
  | case1 =>
    rw [drain, dif_pos rfl]
    intro word mem
    cases mem
  | case2 carry nonzero ih =>
    have less := c.toNat_div_target_lt nonzero
    rw [drain, dif_neg nonzero]
    intro word mem
    rcases List.mem_cons.mp mem with rfl | mem
    · exact ⟨Nat.zero_lt_of_lt less, Nat.le_refl _⟩
    · obtain ⟨positive, le⟩ := ih word mem
      exact ⟨positive, Nat.le_trans le less.le⟩

/-- Draining begins with the carry and goes on with quotients until there is none left. -/
lemma drain_concat (c : Conversion) (carry : UInt32) :
    c.drain carry ++ [0] = carry :: (c.drain carry).map fun carry => carry / c.target := by
  induction carry using spill.induct c with
  | case1 =>
    rw [drain, dif_pos rfl]
    rfl
  | case2 carry nonzero ih =>
    rw [drain, dif_neg nonzero, List.cons_append, ih, List.map_cons]

/-- A pass has one place for each digit. -/
lemma map_digit_pass (c : Conversion) (carry : UInt32) (numeral : List UInt8) :
    (c.pass carry numeral).map Place.digit = numeral := by
  induction numeral generalizing carry with
  | nil => rfl
  | cons digit digits ih => rw [pass, List.map_cons, ih]

/-- The carries that enter the places and the one behind them are the first carry and those that leave
the places. -/
lemma map_carry_pass (c : Conversion) (carry : UInt32) (numeral : List UInt8) :
    (c.pass carry numeral).map Place.carry ++ [c.overflow carry (c.pass carry numeral)]
      = carry :: (c.pass carry numeral).map c.carryOut := by
  induction numeral generalizing carry with
  | nil => rfl
  | cons digit digits ih =>
    rw [pass, List.map_cons, List.map_cons, overflow_cons, List.cons_append, ih]

section
variable {c : Conversion} {largest : Nat} {p : Place} {carry : UInt32} {numeral digits : List UInt8}
  {digit : UInt8}

/-- A place within the radices loses nothing. -/
lemma Narrow.lossless (narrow : c.Narrow) (within : c.Within p)
    (product : c.target.toNat * c.source.toNat ≤ largest + 1) : c.Lossless largest p where
  within := within
  total_eq := narrow.toNat_total within
  total_le := by
    rw [narrow.toNat_total within]
    exact Nat.le_of_lt_succ (lt_of_lt_of_le within.add_lt product)
  stored_eq := narrow.toNat_remainder _
  stored_lt := by
    rw [stored, narrow.toNat_remainder]
    exact Nat.mod_lt _ (Nat.zero_lt_of_lt c.one_lt_target_toNat)
  carryOut_eq := UInt32.toNat_div ..
  carryOut_lt := narrow.carryOut_lt within

/-- A numeral below the target radix is passed over within both radices. -/
lemma Narrow.within_of_mem_pass (narrow : c.Narrow) (lt : carry.toNat < c.source.toNat)
    (below : ∀ digit ∈ numeral, digit.toNat < c.target.toNat) :
    ∀ p ∈ c.pass carry numeral, c.Within p := by
  -- the carry that enters a place is the one that left the place before
  induction numeral generalizing carry with
  | nil => exact nofun
  | cons digit digits ih =>
    obtain ⟨digit_lt, rest⟩ := List.forall_mem_cons.mp below
    have first : c.Within ⟨digit, carry⟩ := ⟨digit_lt, lt⟩
    rw [pass]
    exact List.forall_mem_cons.mpr ⟨first, ih (narrow.carryOut_lt first) rest⟩

/-- What a pass leaves is no greater than a source digit. -/
lemma Narrow.overflow_lt (narrow : c.Narrow) (lt : carry.toNat < c.source.toNat)
    (below : ∀ digit ∈ numeral, digit.toNat < c.target.toNat) :
    (c.overflow carry (c.pass carry numeral)).toNat < c.source.toNat := by
  rw [overflow]
  split
  case h_1 p last =>
    have mem : p ∈ c.pass carry numeral := List.mem_of_getLast? last
    exact narrow.carryOut_lt (narrow.within_of_mem_pass lt below p mem)
  case h_2 => exact lt

/-- The last digit is absorbed by the numeral of those before it. -/
lemma convert_concat (c : Conversion) (digits : List UInt8) (digit : UInt8) :
    c.convert (digits ++ [digit]) = c.absorb (c.convert digits) digit :=
  List.foldl_concat ..

/-- A digit that others follow is absorbed before them. -/
lemma convert_append_cons (c : Conversion) (digits later : List UInt8) (digit : UInt8) :
    c.convert (digits ++ digit :: later)
      = later.foldl c.absorb (c.absorb (c.convert digits) digit) := by
  rw [convert, List.foldl_append, List.foldl_cons, convert]

/-- A conversion writes digits of the target radix. -/
lemma Narrow.convert_lt (narrow : c.Narrow)
    (below : ∀ digit ∈ digits, digit.toNat < c.source.toNat) :
    ∀ digit ∈ c.convert digits, digit.toNat < c.target.toNat := by
  intro digit mem
  exact (narrow.numeral_convert below).below digit (List.mem_reverse.mpr mem)

/-- A conversion writes no zero on top. -/
lemma Narrow.getLast?_convert (narrow : c.Narrow)
    (below : ∀ digit ∈ digits, digit.toNat < c.source.toNat) :
    (c.convert digits).getLast? ≠ some 0 := by
  rw [← List.head?_reverse]
  exact (narrow.numeral_convert below).leading

/-- What a conversion has written of some digits absorbs the next digit without a loss. -/
theorem Narrow.sound_convert (narrow : c.Narrow)
    (product : c.target.toNat * c.source.toNat ≤ largest + 1)
    (below : ∀ digit ∈ digits, digit.toNat < c.source.toNat) (lt : digit.toNat < c.source.toNat) :
    c.Sound largest (c.convert digits) digit := by
  have numeral := narrow.convert_lt below
  have entering : digit.toUInt32.toNat < c.source.toNat := by
    rw [UInt8.toNat_toUInt32]
    exact lt
  -- the numeral after the step is the one of all digits up to this one
  have further : ∀ d ∈ digits ++ [digit], d.toNat < c.source.toNat :=
    List.forall_mem_append.mpr ⟨below, List.forall_mem_singleton.mpr lt⟩
  constructor
  case steps => rw [absorb, drained, spill_eq_map_drain]
  case digits => exact map_digit_pass ..
  case chained => exact map_carry_pass ..
  case emptied => exact drain_concat ..
  case places =>
    intro p mem
    exact narrow.lossless (narrow.within_of_mem_pass entering numeral p mem) product
  case carries =>
    intro carry mem
    obtain ⟨positive, le⟩ := bounds_of_mem_drain carry mem
    have left := narrow.overflow_lt entering numeral
    exact ⟨positive, lt_of_le_of_lt le left, narrow.toNat_remainder carry⟩
  case below =>
    rw [← convert_concat]
    exact narrow.convert_lt further
  case value =>
    rw [← convert_concat, (narrow.numeral_convert further).number_eq,
      (narrow.numeral_convert below).number_eq, number_concat]
  case top =>
    rw [← convert_concat]
    exact narrow.getLast?_convert further

end

/-- Zeros in front leave the numeral empty, so it does not matter whether they are converted. -/
lemma convert_dropWhile_zero (c : Conversion) (digits : List UInt8) :
    c.convert (digits.dropWhile (· = 0)) = c.convert digits := by
  induction digits with
  | nil => rfl
  | cons digit digits ih =>
    by_cases zero : digit = 0
    · have empty : c.absorb [] 0 = [] := by
        rw [absorb, pass, overflow, spill]
        rfl
      rw [List.dropWhile_cons_of_pos (by simpa using zero), ih, zero, convert, convert,
        List.foldl_cons, empty]
    · rw [List.dropWhile_cons_of_neg (by simpa using zero)]

end Conversion

namespace Base58

/-- To the radix 256 the remainder of a word is its low byte, and the quotient is the bytes above. -/
lemma split_toBytes (word : UInt32) :
    word % toBytes.target = word &&& 0xFF ∧ word / toBytes.target = word >>> 8 := by
  have target : toBytes.target.toNat = 2 ^ 8 := rfl
  have mask : (0xFF : UInt32).toNat = 2 ^ 8 - 1 := rfl
  constructor
  · apply UInt32.toNat_inj.mp
    rw [UInt32.toNat_mod, UInt32.toNat_and, target, mask, Nat.and_two_pow_sub_one_eq_mod]
  · apply UInt32.toNat_inj.mp
    rw [UInt32.toNat_div, UInt32.toNat_shiftRight, target, Nat.shiftRight_eq_div_pow]
    rfl

/-- A character is looked up in the table only if it is ASCII. -/
lemma digit?_lookup (c : Char) :
    (128 ≤ c.toNat → digit? c = none) ∧ ∀ lt : c.toNat < 128, digit? c = digitTable[c.toNat] := by
  constructor
  · intro le
    rw [digit?, dif_neg (Nat.not_lt.mpr le)]
  · intro lt
    rw [digit?, dif_pos lt]

/-- Behind characters that have been read, reading goes on with those that follow. -/
lemma readDigits_append {position : Nat} {before : List Char} {digits : List UInt8}
    (read : readDigits position before = .ok digits) (after : List Char) :
    readDigits position (before ++ after)
      = (readDigits (position + before.length) after).map (digits ++ ·) := by
  induction before generalizing position digits with
  | nil =>
    cases read
    rw [List.nil_append, List.length_nil, Nat.add_zero]
    cases readDigits position after <;> rfl
  | cons c before ih =>
    rw [readDigits] at read
    split at read
    case h_1 => cases read
    case h_2 digit found =>
      obtain ⟨rest, read', rfl⟩ := Outcome.map_eq_ok_iff.mp read
      rw [List.cons_append, readDigits, found, ih read', List.length_cons, Nat.add_assoc,
        Nat.add_comm 1]
      cases readDigits (position + (before.length + 1)) after <;> rfl

/-- When the digits before a character have been converted, the digit of the character is absorbed
next, and then those of the characters that follow. -/
lemma decode_eq_map_foldl {text : String} {before after : List Char} {c : Char}
    {digits : List UInt8} {digit : UInt8} (split : text.toList = before ++ c :: after)
    (read : readDigits 0 before = .ok digits) (found : digit? c = some digit) :
    decode text = (readDigits (before.length + 1) after).map fun later =>
      (digits ++ digit :: later).takeWhile (· = 0)
        ++ (later.foldl toBytes.absorb
          (toBytes.absorb (toBytes.convert digits) digit)).reverse := by
  rw [decode_eq_map_readDigits, split, readDigits_append read, readDigits, found, Nat.zero_add]
  cases readDigits (before.length + 1) after with
  | error e => rfl
  | ok later =>
    have written : toBytes.convert ((digits ++ digit :: later).dropWhile (· = 0))
        = later.foldl toBytes.absorb (toBytes.absorb (toBytes.convert digits) digit) := by
      rw [Conversion.convert_dropWhile_zero, Conversion.convert_append_cons]
    exact congrArg (fun numeral => Except.ok (_ ++ numeral.reverse)) written

/-- No conversion of a byte string or of a text loses a bit. Whatever has been converted already, the
next byte or digit is absorbed within the radices, in words of at most 14847 that are split without a
remainder cut off. Every carry goes on to the next place until none is left, so the number grows as it
has to, and there is no zero on top. Each digit that is written is the index of a symbol, and only
ASCII characters are looked up. -/
theorem conversion_loses_nothing :
    (∀ (bytes processed later : Bytes) (byte : UInt8),
      bytes.dropWhile (· = 0) = processed ++ byte :: later →
      fromBytes.Sound 14847 (fromBytes.convert processed) byte ∧
        fromBytes.convert (bytes.dropWhile (· = 0))
          = later.foldl fromBytes.absorb (fromBytes.absorb (fromBytes.convert processed) byte)) ∧
    (∀ bytes : Bytes, encode bytes = String.ofList ((fromBytes.transcribe bytes).map symbol) ∧
      ∀ digit ∈ fromBytes.transcribe bytes,
        ∃ _ : digit.toNat < 58, symbol digit = alphabet[digit.toNat]) ∧
    (∀ (text : String) (before after : List Char) (c : Char) (digits : List UInt8) (digit : UInt8),
      text.toList = before ++ c :: after → readDigits 0 before = .ok digits →
      digit? c = some digit →
      toBytes.Sound 14847 (toBytes.convert digits) digit ∧
        decode text = (readDigits (before.length + 1) after).map fun later =>
          (digits ++ digit :: later).takeWhile (· = 0)
            ++ (later.foldl toBytes.absorb
              (toBytes.absorb (toBytes.convert digits) digit)).reverse) ∧
    (∀ word : UInt32,
      word % toBytes.target = word &&& 0xFF ∧ word / toBytes.target = word >>> 8) ∧
    (∀ c : Char, (128 ≤ c.toNat → digit? c = none) ∧
      ∀ lt : c.toNat < 128, digit? c = digitTable[c.toNat]) := by
  refine ⟨?_, ?_, ?_, split_toBytes, digit?_lookup⟩
  · intro bytes processed later byte split
    refine ⟨?_, ?_⟩
    · exact narrow_fromBytes.sound_convert (by decide) (toNat_lt_source_fromBytes processed)
        byte.toNat_lt
    · rw [split, Conversion.convert_append_cons]
  · intro bytes
    refine ⟨encode_eq_ofList bytes, ?_⟩
    intro digit mem
    have lt : digit.toNat < 58 :=
      narrow_fromBytes.transcribe_lt (toNat_lt_source_fromBytes bytes) digit mem
    exact ⟨lt, dif_pos lt⟩
  · intro text before after c digits digit split read found
    refine ⟨?_, decode_eq_map_foldl split read found⟩
    exact narrow_toBytes.sound_convert (by decide) (eq_map_symbol_of_readDigits read).1
      (digit?_eq_some_iff.mp found).1

/-- Two bytes and their text reach the largest word, as `57 * 256 + 255` when they are written and as
`255 * 58 + 57` when they are read. -/
theorem conversion_loses_nothing_extreme :
    ([0, 57, 255] : Bytes).dropWhile (· = 0) = [57] ++ 255 :: [] ∧
      fromBytes.Sound 14847 (fromBytes.convert [57]) 255 ∧
      (fromBytes.pass 255 (fromBytes.convert [57])).map fromBytes.total = [14847] ∧
      "5Qz".toList = ['5', 'Q'] ++ 'z' :: [] ∧ readDigits 0 ['5', 'Q'] = .ok [4, 23] ∧
      digit? 'z' = some 57 ∧ toBytes.Sound 14847 (toBytes.convert [4, 23]) 57 ∧
      (toBytes.pass 57 (toBytes.convert [4, 23])).map toBytes.total = [14847] ∧
      decode "5Qz" = .ok (toBytes.absorb (toBytes.convert [4, 23]) 57).reverse ∧
      128 ≤ 'é'.toNat ∧ digit? 'é' = none ∧ 'Q'.toNat < 128 ∧ digit? 'Q' = digitTable[81] := by
  have bytes : ([0, 57, 255] : Bytes).dropWhile (· = 0) = [57] ++ 255 :: [] := by decide
  have text : "5Qz".toList = ['5', 'Q'] ++ 'z' :: [] := by decide
  have read : readDigits 0 ['5', 'Q'] = .ok [4, 23] := by decide
  have found : digit? 'z' = some 57 := by decide
  have large : 128 ≤ 'é'.toNat := by decide
  have small : 'Q'.toNat < 128 := by decide
  obtain ⟨written, _, wordsRead, _, lookup⟩ := conversion_loses_nothing
  obtain ⟨sound, decoded⟩ := wordsRead _ _ _ _ _ _ text read found
  exact ⟨bytes, (written _ _ _ _ bytes).1, by decide +kernel, text, read, found, sound,
    by decide +kernel, decoded, large, (lookup _).1 large, small, (lookup _).2 small⟩

end Base58

end CoinAddress
