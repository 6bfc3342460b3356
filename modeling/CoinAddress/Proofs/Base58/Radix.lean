import CoinAddress.Proofs.Base58.Numeral

/-!
# Numbers under a change of radix

A conversion writes the numeral of the number that its digits denote (`toNat_convert` in terms of
`Nat.digits`, `numeral_convert` in terms of `Numeral`). What a pass needs for this is that its radices
are bytes at most (`Narrow`) and that each of its places stays below them (`Within`), so that no word
overflows and no cast drops a bit. As a number has one numeral only, converting there and back
changes nothing (`reverse_convert_reverse_convert`).
-/

namespace CoinAddress.Conversion

/-- Both radices are small enough for digits that are bytes. -/
structure Narrow (c : Conversion) : Prop where
  /-- There is a digit to read. -/
  source_pos : 0 < c.source.toNat
  /-- A digit that is read is a byte. -/
  source_le : c.source.toNat ≤ 256
  /-- A digit that is written is a byte. -/
  target_le : c.target.toNat ≤ 256

/-- The digit of a place is below the target radix and its carry below the source radix. -/
structure Within (c : Conversion) (p : Place) : Prop where
  /-- The digit is one of the target numeral. -/
  digit_lt : p.digit.toNat < c.target.toNat
  /-- The carry is no greater than a source digit. -/
  carry_lt : p.carry.toNat < c.source.toNat

/-- The target radix is above one as a number too. -/
lemma one_lt_target_toNat (c : Conversion) : 1 < c.target.toNat :=
  UInt32.lt_iff_toNat_lt.mp c.one_lt_target

section
variable {c : Conversion} {p : Place}

/-- What a place adds up to is below the product of the radices. -/
lemma Within.add_lt (within : c.Within p) :
    p.digit.toNat * c.source.toNat + p.carry.toNat < c.target.toNat * c.source.toNat := by
  calc p.digit.toNat * c.source.toNat + p.carry.toNat
      < p.digit.toNat * c.source.toNat + c.source.toNat :=
        Nat.add_lt_add_left within.carry_lt _
    _ = (p.digit.toNat + 1) * c.source.toNat := by rw [Nat.add_mul, Nat.one_mul]
    _ ≤ c.target.toNat * c.source.toNat := Nat.mul_le_mul_right _ within.digit_lt

/-- The word of a place does not overflow. -/
lemma Narrow.toNat_total (narrow : c.Narrow) (within : c.Within p) :
    (c.total p).toNat = p.digit.toNat * c.source.toNat + p.carry.toNat := by
  have fits : p.digit.toNat * c.source.toNat + p.carry.toNat < 2 ^ 32 := by
    calc p.digit.toNat * c.source.toNat + p.carry.toNat
        < c.target.toNat * c.source.toNat := within.add_lt
      _ ≤ 256 * 256 := Nat.mul_le_mul narrow.target_le narrow.source_le
      _ < 2 ^ 32 := by decide
  rw [total, UInt32.toNat_add, UInt32.toNat_mul, UInt8.toNat_toUInt32,
    Nat.mod_eq_of_lt (lt_of_le_of_lt (Nat.le_add_right _ _) fits), Nat.mod_eq_of_lt fits]

/-- A remainder of the target radix is a byte. -/
lemma Narrow.toNat_remainder (narrow : c.Narrow) (word : UInt32) :
    (word % c.target).toUInt8.toNat = word.toNat % c.target.toNat := by
  have lt : word.toNat % c.target.toNat < c.target.toNat :=
    Nat.mod_lt _ (Nat.zero_lt_of_lt c.one_lt_target_toNat)
  rw [UInt32.toNat_toUInt8, UInt32.toNat_mod]
  exact Nat.mod_eq_of_lt (lt_of_lt_of_le lt narrow.target_le)

/-- The stored digit keeps the whole remainder. -/
lemma Narrow.toNat_stored (narrow : c.Narrow) (within : c.Within p) :
    (c.stored p).toNat
      = (p.digit.toNat * c.source.toNat + p.carry.toNat) % c.target.toNat := by
  rw [stored, narrow.toNat_remainder, narrow.toNat_total within]

/-- The carry that leaves a place is the quotient. -/
lemma Narrow.toNat_carryOut (narrow : c.Narrow) (within : c.Within p) :
    (c.carryOut p).toNat
      = (p.digit.toNat * c.source.toNat + p.carry.toNat) / c.target.toNat := by
  rw [carryOut, UInt32.toNat_div, narrow.toNat_total within]

/-- The carry that leaves a place is no greater than a source digit. -/
lemma Narrow.carryOut_lt (narrow : c.Narrow) (within : c.Within p) :
    (c.carryOut p).toNat < c.source.toNat := by
  rw [narrow.toNat_carryOut within]
  exact Nat.div_lt_of_lt_mul within.add_lt

/-- The digits of a carry are those of its number. -/
lemma Narrow.toNat_spill (narrow : c.Narrow) (carry : UInt32) :
    (c.spill carry).map UInt8.toNat = Nat.digits c.target.toNat carry.toNat := by
  induction carry using spill.induct c with
  | case1 =>
    rw [spill, if_pos rfl, UInt32.toNat_zero, Nat.digits_zero, List.map_nil]
  | case2 carry nonzero ih =>
    have positive : carry.toNat ≠ 0 := fun eq => nonzero (UInt32.toNat_inj.mp eq)
    rw [spill, if_neg nonzero, List.map_cons, ih, narrow.toNat_remainder, UInt32.toNat_div]
    exact (Nat.digits_eq_cons_digits_div c.one_lt_target_toNat positive).symm

end

/-- A pass over a numeral followed by the digits of the last carry. -/
def carried (c : Conversion) (carry : UInt32) : List UInt8 → List UInt8
  | [] => c.spill carry
  | digit :: digits =>
    c.stored ⟨digit, carry⟩ :: c.carried (c.carryOut ⟨digit, carry⟩) digits

/-- The carry left by a pass with a place in front is the one left by the rest of the pass. -/
lemma overflow_cons (c : Conversion) (carry : UInt32) (p : Place) (places : List Place) :
    c.overflow carry (p :: places) = c.overflow (c.carryOut p) places := by
  cases places with
  | nil => rfl
  | cons q places => rw [overflow, overflow, List.getLast?_cons_cons]; rfl

/-- Absorbing a digit is a pass with the digit as the first carry. -/
lemma map_stored_pass (c : Conversion) (carry : UInt32) (numeral : List UInt8) :
    (c.pass carry numeral).map c.stored ++ c.spill (c.overflow carry (c.pass carry numeral))
      = c.carried carry numeral := by
  induction numeral generalizing carry with
  | nil => rfl
  | cons digit digits ih =>
    rw [pass, List.map_cons, overflow_cons, List.cons_append, ih, carried]

section
variable {c : Conversion}

/-- A pass turns the digits of a number into those of the source radix times it, plus the carry. -/
lemma Narrow.toNat_carried (narrow : c.Narrow) {carry : UInt32} {numeral : List UInt8} {n : Nat}
    (lt : carry.toNat < c.source.toNat)
    (eq : numeral.map UInt8.toNat = Nat.digits c.target.toNat n) :
    (c.carried carry numeral).map UInt8.toNat
      = Nat.digits c.target.toNat (c.source.toNat * n + carry.toNat) := by
  have base := c.one_lt_target_toNat
  induction numeral generalizing carry n with
  | nil =>
    have zero : n = 0 := Nat.digits_eq_nil_iff_eq_zero.mp eq.symm
    rw [carried, narrow.toNat_spill, zero, Nat.mul_zero, Nat.zero_add]
  | cons digit digits ih =>
    have nonzero : n ≠ 0 := by
      intro zero
      rw [zero, Nat.digits_zero] at eq
      cases eq
    rw [List.map_cons, Nat.digits_eq_cons_digits_div base nonzero] at eq
    obtain ⟨low, high⟩ := List.cons_eq_cons.mp eq
    have within : c.Within ⟨digit, carry⟩ := ⟨low ▸ Nat.mod_lt _ (Nat.zero_lt_of_lt base), lt⟩
    -- the lowest place of the product is the total of the first place, the others are the rest
    have split : c.source.toNat * n + carry.toNat
        = digit.toNat * c.source.toNat + carry.toNat
          + c.target.toNat * (c.source.toNat * (n / c.target.toNat)) := by
      conv_lhs => rw [← Nat.mod_add_div n c.target.toNat, ← low]
      ring
    have positive : c.source.toNat * n + carry.toNat ≠ 0 := by
      have := Nat.mul_pos narrow.source_pos (Nat.pos_of_ne_zero nonzero)
      omega
    rw [carried, List.map_cons, ih (narrow.carryOut_lt within) high, narrow.toNat_stored within,
      narrow.toNat_carryOut within, Nat.digits_eq_cons_digits_div base positive, split,
      Nat.add_mul_mod_self_left, Nat.add_mul_div_left _ _ (Nat.zero_lt_of_lt base),
      Nat.add_comm (_ / _)]

/-- Absorbing a digit multiplies the number by the source radix and adds the digit. -/
lemma Narrow.toNat_absorb (narrow : c.Narrow) {numeral : List UInt8} {digit : UInt8} {n : Nat}
    (lt : digit.toNat < c.source.toNat)
    (eq : numeral.map UInt8.toNat = Nat.digits c.target.toNat n) :
    (c.absorb numeral digit).map UInt8.toNat
      = Nat.digits c.target.toNat (c.source.toNat * n + digit.toNat) := by
  rw [absorb, map_stored_pass, narrow.toNat_carried _ eq, UInt8.toNat_toUInt32]
  rw [UInt8.toNat_toUInt32]
  exact lt

/-- A conversion writes the one numeral of the number without a zero on top. -/
theorem Narrow.toNat_convert (narrow : c.Narrow) {digits : List UInt8}
    (below : ∀ digit ∈ digits, digit.toNat < c.source.toNat) :
    (c.convert digits).map UInt8.toNat
      = Nat.digits c.target.toNat (number c.source.toNat digits) := by
  -- digits are absorbed from the highest on, so the last one is what the numeral grew by
  induction digits using List.reverseRecOn with
  | nil => exact (Nat.digits_zero _).symm
  | append_singleton digits digit ih =>
    have below' : ∀ digit ∈ digits, digit.toNat < c.source.toNat := by
      intro digit mem
      exact below digit (List.mem_append_left _ mem)
    have lt : digit.toNat < c.source.toNat := below digit (List.mem_concat_self ..)
    rw [convert, List.foldl_concat, number_concat]
    exact narrow.toNat_absorb lt (ih below')

/-- What a conversion writes is the numeral of the number that it reads. -/
lemma Narrow.numeral_convert (narrow : c.Narrow) {digits : List UInt8}
    (below : ∀ digit ∈ digits, digit.toNat < c.source.toNat) :
    Numeral c.target.toNat (number c.source.toNat digits) (c.convert digits).reverse := by
  apply (numeral_iff c.one_lt_target_toNat).mpr
  rw [List.reverse_reverse]
  exact narrow.toNat_convert below

/-- Reading back what was written of digits without a leading zero gives these digits. -/
theorem reverse_convert_reverse_convert {back : Conversion} (narrow : c.Narrow)
    (narrow' : back.Narrow) (source : back.source = c.target) (target : back.target = c.source)
    {digits : List UInt8} (below : ∀ digit ∈ digits, digit.toNat < c.source.toNat)
    (leading : digits.head? ≠ some 0) :
    (back.convert (c.convert digits).reverse).reverse = digits := by
  have written := narrow.numeral_convert below
  have below' : ∀ digit ∈ (c.convert digits).reverse, digit.toNat < back.source.toNat := by
    rw [source]
    exact written.below
  -- both sides are the numeral of one number
  have read := narrow'.numeral_convert below'
  rw [source, target, written.number_eq] at read
  have base : 1 < c.source.toNat := target ▸ back.one_lt_target_toNat
  exact read.unique base ⟨below, leading, rfl⟩

end

/-- The digits converted, with as many leading zeros as before. -/
def transcribe (c : Conversion) (digits : List UInt8) : List UInt8 :=
  digits.takeWhile (· = 0) ++ (c.convert (digits.dropWhile (· = 0))).reverse

/-- The digits after the leading zeros do not start with a zero. -/
lemma head?_dropWhile_zero (digits : List UInt8) : (digits.dropWhile (· = 0)).head? ≠ some 0 := by
  intro eq
  have stop := List.head?_dropWhile_not (fun digit : UInt8 => decide (digit = 0)) digits
  rw [eq] at stop
  cases stop

/-- Leading zeros in front of other digits are taken off whole. -/
lemma takeWhile_zero_append {zeros digits : List UInt8} (all : ∀ digit ∈ zeros, digit = 0)
    (leading : digits.head? ≠ some 0) : (zeros ++ digits).takeWhile (· = 0) = zeros := by
  rw [List.takeWhile_append_of_pos fun digit mem => decide_eq_true (all digit mem)]
  cases digits with
  | nil => exact List.append_nil zeros
  | cons digit digits =>
    have nonzero : digit ≠ 0 := fun eq => leading (congrArg some eq)
    rw [List.takeWhile_cons_of_neg (by simpa using nonzero), List.append_nil]

/-- What follows leading zeros is left as it is. -/
lemma dropWhile_zero_append {zeros digits : List UInt8} (all : ∀ digit ∈ zeros, digit = 0)
    (leading : digits.head? ≠ some 0) : (zeros ++ digits).dropWhile (· = 0) = digits := by
  rw [List.dropWhile_append_of_pos fun digit mem => decide_eq_true (all digit mem)]
  cases digits with
  | nil => rfl
  | cons digit digits =>
    have nonzero : digit ≠ 0 := fun eq => leading (congrArg some eq)
    rw [List.dropWhile_cons_of_neg (by simpa using nonzero)]

section
variable {c : Conversion}

/-- The digits after the leading zeros are among the digits. -/
lemma lt_of_mem_dropWhile {radix : Nat} {digits : List UInt8}
    (below : ∀ digit ∈ digits, digit.toNat < radix) :
    ∀ digit ∈ digits.dropWhile (· = 0), digit.toNat < radix := by
  intro digit mem
  exact below digit ((List.dropWhile_sublist _).mem mem)

/-- The leading digits that are taken off are zeros. -/
lemma eq_zero_of_mem_takeWhile {digits : List UInt8} :
    ∀ digit ∈ digits.takeWhile (· = 0), digit = 0 := by
  intro digit mem
  simpa using List.mem_takeWhile_imp mem

/-- The digits of a transcription are below the target radix. -/
lemma Narrow.transcribe_lt (narrow : c.Narrow) {digits : List UInt8}
    (below : ∀ digit ∈ digits, digit.toNat < c.source.toNat) :
    ∀ digit ∈ c.transcribe digits, digit.toNat < c.target.toNat := by
  intro digit mem
  rcases List.mem_append.mp mem with zero | rest
  · rw [eq_zero_of_mem_takeWhile digit zero]
    exact Nat.zero_lt_of_lt c.one_lt_target_toNat
  · exact (narrow.numeral_convert (lt_of_mem_dropWhile below)).below digit rest

/-- A transcription is the numeral of the number that is read, after as many zeros as lead there. -/
theorem Narrow.transcribe_eq_iff (narrow : c.Narrow) {digits written : List UInt8}
    (below : ∀ digit ∈ digits, digit.toNat < c.source.toNat) :
    c.transcribe digits = written
      ↔ ∃ numeral, Numeral c.target.toNat (number c.source.toNat digits) numeral ∧
          written = List.replicate (digits.takeWhile (· = 0)).length 0 ++ numeral := by
  have zeros : digits.takeWhile (· = 0) = List.replicate (digits.takeWhile (· = 0)).length 0 :=
    List.eq_replicate_of_mem eq_zero_of_mem_takeWhile
  have numeral := narrow.numeral_convert (lt_of_mem_dropWhile below)
  rw [number_dropWhile_zero] at numeral
  rw [transcribe, ← zeros]
  constructor
  · rintro rfl
    exact ⟨_, numeral, rfl⟩
  · rintro ⟨other, numeral', rfl⟩
    rw [numeral.unique c.one_lt_target_toNat numeral']

/-- Transcribing there and back changes nothing. -/
theorem transcribe_transcribe {back : Conversion} (narrow : c.Narrow) (narrow' : back.Narrow)
    (source : back.source = c.target) (target : back.target = c.source) {digits : List UInt8}
    (below : ∀ digit ∈ digits, digit.toNat < c.source.toNat) :
    back.transcribe (c.transcribe digits) = digits := by
  have below' := lt_of_mem_dropWhile below
  have leading := (narrow.numeral_convert below').leading
  rw [transcribe, transcribe, takeWhile_zero_append eq_zero_of_mem_takeWhile leading,
    dropWhile_zero_append eq_zero_of_mem_takeWhile leading,
    reverse_convert_reverse_convert narrow narrow' source target below'
      (head?_dropWhile_zero digits)]
  exact List.takeWhile_append_dropWhile

end

end CoinAddress.Conversion
