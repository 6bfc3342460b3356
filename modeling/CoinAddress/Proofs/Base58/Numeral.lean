import CoinAddress.Base58.Conversion
import Mathlib.Data.List.TakeWhile
import Mathlib.Data.Nat.Digits.Lemmas

/-!
# Numbers and their numerals

Digits denote a number, the highest of them first (`number`). A number has one numeral to a radix that
a byte can hold: digits that denote it, none of them a zero in front of the others (`Numeral`). With
which digit the numeral begins, and how many digits follow, is seen from the two neighbouring
multiples of a power of the radix between which the number lies (`Leads`).
-/

namespace CoinAddress.Conversion

/-- The number that digits denote, the highest first. -/
def number (radix : Nat) (digits : List UInt8) : Nat :=
  Nat.ofDigits radix (digits.reverse.map UInt8.toNat)

/-- The digits of a number, the highest first. Zero has no digit at all. -/
structure Numeral (radix n : Nat) (digits : List UInt8) : Prop where
  below : ∀ digit ∈ digits, digit.toNat < radix
  leading : digits.head? ≠ some 0
  number_eq : number radix digits = n

/-- The number leads with the digit, with so many places behind it. -/
structure Leads (radix n digit count : Nat) : Prop where
  positive : 0 < digit
  below : digit < radix
  lower : digit * radix ^ count ≤ n
  upper : n < (digit + 1) * radix ^ count

/-- The lists of bytes with the same numbers are the same. -/
lemma toNat_injective : Function.Injective (List.map UInt8.toNat) := by
  apply List.map_injective_iff.mpr
  intro a b eq
  exact UInt8.toNat_inj.mp eq

/-- The last digit counts once and those before it the radix times. -/
lemma number_concat (radix : Nat) (digits : List UInt8) (digit : UInt8) :
    number radix (digits ++ [digit]) = radix * number radix digits + digit.toNat := by
  rw [number, List.reverse_concat, List.map_cons, Nat.ofDigits_cons, Nat.add_comm]
  rfl

/-- The first digit counts as many powers of the radix as there are digits after it. -/
lemma number_cons (radix : Nat) (digit : UInt8) (digits : List UInt8) :
    number radix (digit :: digits)
      = digit.toNat * radix ^ digits.length + number radix digits := by
  rw [number, List.reverse_cons, List.map_append, Nat.ofDigits_append, List.map_singleton,
    Nat.ofDigits_singleton, List.length_map, List.length_reverse, Nat.add_comm, Nat.mul_comm]
  rfl

/-- Leading zeros do not count. -/
lemma number_dropWhile_zero (radix : Nat) (digits : List UInt8) :
    number radix (digits.dropWhile (· = 0)) = number radix digits := by
  induction digits with
  | nil => rfl
  | cons digit digits ih =>
    by_cases zero : digit = 0
    · rw [List.dropWhile_cons_of_pos (by simpa using zero), ih, number_cons, zero,
        UInt8.toNat_zero, Nat.zero_mul, Nat.zero_add]
    · rw [List.dropWhile_cons_of_neg (by simpa using zero)]

section
variable {radix n : Nat} {digits : List UInt8}

/-- Digits denote less than the power of the radix to their count. -/
lemma number_lt_pow (base : 1 < radix) (below : ∀ digit ∈ digits, digit.toNat < radix) :
    number radix digits < radix ^ digits.length := by
  have length : (digits.reverse.map UInt8.toNat).length = digits.length := by
    rw [List.length_map, List.length_reverse]
  rw [number, ← length]
  apply Nat.ofDigits_lt_base_pow_length base
  intro n mem
  obtain ⟨digit, mem', rfl⟩ := List.mem_map.mp mem
  exact below digit (List.mem_reverse.mp mem')

/-- The numeral of a number has no zero on top. -/
lemma getLast?_digits_ne_zero (radix n : Nat) : (Nat.digits radix n).getLast? ≠ some 0 := by
  intro eq
  by_cases zero : n = 0
  · rw [zero, Nat.digits_zero] at eq
    cases eq
  · rw [List.getLast?_eq_some_getLast (Nat.digits_ne_nil_iff_ne_zero.mpr zero)] at eq
    exact Nat.getLast_digit_ne_zero radix zero (Option.some.inj eq)

/-- Digits without a leading zero are those of the number that they denote. -/
lemma digits_number (base : 1 < radix) (below : ∀ digit ∈ digits, digit.toNat < radix)
    (leading : digits.head? ≠ some 0) :
    Nat.digits radix (number radix digits) = digits.reverse.map UInt8.toNat := by
  apply Nat.digits_ofDigits radix base
  · intro n mem
    obtain ⟨digit, mem', rfl⟩ := List.mem_map.mp mem
    exact below digit (List.mem_reverse.mp mem')
  · intro nonempty zero
    apply leading
    have top := List.getLast?_eq_some_getLast nonempty
    rw [zero, List.getLast?_map, List.getLast?_reverse] at top
    obtain ⟨digit, head, eq⟩ := Option.map_eq_some_iff.mp top
    have zero' : digit = 0 := UInt8.toNat_inj.mp eq
    rw [head, zero']

/-- The numeral of a number is the list of its digits, turned around. -/
lemma numeral_iff (base : 1 < radix) :
    Numeral radix n digits ↔ digits.reverse.map UInt8.toNat = Nat.digits radix n := by
  constructor
  · rintro ⟨below, leading, rfl⟩
    exact (digits_number base below leading).symm
  · intro eq
    refine ⟨?_, ?_, ?_⟩
    · intro digit mem
      have mem' := List.mem_map_of_mem (f := UInt8.toNat) (List.mem_reverse.mpr mem)
      rw [eq] at mem'
      exact Nat.digits_lt_base base mem'
    · intro zero
      apply getLast?_digits_ne_zero radix n
      rw [← eq, List.getLast?_map, List.getLast?_reverse, zero]
      rfl
    · rw [number, eq, Nat.ofDigits_digits]

/-- A number has one numeral at most. -/
lemma Numeral.unique {digits' : List UInt8} (base : 1 < radix) (numeral : Numeral radix n digits)
    (numeral' : Numeral radix n digits') : digits = digits' := by
  apply List.reverse_injective
  apply toNat_injective
  rw [(numeral_iff base).mp numeral, (numeral_iff base).mp numeral']

/-- To a radix that a byte can hold every number has a numeral, and only one. -/
theorem existsUnique_numeral (base : 1 < radix) (le : radix ≤ 256) (n : Nat) :
    ∃! digits, Numeral radix n digits := by
  have fits : ∀ d ∈ Nat.digits radix n, (UInt8.ofNat d).toNat = d := by
    intro d mem
    exact UInt8.toNat_ofNat_of_lt (lt_of_lt_of_le (Nat.digits_lt_base base mem) le)
  have numeral : Numeral radix n ((Nat.digits radix n).map UInt8.ofNat).reverse := by
    apply (numeral_iff base).mpr
    rw [List.reverse_reverse, List.map_map]
    exact (List.map_congr_left fits).trans (List.map_id _)
  exact ⟨_, numeral, fun _ other => other.unique base numeral⟩

/-- Zero is written without digits. -/
lemma numeral_zero_iff : Numeral radix 0 digits ↔ digits = [] := by
  constructor
  · rintro ⟨below, leading, zero⟩
    cases digits with
    | nil => rfl
    | cons digit digits =>
      have positive : 0 < radix := Nat.zero_lt_of_lt (below digit (List.mem_cons_self ..))
      rw [number_cons] at zero
      have none : digit.toNat = 0 := by
        have product := (Nat.add_eq_zero_iff.mp zero).1
        exact (Nat.mul_eq_zero.mp product).resolve_right (Nat.pow_pos positive).ne'
      exact absurd (congrArg some (UInt8.toNat_inj.mp none)) leading
  · rintro rfl
    exact ⟨nofun, nofun, rfl⟩

end

section
variable {radix n digit count : Nat}

/-- A number that leads at a place is no less than the power of the radix there. -/
lemma Leads.pow_le (leads : Leads radix n digit count) : radix ^ count ≤ n := by
  calc radix ^ count
      ≤ digit * radix ^ count := Nat.le_mul_of_pos_left _ leads.positive
    _ ≤ n := leads.lower

/-- A number that leads at a place is below the next power of the radix. -/
lemma Leads.lt_pow (leads : Leads radix n digit count) : n < radix ^ (count + 1) := by
  calc n
      < (digit + 1) * radix ^ count := leads.upper
    _ ≤ radix * radix ^ count := Nat.mul_le_mul_right _ leads.below
    _ = radix ^ (count + 1) := (Nat.pow_succ' ..).symm

/-- Of two places at which a number leads, neither is higher than the other. -/
lemma Leads.count_le (base : 1 < radix) {digit' count' : Nat} (leads : Leads radix n digit count)
    (leads' : Leads radix n digit' count') : count ≤ count' := by
  have lt : radix ^ count < radix ^ (count' + 1) := lt_of_le_of_lt leads.pow_le leads'.lt_pow
  exact Nat.le_of_lt_succ ((Nat.pow_lt_pow_iff_right base).mp lt)

/-- Of two digits with which a number leads at one place, neither is greater than the other. -/
lemma Leads.digit_le {digit' : Nat} (leads : Leads radix n digit count)
    (leads' : Leads radix n digit' count) : digit ≤ digit' := by
  have lt : digit * radix ^ count < (digit' + 1) * radix ^ count :=
    lt_of_le_of_lt leads.lower leads'.upper
  exact Nat.le_of_lt_succ (Nat.lt_of_mul_lt_mul_right lt)

/-- A number leads with one digit only, and at one place only. -/
lemma Leads.unique (base : 1 < radix) {digit' count' : Nat} (leads : Leads radix n digit count)
    (leads' : Leads radix n digit' count') : digit = digit' ∧ count = count' := by
  have same : count = count' :=
    Nat.le_antisymm (leads.count_le base leads') (leads'.count_le base leads)
  subst same
  exact ⟨Nat.le_antisymm (leads.digit_le leads') (leads'.digit_le leads), rfl⟩

/-- Digits denote a number between two neighbouring multiples, which the first of them counts. -/
lemma number_cons_bounds (base : 1 < radix) (first : UInt8) {rest : List UInt8}
    (below : ∀ digit ∈ rest, digit.toNat < radix) :
    first.toNat * radix ^ rest.length ≤ number radix (first :: rest) ∧
      number radix (first :: rest) < (first.toNat + 1) * radix ^ rest.length := by
  rw [number_cons, Nat.succ_mul]
  exact ⟨Nat.le_add_right .., Nat.add_lt_add_left (number_lt_pow base below) _⟩

/-- A number leads with the first digit of its numeral. -/
lemma Numeral.leads (base : 1 < radix) {first : UInt8} {rest : List UInt8}
    (numeral : Numeral radix n (first :: rest)) : Leads radix n first.toNat rest.length := by
  obtain ⟨below, leading, rfl⟩ := numeral
  obtain ⟨first_lt, rest_lt⟩ := List.forall_mem_cons.mp below
  obtain ⟨lower, upper⟩ := number_cons_bounds base first rest_lt
  refine ⟨?_, first_lt, lower, upper⟩
  apply Nat.pos_of_ne_zero
  intro zero
  exact leading (congrArg some (UInt8.toNat_inj.mp zero))

/-- The numeral of a number begins with the digit that leads. -/
lemma Leads.exists_eq_cons (base : 1 < radix) {digit : UInt8} {digits : List UInt8}
    (leads : Leads radix n digit.toNat count) (numeral : Numeral radix n digits) :
    ∃ rest, digits = digit :: rest ∧ rest.length = count := by
  cases digits with
  | nil =>
    have zero : n = 0 := numeral.number_eq.symm
    have positive : 0 < radix ^ count := Nat.pow_pos (Nat.zero_lt_of_lt base)
    exact absurd zero (lt_of_lt_of_le positive leads.pow_le).ne'
  | cons first rest =>
    obtain ⟨same, length⟩ := (numeral.leads base).unique base leads
    exact ⟨rest, by rw [UInt8.toNat_inj.mp same], length⟩

end

end CoinAddress.Conversion
