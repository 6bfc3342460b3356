import CoinAddress.Json.Layout
import CoinAddress.Json.Numeral
import Mathlib.Tactic.Lemma

/-!
# Digits that are read as a number

Decimal digits without an idle leading zero are read as the number that they denote, as long as it
fits the significand and nothing follows that could go on with it (`Numeral.Plain.read`). Natural
numbers are written like this (`Numeral.plain_natural`).
-/

namespace CoinAddress.Json.Numeral

/-- No number goes on with this text. -/
def Ended (rest : List Char) : Prop :=
  ∀ c ∈ rest.head?, digit? c = none ∧ c ≠ '.' ∧ c ≠ 'e' ∧ c ≠ 'E'

/-- No digit stands at the front. -/
def Stopped (rest : List Char) : Prop :=
  ∀ c ∈ rest.head?, digit? c = none

/-- Where a number ends there is no digit. -/
lemma Ended.stopped {rest : List Char} (ended : Ended rest) : Stopped rest :=
  fun c head => (ended c head).1

/-- Any character but a digit stops a run of digits. -/
lemma stopped_cons {c : Char} (other : digit? c = none) (rest : List Char) : Stopped (c :: rest) := by
  intro d head
  cases head
  exact other

/-- The digits of a whole number as they have to be written. -/
structure Plain (digits : List Char) : Prop where
  nonempty : digits ≠ []
  all : ∀ c ∈ digits, c.isDigit
  leading : digits.head? = some '0' → digits = ['0']

instance (digits : List Char) : Decidable (Plain digits) :=
  decidable_of_iff
    (digits ≠ [] ∧ digits.all Char.isDigit ∧ (digits.head? = some '0' → digits = ['0']))
    ⟨fun ⟨nonempty, all, leading⟩ => ⟨nonempty, List.all_eq_true.mp all, leading⟩,
      fun ⟨nonempty, all, leading⟩ => ⟨nonempty, List.all_eq_true.mpr all, leading⟩⟩

/-- The value of a digit is its distance from zero. -/
lemma digit?_of_isDigit {c : Char} (digit : c.isDigit) : digit? c = some (c.toNat - '0'.toNat) := by
  rw [Char.isDigit, Bool.and_eq_true, decide_eq_true_iff, decide_eq_true_iff] at digit
  exact if_pos digit

/-- Appending digits makes a value no smaller. -/
lemma le_ofDigitChars (digits : List Char) (value : Nat) :
    value ≤ Nat.ofDigitChars 10 digits value := by
  induction digits generalizing value with
  | nil => exact Nat.le_of_eq Nat.ofDigitChars_nil.symm
  | cons c digits ih =>
    rw [Nat.ofDigitChars_cons]
    have := ih (10 * value + (c.toNat - '0'.toNat))
    omega

section
variable {rest : List Char}

/-- A decimal digit has a value. -/
lemma isSome_digit?_of_isDigit {c : Char} (digit : c.isDigit) : (digit? c).isSome = true := by
  rw [digit?_of_isDigit digit]
  rfl

/-- Without a digit nothing is appended. -/
lemma appendDigits_of_stopped (stopped : Stopped rest) (limit value count : Nat) :
    appendDigits limit value count rest = ⟨value, count, rest⟩ := by
  cases rest with
  | nil => rfl
  | cons c rest => rw [appendDigits, stopped c rfl]

/-- Digits are counted up to where they stop. -/
lemma countDigits_append {digits : List Char} (all : ∀ c ∈ digits, c.isDigit)
    (stopped : Stopped rest) : countDigits (digits ++ rest) = digits.length := by
  have none : rest.takeWhile (fun c => (digit? c).isSome) = [] := by
    cases rest with
    | nil => rfl
    | cons c rest => rw [List.takeWhile_cons_of_neg (by simp [stopped c rfl])]
  rw [countDigits, List.takeWhile_append_of_pos fun c mem => isSome_digit?_of_isDigit (all c mem),
    none, List.append_nil]

/-- Digits are passed over up to where they stop. -/
lemma skipDigits_append {digits : List Char} (all : ∀ c ∈ digits, c.isDigit)
    (stopped : Stopped rest) : skipDigits (digits ++ rest) = rest := by
  rw [skipDigits, List.dropWhile_append_of_pos fun c mem => isSome_digit?_of_isDigit (all c mem)]
  cases rest with
  | nil => rfl
  | cons c rest => rw [List.dropWhile_cons_of_neg (by simp [stopped c rfl])]

/-- Without a digit there is nothing to count. -/
lemma countDigits_of_stopped (stopped : Stopped rest) : countDigits rest = 0 :=
  countDigits_append (List.forall_mem_nil _) stopped

/-- Without a digit nothing is passed over. -/
lemma skipDigits_of_stopped (stopped : Stopped rest) : skipDigits rest = rest :=
  skipDigits_append (List.forall_mem_nil _) stopped

/-- Digits are appended up to the last one, as long as the value stays within the limit. -/
lemma appendDigits_append (stopped : Stopped rest) {limit : Nat} {digits : List Char}
    (all : ∀ c ∈ digits, c.isDigit) {value : Nat} (count : Nat)
    (fits : Nat.ofDigitChars 10 digits value ≤ limit) :
    appendDigits limit value count (digits ++ rest)
      = ⟨Nat.ofDigitChars 10 digits value, count + digits.length, rest⟩ := by
  induction digits generalizing value count with
  | nil =>
    rw [Nat.ofDigitChars_nil]
    exact appendDigits_of_stopped stopped limit value count
  | cons c digits ih =>
    obtain ⟨digit, all⟩ := List.forall_mem_cons.mp all
    rw [Nat.ofDigitChars_cons] at fits
    -- the limit is tested at every digit, and no partial value exceeds the whole one
    have below := Nat.le_trans (le_ofDigitChars _ _) fits
    rw [List.cons_append, appendDigits, digit?_of_isDigit digit]
    dsimp only
    rw [if_pos below, ih all (count + 1) fits, Nat.ofDigitChars_cons, List.length_cons,
      Nat.add_right_comm, Nat.add_assoc]

/-- Without fraction and exponent the number ends after its whole part. -/
lemma readTail_of_ended (ended : Ended rest) (negative : Bool) (significand excess : Nat) :
    readTail negative significand excess rest
      = if excess = 0 then .ok (ofInteger negative significand, rest)
        else (ofParts negative significand excess).map (·, rest) := by
  unfold readTail
  split
  case h_1 => exact absurd rfl (ended '.' rfl).2.1
  case h_2 => exact absurd rfl (ended 'e' rfl).2.2.1
  case h_3 => exact absurd rfl (ended 'E' rfl).2.2.2
  case h_4 => rfl

/-- A number does not go on with its sign. -/
lemma read_of_isDigit {c : Char} (digit : c.isDigit) (text : List Char) :
    read (c :: text) = readUnsigned false (c :: text) := by
  unfold read
  split
  case h_1 eq =>
    cases (List.cons.inj eq).1
    cases digit
  case h_2 => rfl

/-- A zero alone is read as zero. -/
lemma readUnsigned_zero (ended : Ended rest) :
    readUnsigned false ('0' :: rest) = .ok (.integer 0, rest) := by
  have zero : digit? '0' = some 0 := rfl
  rw [readUnsigned, zero]
  dsimp only
  rw [if_pos (countDigits_of_stopped ended.stopped), readTail_of_ended ended]
  rfl

/-- The only digit of value zero is the character zero. -/
lemma eq_zero_of_digit {c : Char} (digit : c.isDigit) (eq : c.toNat - '0'.toNat = 0) : c = '0' := by
  have le := (Char.isDigit_iff_toNat.mp digit).1
  have same : c.toNat = '0'.toNat := by omega
  exact Char.toNat_inj.mp same

/-- A leading digit other than zero is followed by all digits that there are. -/
lemma readUnsigned_of_ne_zero {c : Char} (digit : c.isDigit) (nonzero : c ≠ '0')
    (negative : Bool) (text : List Char) :
    readUnsigned negative (c :: text)
      = let run := appendDigits maxSignificand (c.toNat - '0'.toNat) 0 text
        readTail negative run.value (countDigits run.rest) (skipDigits run.rest) := by
  rw [readUnsigned, digit?_of_isDigit digit]
  split
  case h_1 eq => cases eq
  case h_2 eq => exact absurd (eq_zero_of_digit digit (Option.some.inj eq)) nonzero
  case h_3 eq =>
    cases eq
    rfl

/-- Digits without an idle leading zero are read as their number. -/
lemma Plain.read {digits : List Char} (plain : Plain digits) (ended : Ended rest)
    (fits : Nat.ofDigitChars 10 digits 0 ≤ maxSignificand) :
    read (digits ++ rest) = .ok (.integer (Nat.ofDigitChars 10 digits 0 : Nat), rest) := by
  obtain ⟨nonempty, all, leading⟩ := plain
  cases digits with
  | nil => exact absurd rfl nonempty
  | cons c digits =>
    obtain ⟨digit, all⟩ := List.forall_mem_cons.mp all
    rw [List.cons_append, read_of_isDigit digit]
    by_cases zero : c = '0'
    · cases leading (congrArg some zero)
      exact readUnsigned_zero ended
    · rw [Nat.ofDigitChars_cons, Nat.mul_zero, Nat.zero_add] at fits ⊢
      rw [readUnsigned_of_ne_zero digit zero, appendDigits_append ended.stopped all 0 fits]
      dsimp only
      rw [countDigits_of_stopped ended.stopped, skipDigits_of_stopped ended.stopped,
        readTail_of_ended ended]
      rfl

end

/-- Only the numeral of zero has a leading zero. -/
lemma toDigits_of_head? {n : Nat} (head : (Nat.toDigits 10 n).head? = some '0') :
    Nat.toDigits 10 n = ['0'] := by
  induction n using Nat.strongRecOn with
  | ind n ih =>
    by_cases lt : n < 10
    · rw [Nat.toDigits_of_lt_base lt] at head ⊢
      exact congrArg List.singleton (Option.some.inj head)
    · have lower := Nat.toDigits_of_base_le (by decide) (Nat.le_of_not_lt lt)
      obtain ⟨c, digits, eq⟩ := List.exists_cons_of_ne_nil (Nat.toDigits_ne_nil (n := n / 10) (b := 10))
      rw [lower, eq] at head
      have zero := ih (n / 10) (by omega) (eq ▸ head)
      -- the digits of the quotient would denote zero
      have value := Nat.ofDigitChars_ten_toDigits (n := n / 10)
      rw [zero] at value
      have none : n / 10 = 0 := value.symm
      omega

/-- A natural number is written in plain digits. -/
lemma plain_natural (n : Nat) : Plain (natural n) := by
  refine ⟨Nat.toDigits_ne_nil, ?_, toDigits_of_head?⟩
  intro c mem
  exact Nat.isDigit_of_mem_toDigits (by decide) (by decide) mem

/-- The digits of a natural number denote it. -/
lemma ofDigitChars_natural (n : Nat) : Nat.ofDigitChars 10 (natural n) 0 = n :=
  Nat.ofDigitChars_ten_toDigits

end CoinAddress.Json.Numeral
