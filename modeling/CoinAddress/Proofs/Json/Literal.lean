import CoinAddress.Json.Skip
import CoinAddress.Proofs.Json.Numeral
import CoinAddress.Outcome

/-!
# Number literals

A number literal is a whole part without an idle leading zero, with or without a sign, a fraction and
an exponent. Reading one stops at its end, whatever its length, and what is read is an integer from
zero on only if the literal is the whole part alone and fits the significand (`Literal.read_cases`).
Passing over one stops at its end too (`skipUnsigned_append`).
-/

namespace CoinAddress.Json.Numeral

/-- At least one digit. -/
def SomeDigits (digits : List Char) : Prop :=
  digits ≠ [] ∧ ∀ c ∈ digits, c.isDigit

/-- The fraction of a literal, if there is one. -/
inductive Fraction : List Char → Prop where
  | absent : Fraction []
  | present {digits : List Char} :
    SomeDigits digits → Fraction ('.' :: digits)

/-- The sign of an exponent, if there is one. -/
inductive Sign : List Char → Prop where
  | absent : Sign []
  | plus : Sign ['+']
  | minus : Sign ['-']

/-- The exponent of a literal, if there is one. -/
inductive Exponent : List Char → Prop where
  | absent : Exponent []
  | lower {sign digits : List Char} :
    Sign sign → SomeDigits digits → Exponent ('e' :: (sign ++ digits))
  | upper {sign digits : List Char} :
    Sign sign → SomeDigits digits → Exponent ('E' :: (sign ++ digits))

/-- A number as it is written. -/
inductive Literal : List Char → Prop where
  | unsigned {whole fraction exponent : List Char} :
    Plain whole → Fraction fraction → Exponent exponent → Literal (whole ++ (fraction ++ exponent))
  | negative {whole fraction exponent : List Char} :
    Plain whole → Fraction fraction → Exponent exponent →
    Literal ('-' :: (whole ++ (fraction ++ exponent)))

/-- No digit comes at once where an exponent may be. -/
lemma Exponent.stopped {exponent rest : List Char} (shape : Exponent exponent)
    (ended : Ended rest) : Stopped (exponent ++ rest) := by
  cases shape with
  | absent => exact ended.stopped
  | lower => exact stopped_cons rfl _
  | upper => exact stopped_cons rfl _

/-- No digit comes at once where a fraction or an exponent may be. -/
lemma Fraction.stopped {fraction exponent rest : List Char} (shape : Fraction fraction)
    (shape' : Exponent exponent) (ended : Ended rest) :
    Stopped (fraction ++ (exponent ++ rest)) := by
  cases shape with
  | absent => exact shape'.stopped ended
  | present => exact stopped_cons rfl _

/-- Digits that are not appended are left over, and without these the value is that of all. -/
lemma exists_appendDigits {digits rest : List Char} (all : ∀ c ∈ digits, c.isDigit)
    (stopped : Stopped rest) (limit value count : Nat) :
    ∃ left, (appendDigits limit value count (digits ++ rest)).rest = left ++ rest ∧
      (∀ c ∈ left, c.isDigit) ∧
      (left = [] → (appendDigits limit value count (digits ++ rest)).value
        = Nat.ofDigitChars 10 digits value) := by
  induction digits generalizing value count with
  | nil =>
    rw [List.nil_append, appendDigits_of_stopped stopped]
    exact ⟨[], rfl, List.forall_mem_nil _, fun _ => Nat.ofDigitChars_nil.symm⟩
  | cons c digits ih =>
    obtain ⟨digit, all'⟩ := List.forall_mem_cons.mp all
    rw [List.cons_append, appendDigits, digit?_of_isDigit digit]
    dsimp only
    split
    case isTrue =>
      obtain ⟨left, rest_eq, digits_left, value_eq⟩ :=
        ih all' (10 * value + (c.toNat - '0'.toNat)) (count + 1)
      refine ⟨left, rest_eq, digits_left, ?_⟩
      rw [Nat.ofDigitChars_cons]
      exact value_eq
    case isFalse => exact ⟨c :: digits, rfl, all, fun eq => absurd eq (List.cons_ne_nil _ _)⟩

/-! ### Reading -/

section
variable {negative down : Bool} {significand excess : Nat} {power : Int}
  {digits fraction exponent whole rest left : List Char} {number : Number}

/-- The number is none of the integers that fit. -/
def Inexact (number : Number) : Prop :=
  ∃ bits, number = .float bits

/-- A number that is made of parts is a double. -/
lemma inexact_of_ofParts {text : List Char}
    (read : (ofParts negative significand power).map (·, text) = .ok (number, left)) :
    left = text ∧ Inexact number := by
  obtain ⟨number', made, eq⟩ := Outcome.map_eq_ok_iff.mp read
  obtain ⟨size, _, rfl⟩ := Outcome.map_eq_ok_iff.mp made
  cases eq
  exact ⟨rfl, _, rfl⟩

/-- With the digits of an exponent the number is a double. -/
lemma readShift_cases (shape : SomeDigits digits) (stopped : Stopped rest)
    (read : readShift negative down significand power (digits ++ rest) = .ok (number, left)) :
    left = rest ∧ Inexact number := by
  obtain ⟨nonempty, all⟩ := shape
  obtain ⟨c, digits, rfl⟩ := List.exists_cons_of_ne_nil nonempty
  obtain ⟨digit, all⟩ := List.forall_mem_cons.mp all
  rw [List.cons_append, readShift, digit?_of_isDigit digit] at read
  dsimp only at read
  obtain ⟨spare, rest_eq, digits_spare, _⟩ :=
    exists_appendDigits all stopped maxExponent (c.toNat - '0'.toNat) 0
  rw [rest_eq, countDigits_append digits_spare stopped, skipDigits_append digits_spare stopped] at read
  split at read
  case isTrue none =>
    obtain ⟨rfl, inexact⟩ := inexact_of_ofParts read
    rw [List.length_eq_zero_iff.mp none]
    exact ⟨rfl, inexact⟩
  case isFalse =>
    split at read
    case isTrue =>
      cases read
      exact ⟨rfl, _, rfl⟩
    case isFalse => cases read

/-- A digit is no sign. -/
lemma readExponent_of_digits (shape : SomeDigits digits) :
    readExponent negative significand power (digits ++ rest)
      = readShift negative false significand power (digits ++ rest) := by
  obtain ⟨nonempty, all⟩ := shape
  obtain ⟨c, digits, rfl⟩ := List.exists_cons_of_ne_nil nonempty
  have digit : c.isDigit := all c (List.mem_cons_self ..)
  unfold readExponent
  split
  case h_1 eq =>
    cases (List.cons.inj eq).1
    cases digit
  case h_2 eq =>
    cases (List.cons.inj eq).1
    cases digit
  case h_3 => rfl

/-- With an exponent the number is a double. -/
lemma readExponent_cases {sign : List Char} (shape : Sign sign) (shape' : SomeDigits digits)
    (stopped : Stopped rest)
    (read : readExponent negative significand power (sign ++ digits ++ rest)
      = .ok (number, left)) :
    left = rest ∧ Inexact number := by
  cases shape with
  | absent =>
    rw [List.nil_append, readExponent_of_digits shape'] at read
    exact readShift_cases shape' stopped read
  | plus => exact readShift_cases shape' stopped read
  | minus => exact readShift_cases shape' stopped read

/-- Without an exponent the number ends after the fraction. -/
lemma readMark_of_ended (ended : Ended rest) :
    readMark negative significand power rest
      = (ofParts negative significand power).map (·, rest) := by
  unfold readMark
  split
  case h_1 => exact absurd rfl (ended 'e' rfl).2.2.1
  case h_2 => exact absurd rfl (ended 'E' rfl).2.2.2
  case h_3 => rfl

/-- Behind a fraction the number is a double, with an exponent or without. -/
lemma readMark_cases (shape : Exponent exponent) (ended : Ended rest)
    (read : readMark negative significand power (exponent ++ rest) = .ok (number, left)) :
    left = rest ∧ Inexact number := by
  cases shape with
  | absent =>
    rw [List.nil_append, readMark_of_ended ended] at read
    exact inexact_of_ofParts read
  | lower sign digits => exact readExponent_cases sign digits ended.stopped read
  | upper sign digits => exact readExponent_cases sign digits ended.stopped read

/-- With a fraction the number is a double. -/
lemma readFraction_cases (shape : SomeDigits digits) (shape' : Exponent exponent)
    (ended : Ended rest)
    (read : readFraction negative significand power (digits ++ (exponent ++ rest))
      = .ok (number, left)) :
    left = rest ∧ Inexact number := by
  have stopped := shape'.stopped ended
  obtain ⟨spare, rest_eq, digits_spare, _⟩ :=
    exists_appendDigits shape.2 stopped maxSignificand significand 0
  rw [readFraction] at read
  split at read
  case isTrue => split at read <;> cases read
  case isFalse =>
    rw [rest_eq, skipDigits_append digits_spare stopped] at read
    exact readMark_cases shape' ended read

/-- A fraction or an exponent, or digits that did not fit, make a number inexact. -/
lemma readTail_cases (shape : Fraction fraction) (shape' : Exponent exponent) (ended : Ended rest)
    (read : readTail negative significand excess (fraction ++ (exponent ++ rest))
      = .ok (number, left)) :
    left = rest ∧ (Inexact number ∨
      fraction = [] ∧ exponent = [] ∧ excess = 0 ∧ number = ofInteger negative significand) := by
  cases shape with
  | present digits =>
    obtain ⟨rfl, inexact⟩ := readFraction_cases digits shape' ended read
    exact ⟨rfl, .inl inexact⟩
  | absent =>
    cases shape' with
    | absent =>
      rw [List.nil_append, List.nil_append, readTail_of_ended ended] at read
      split at read
      case isTrue none =>
        cases read
        exact ⟨rfl, .inr ⟨rfl, rfl, none, rfl⟩⟩
      case isFalse =>
        obtain ⟨rfl, inexact⟩ := inexact_of_ofParts read
        exact ⟨rfl, .inl inexact⟩
    | lower sign digits =>
      obtain ⟨rfl, inexact⟩ := readExponent_cases sign digits ended.stopped read
      exact ⟨rfl, .inl inexact⟩
    | upper sign digits =>
      obtain ⟨rfl, inexact⟩ := readExponent_cases sign digits ended.stopped read
      exact ⟨rfl, .inl inexact⟩

/-- Digits that do not fit the significand make the number inexact as well. -/
lemma readUnsigned_cases (plain : Plain whole) (shape : Fraction fraction)
    (shape' : Exponent exponent) (ended : Ended rest)
    (read : readUnsigned negative (whole ++ (fraction ++ (exponent ++ rest))) = .ok (number, left)) :
    left = rest ∧ (Inexact number ∨ fraction = [] ∧ exponent = [] ∧
      number = ofInteger negative (Nat.ofDigitChars 10 whole 0)) := by
  have stopped := shape.stopped shape' ended
  obtain ⟨nonempty, all, leading⟩ := plain
  obtain ⟨c, digits, rfl⟩ := List.exists_cons_of_ne_nil nonempty
  obtain ⟨digit, all⟩ := List.forall_mem_cons.mp all
  by_cases zero : c = '0'
  · cases leading (congrArg some zero)
    have none := countDigits_of_stopped stopped
    have value : digit? '0' = some 0 := rfl
    rw [List.cons_append, List.nil_append, readUnsigned, value] at read
    dsimp only at read
    rw [if_pos none] at read
    obtain ⟨rest_eq, inexact | ⟨no_fraction, no_exponent, _, number_eq⟩⟩ :=
      readTail_cases shape shape' ended read
    · exact ⟨rest_eq, .inl inexact⟩
    · exact ⟨rest_eq, .inr ⟨no_fraction, no_exponent, number_eq⟩⟩
  · obtain ⟨spare, spare_eq, digits_spare, value_eq⟩ :=
      exists_appendDigits all stopped maxSignificand (c.toNat - '0'.toNat) 0
    rw [List.cons_append, readUnsigned_of_ne_zero digit zero] at read
    dsimp only at read
    rw [spare_eq, countDigits_append digits_spare stopped, skipDigits_append digits_spare stopped] at read
    obtain ⟨rest_eq, inexact | ⟨no_fraction, no_exponent, none, number_eq⟩⟩ :=
      readTail_cases shape shape' ended read
    · exact ⟨rest_eq, .inl inexact⟩
    · rw [value_eq (List.length_eq_zero_iff.mp none)] at number_eq
      rw [Nat.ofDigitChars_cons, Nat.mul_zero, Nat.zero_add]
      exact ⟨rest_eq, .inr ⟨no_fraction, no_exponent, number_eq⟩⟩

/-- A number ends with its literal. It is an integer from zero on only if the literal has digits and
nothing else, and then the integer is the one that they denote. -/
theorem Literal.read_cases {literal : List Char} (shape : Literal literal) (ended : Ended rest)
    (read : read (literal ++ rest) = .ok (number, left)) :
    left = rest ∧ ∀ value : Int, number = .integer value → 0 ≤ value →
      Plain literal ∧ value = (Nat.ofDigitChars 10 literal 0 : Nat) := by
  cases shape with
  | @unsigned whole _ _ plain fraction exponent =>
    obtain ⟨c, digits, rfl⟩ := List.exists_cons_of_ne_nil plain.nonempty
    have digit : c.isDigit := plain.all c (List.mem_cons_self ..)
    rw [List.append_assoc, List.append_assoc, List.cons_append, read_of_isDigit digit,
      ← List.cons_append] at read
    obtain ⟨rest_eq, ⟨bits, inexact⟩ | ⟨rfl, rfl, exact⟩⟩ :=
      readUnsigned_cases plain fraction exponent ended read
    · refine ⟨rest_eq, fun value integer => ?_⟩
      cases inexact.symm.trans integer
    · refine ⟨rest_eq, fun value integer _ => ?_⟩
      cases exact.symm.trans integer
      rw [List.append_nil, List.append_nil]
      exact ⟨plain, rfl⟩
  | negative plain fraction exponent =>
    rw [List.cons_append, List.append_assoc, List.append_assoc] at read
    obtain ⟨rest_eq, ⟨bits, inexact⟩ | ⟨_, _, exact⟩⟩ :=
      readUnsigned_cases plain fraction exponent ended read
    · refine ⟨rest_eq, fun value integer => ?_⟩
      cases inexact.symm.trans integer
    · refine ⟨rest_eq, fun value integer nonneg => ?_⟩
      -- what has a sign is an integer only below zero
      rw [exact, ofInteger, if_pos rfl] at integer
      split at integer
      case isTrue positive =>
        cases integer
        omega
      case isFalse => cases integer

/-- Plain digits are a literal. -/
lemma Plain.literal {digits : List Char} (plain : Plain digits) : Literal digits := by
  have literal := Literal.unsigned plain .absent .absent
  rwa [List.append_nil, List.append_nil] at literal

/-- The literals of whole numbers are those that have digits only. -/
lemma Literal.plain_iff {literal : List Char} (shape : Literal literal) :
    Plain literal ↔ ∀ c ∈ literal, c.isDigit := by
  refine ⟨Plain.all, fun all => ?_⟩
  have other : ∀ {c : Char}, c.isDigit = false → c ∉ literal :=
    fun not mem => Bool.false_ne_true (not.symm.trans (all _ mem))
  cases shape with
  | negative => exact absurd (List.mem_cons_self ..) (other (c := '-') rfl)
  | unsigned plain fraction exponent =>
    cases fraction with
    | present => exact absurd (by simp) (other (c := '.') rfl)
    | absent =>
      cases exponent with
      | lower => exact absurd (by simp) (other (c := 'e') rfl)
      | upper => exact absurd (by simp) (other (c := 'E') rfl)
      | absent => rwa [List.append_nil, List.append_nil]

end

/-! ### Passing over -/

section
variable {digits fraction exponent whole rest : List Char}

/-- Digits are passed over as far as they go. -/
lemma skipSomeDigits_append (shape : SomeDigits digits) (stopped : Stopped rest) :
    skipSomeDigits (digits ++ rest) = .ok rest := by
  obtain ⟨nonempty, all⟩ := shape
  obtain ⟨c, digits, rfl⟩ := List.exists_cons_of_ne_nil nonempty
  obtain ⟨digit, all⟩ := List.forall_mem_cons.mp all
  rw [List.cons_append, skipSomeDigits, if_pos (isSome_digit?_of_isDigit digit),
    skipDigits_append all stopped]

/-- The sign and the digits of an exponent are passed over. -/
lemma skipExponent_append {sign : List Char} (shape : Sign sign) (shape' : SomeDigits digits)
    (stopped : Stopped rest) : skipExponent (sign ++ digits ++ rest) = .ok rest := by
  cases shape with
  | absent =>
    obtain ⟨nonempty, all⟩ := shape'
    obtain ⟨c, digits, rfl⟩ := List.exists_cons_of_ne_nil nonempty
    have digit : c.isDigit := all c (List.mem_cons_self ..)
    unfold skipExponent
    split
    case h_1 eq =>
      cases (List.cons.inj eq).1
      cases digit
    case h_2 eq =>
      cases (List.cons.inj eq).1
      cases digit
    case h_3 => exact skipSomeDigits_append ⟨nonempty, all⟩ stopped
  | plus => exact skipSomeDigits_append shape' stopped
  | minus => exact skipSomeDigits_append shape' stopped

/-- An exponent is passed over, if there is one. -/
lemma skipMark_append (shape : Exponent exponent) (ended : Ended rest) :
    skipMark (exponent ++ rest) = .ok rest := by
  cases shape with
  | absent =>
    rw [List.nil_append]
    unfold skipMark
    split
    case h_1 => exact absurd rfl (ended 'e' rfl).2.2.1
    case h_2 => exact absurd rfl (ended 'E' rfl).2.2.2
    case h_3 => rfl
  | lower sign digits => exact skipExponent_append sign digits ended.stopped
  | upper sign digits => exact skipExponent_append sign digits ended.stopped

/-- A fraction and an exponent are passed over, as far as there are. -/
lemma skipTail_append (shape : Fraction fraction) (shape' : Exponent exponent)
    (ended : Ended rest) : skipTail (fraction ++ (exponent ++ rest)) = .ok rest := by
  have mark := skipMark_append shape' ended
  cases shape with
  | present digits =>
    rw [List.cons_append, skipTail, skipSomeDigits_append digits (shape'.stopped ended)]
    exact mark
  | absent =>
    rw [List.nil_append]
    unfold skipTail
    split
    case h_1 eq =>
      -- no exponent starts with a point, nor does what ends a number
      cases shape' with
      | absent =>
        rw [List.nil_append] at eq
        exact absurd rfl (ended '.' (eq ▸ rfl)).2.1
      | lower => cases (List.cons.inj eq).1
      | upper => cases (List.cons.inj eq).1
    case h_2 => exact mark

/-- A literal without its sign is passed over. -/
lemma skipUnsigned_append (plain : Plain whole) (shape : Fraction fraction)
    (shape' : Exponent exponent) (ended : Ended rest) :
    skipUnsigned (whole ++ (fraction ++ (exponent ++ rest))) = .ok rest := by
  have stopped := shape.stopped shape' ended
  have tail := skipTail_append shape shape' ended
  obtain ⟨nonempty, all, leading⟩ := plain
  obtain ⟨c, digits, rfl⟩ := List.exists_cons_of_ne_nil nonempty
  obtain ⟨digit, all⟩ := List.forall_mem_cons.mp all
  have skipped := skipDigits_append all stopped
  generalize fraction ++ (exponent ++ rest) = left at stopped tail skipped
  rw [List.cons_append, skipUnsigned.eq_def]
  dsimp only
  rw [digit?_of_isDigit digit]
  split
  case h_1 eq => cases eq
  case h_2 eq =>
    have zero : c = '0' := eq_zero_of_digit digit (Option.some.inj eq)
    cases leading (congrArg some zero)
    cases left with
    | nil =>
      cases tail
      rfl
    | cons d left =>
      dsimp only [List.nil_append]
      rw [stopped d rfl]
      exact tail
  case h_3 =>
    rw [skipped]
    exact tail

end

end CoinAddress.Json.Numeral
