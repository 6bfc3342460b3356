import CoinAddress.Proofs.Base58.Check
import Mathlib.Data.Nat.PSub

/-!
# Verdicts on Base58Check text

Every text has one of four verdicts (`Verdict`): a stray character comes first, then a lack of bytes,
then a wrong checksum, and only then a version and a payload. Reading a text answers its verdict and
nothing else, and no access to the bytes goes out of bounds on the way (`decodeCheck_iff_verdict`).
-/

namespace CoinAddress.Base58

/-- What there is to say of a text. -/
inductive Verdict (text : String) : Except Error Versioned → Prop where
  | stray {c : Char} {before after : List Char} :
    text.toList = before ++ c :: after →
    (∀ other ∈ before, other ∈ alphabet.toList) →
    c ∉ alphabet.toList →
    Verdict text (.error (.strayCharacter c before.length))
  | short {bytes : Bytes} :
    decode text = .ok bytes →
    bytes.length < 5 →
    Verdict text (.error (.tooShort bytes.length))
  | mismatch {v : Versioned} {found : Vector UInt8 4} :
    decode text = .ok (v.body ++ found.toList) →
    found ≠ Digest.checksum v.body →
    Verdict text (.error (.checksumMismatch (Digest.checksum v.body) found))
  | intact {v : Versioned} :
    decode text = .ok (v.body ++ (Digest.checksum v.body).toList) →
    Verdict text (.ok v)

section
variable {text : String}

/-- Reading stops at the first character outside the alphabet, whatever follows it. -/
lemma readDigits_stray {c : Char} {before : List Char} (after : List Char) (position : Nat)
    (regular : ∀ other ∈ before, other ∈ alphabet.toList) (stray : c ∉ alphabet.toList) :
    readDigits position (before ++ c :: after)
      = .error (.strayCharacter c (position + before.length)) := by
  induction before generalizing position with
  | nil =>
    have none : digit? c = none := by
      rw [← Option.not_isSome_iff_eq_none, isSome_digit?_iff]
      exact stray
    rw [List.nil_append, readDigits, none]
    rfl
  | cons first before ih =>
    obtain ⟨mem, regular⟩ := List.forall_mem_cons.mp regular
    obtain ⟨digit, found⟩ := Option.isSome_iff_exists.mp (isSome_digit?_iff.mpr mem)
    rw [List.cons_append, readDigits, found, ih (position + 1) regular, List.length_cons,
      Nat.add_assoc, Nat.add_comm 1]
    rfl

/-- A stray character is reported with its position before anything else is looked at. -/
lemma decodeCheck_of_stray {c : Char} {before after : List Char}
    (split : text.toList = before ++ c :: after)
    (regular : ∀ other ∈ before, other ∈ alphabet.toList) (stray : c ∉ alphabet.toList) :
    decodeCheck text = .error (.strayCharacter c before.length) := by
  rw [decodeCheck, decode_eq_map_readDigits, split, readDigits_stray after 0 regular stray,
    Nat.zero_add]
  rfl

/-- A text that spells bytes is judged by them alone. -/
lemma decodeCheck_of_decode {bytes : Bytes} (read : decode text = .ok bytes) :
    decodeCheck text = splitCheck bytes := by
  rw [decodeCheck, read]
  rfl

/-- What is read of a text is a verdict on it. -/
lemma verdict_decodeCheck (text : String) : Verdict text (decodeCheck text) := by
  cases search : text.toList.find? (· ∉ alphabet.toList) with
  | some c =>
    obtain ⟨stray, before, after, split, regular⟩ := List.find?_eq_some_iff_append.mp search
    simp only [decide_eq_true_eq, Bool.not_eq_true', decide_eq_false_iff_not, not_not]
      at stray regular
    rw [decodeCheck_of_stray split regular stray]
    exact .stray split regular stray
  | none =>
    have regular : ∀ c ∈ text.toList, c ∈ alphabet.toList := by
      simpa using search
    obtain ⟨bytes, read⟩ := exists_decode regular
    rw [decodeCheck_of_decode read]
    rcases Nat.lt_or_ge bytes.length 5 with short | long
    · rw [splitCheck_of_lt short]
      exact .short read short
    · obtain ⟨v, found, rfl⟩ := exists_eq_append long
      rw [splitCheck_append]
      split
      case isTrue eq =>
        rw [eq] at read
        exact .intact read
      case isFalse ne => exact .mismatch read ne

/-- There is no other verdict on a text than what is read of it. -/
lemma Verdict.decodeCheck_eq {outcome : Except Error Versioned} (verdict : Verdict text outcome) :
    decodeCheck text = outcome := by
  cases verdict with
  | stray split regular stray => exact decodeCheck_of_stray split regular stray
  | short read short => rw [decodeCheck_of_decode read, splitCheck_of_lt short]
  | mismatch read ne => rw [decodeCheck_of_decode read, splitCheck_append, if_neg ne]
  | intact read => rw [decodeCheck_of_decode read, splitCheck_append, if_pos rfl]

end

/-- The bytes from one position to another, if both are positions of the byte string in this order. -/
def slice? (bytes : Bytes) (start stop : Nat) : Option Bytes :=
  if start ≤ stop ∧ stop ≤ bytes.length then some ((bytes.take stop).drop start) else none

/-- The bytes as a checksum, if there are four of them. -/
def four? (bytes : Bytes) : Option (Vector UInt8 4) :=
  if h : bytes.length = 4 then some ⟨bytes.toArray, h⟩ else none

/-- Takes the checksum off with every access bounded. It gives nothing if one is out of bounds. -/
def splitBounded (bytes : Bytes) : Option (Except Error Versioned) :=
  if bytes.length < 5 then return .error (.tooShort bytes.length)
  else do
    let cut ← bytes.length.psub 4
    let found ← slice? bytes cut bytes.length >>= four?
    let body ← slice? bytes 0 cut
    let expected := Digest.checksum body
    if found ≠ expected then return .error (.checksumMismatch expected found)
    else
      match body with
      | version :: payload => return .ok ⟨version, payload⟩
      | [] => none

/-- Four bytes in a list are taken as they are. -/
lemma four?_toList (four : Vector UInt8 4) : four? four.toList = some four :=
  dif_pos four.length_toList

/-- Every access of the split is within bounds. -/
lemma splitBounded_eq (bytes : Bytes) : splitBounded bytes = some (splitCheck bytes) := by
  rcases Nat.lt_or_ge bytes.length 5 with short | long
  · rw [splitBounded, if_pos short, splitCheck_of_lt short]
    rfl
  · rw [splitBounded, if_neg (Nat.not_lt.mpr long)]
    obtain ⟨v, found, rfl⟩ := exists_eq_append long
    have length : (v.body ++ found.toList).length = v.body.length + 4 := by
      rw [List.length_append, Vector.length_toList]
    have cut : (v.body ++ found.toList).length.psub 4 = some v.body.length := by
      rw [length]
      exact Nat.psub_eq_sub (Nat.le_add_left ..)
    have tail : slice? (v.body ++ found.toList) v.body.length (v.body ++ found.toList).length
        = some found.toList := by
      rw [slice?, if_pos ⟨by omega, le_rfl⟩, List.take_length, List.drop_left]
    have front : slice? (v.body ++ found.toList) 0 v.body.length = some v.body := by
      rw [slice?, if_pos ⟨Nat.zero_le _, by omega⟩, List.take_left, List.drop_zero]
    rw [splitCheck_append]
    simp only [cut, tail, front, four?_toList, bind, Option.bind]
    by_cases same : found = Digest.checksum v.body
    · rw [if_neg (not_not.mpr same), if_pos same]
      rfl
    · rw [if_pos same, if_neg same]
      rfl

/-- A text is read as its verdict says, it is read as a version and a payload exactly if it is their
text, and taking the checksum off accesses no byte that is not there. -/
theorem decodeCheck_iff_verdict :
    (∀ text outcome, decodeCheck text = outcome ↔ Verdict text outcome) ∧
    (∀ text v, decodeCheck text = .ok v ↔ text = encodeCheck v) ∧
    (∀ bytes, splitBounded bytes = some (splitCheck bytes)) := by
  refine ⟨?_, ?_, splitBounded_eq⟩
  · intro text outcome
    constructor
    · rintro rfl
      exact verdict_decodeCheck text
    · exact Verdict.decodeCheck_eq
  · intro text v
    rw [decodeCheck_eq_ok_iff]
    exact eq_comm

/-- A stray character is reported even if the text is too short. -/
example : decodeCheck "1O1" = .error (.strayCharacter 'O' 1) := by decide

end CoinAddress.Base58
