import CoinAddress.Proofs.Address.Leading
import CoinAddress.Proofs.Base58.Order

/-!
# The order of addresses

An address is the same as its twenty-one bytes, and addresses are ordered as these. Their texts are in
the same order as long as they have the same number of characters (`compare_eq_compare_toText`).
-/

namespace CoinAddress.Address

/-- The address of bytes has just these bytes. -/
lemma ofBytes_eq_ok_iff {bytes : Bytes} {address : Address} :
    ofBytes bytes = .ok address ↔ address.toBytes = bytes := by
  obtain ⟨version, hash⟩ := address
  cases bytes with
  | nil => exact iff_of_false nofun nofun
  | cons first rest =>
    rw [ofBytes, toBytes, List.cons.injEq, ← hash?_eq_some_iff]
    cases hash? rest with
    | none => exact iff_of_false nofun (fun eq => nomatch eq.2)
    | some found => rw [Except.ok.injEq, mk.injEq, Option.some.injEq, eq_comm (a := first)]

/-- An address takes twenty-one bytes. -/
lemma length_toBytes (address : Address) : address.toBytes.length = 21 := by
  rw [toBytes, List.length_cons, Vector.length_toList]

/-- Bytes are refused for their number only. -/
lemma ofBytes_eq_error_iff {bytes : Bytes} {error : BuildError} :
    ofBytes bytes = .error error ↔ bytes.length ≠ 21 ∧ error = .bytesLength bytes.length := by
  cases bytes with
  | nil =>
    constructor
    · intro eq
      exact ⟨by decide, (Except.error.inj eq).symm⟩
    · rintro ⟨_, rfl⟩
      rfl
  | cons first rest =>
    rw [ofBytes, List.length_cons, ne_eq, Nat.succ_inj]
    by_cases length : rest.length = 20
    · rw [hash?, dif_pos length]
      constructor
      · intro eq
        cases eq
      · rintro ⟨other, _⟩
        exact absurd length other
    · rw [hash?, dif_neg length]
      constructor
      · intro eq
        exact ⟨length, (Except.error.inj eq).symm⟩
      · rintro ⟨_, rfl⟩
        rfl

/-- The comparison of byte strings place by place is that of the lexicographic order. -/
lemma compare_eq_compareOfLessAndEq (xs ys : Bytes) :
    List.compareLex compare xs ys = compareOfLessAndEq xs ys := by
  induction xs generalizing ys with
  | nil => cases ys <;> rfl
  | cons x xs ih =>
    cases ys with
    | nil => rfl
    | cons y ys =>
      rw [List.compareLex_cons_cons, ih]
      change (compareOfLessAndEq x y).then _ = _
      simp only [compareOfLessAndEq, List.cons_lt_cons_iff, List.cons.injEq]
      rcases Std.lt_trichotomy x y with less | rfl | more
      · simp only [less, true_or, if_true, Ordering.lt_then]
      · simp only [UInt8.lt_irrefl, false_or, true_and, if_false, if_true, Ordering.eq_then]
      · have asymm := UInt8.lt_asymm more
        have ne : x ≠ y := fun eq => UInt8.lt_irrefl y (eq ▸ more)
        simp only [asymm, ne, false_and, or_false, if_false, Ordering.gt_then]

/-- Of lists that go on after parts of the same length, these parts decide unless they are equal. -/
lemma append_lt_append_iff {xs ys us vs : Bytes} (length : xs.length = ys.length) :
    xs ++ us < ys ++ vs ↔ xs < ys ∨ xs = ys ∧ us < vs := by
  induction xs generalizing ys with
  | nil =>
    cases List.length_eq_zero_iff.mp length.symm
    simp only [List.nil_append, List.lt_irrefl, false_or, true_and]
  | cons x xs ih =>
    cases ys with
    | nil => cases length
    | cons y ys =>
      rw [List.cons_append, List.cons_append, List.cons_lt_cons_iff, List.cons_lt_cons_iff,
        ih (Nat.succ.inj length), List.cons.injEq]
      rw [and_or_left, or_assoc, and_assoc]

/-- Texts of the same length are ordered as the bytes of their addresses. -/
lemma toText_lt_iff {a b : Address} (length : a.toText.toList.length = b.toText.toList.length) :
    a.toText.toList < b.toText.toList ↔ a.toBytes < b.toBytes := by
  have same : a.toBytes.length = b.toBytes.length := by rw [length_toBytes, length_toBytes]
  have same' : (a.toBytes ++ (Digest.checksum a.toBytes).toList).length
      = (b.toBytes ++ (Digest.checksum b.toBytes).toList).length := by
    rw [List.length_append, List.length_append, same, Vector.length_toList, Vector.length_toList]
  calc a.toText.toList < b.toText.toList
      ↔ a.toBytes ++ (Digest.checksum a.toBytes).toList
          < b.toBytes ++ (Digest.checksum b.toBytes).toList :=
        Base58.encode_lt_encode_iff same' length
    _ ↔ a.toBytes < b.toBytes := by
        -- the checksums could only tell apart what has the same checksum
        rw [append_lt_append_iff same, or_iff_left]
        rintro ⟨eq, less⟩
        rw [eq] at less
        exact List.lt_irrefl _ less

/-- Different addresses have different bytes. -/
lemma toBytes_injective : Function.Injective toBytes := by
  intro a b eq
  have made : ofBytes a.toBytes = .ok a := ofBytes_eq_ok_iff.mpr rfl
  rw [eq, ofBytes_eq_ok_iff.mpr rfl] at made
  exact (Except.ok.inj made).symm

/-- Twenty-one bytes make an address, which has just these bytes, and bytes of any other number are
refused for it. Addresses are compared as their bytes in the lexicographic order, and also as their
texts whenever these have the same number of characters. -/
theorem compare_eq_compare_toText :
    (∀ address : Address, address.toBytes.length = 21) ∧
    (∀ bytes address, ofBytes bytes = .ok address ↔ address.toBytes = bytes) ∧
    (∀ bytes error, ofBytes bytes = .error error
      ↔ bytes.length ≠ 21 ∧ error = .bytesLength bytes.length) ∧
    (∀ a b : Address, compare a b = compareOfLessAndEq a.toBytes b.toBytes) ∧
    (∀ a b : Address, a.toText.length = b.toText.length →
      compare a b = compareOfLessAndEq a.toText.toList b.toText.toList) := by
  have bytes : ∀ a b : Address, compare a b = compareOfLessAndEq a.toBytes b.toBytes := by
    intro a b
    rw [← compare_eq_compareOfLessAndEq, toBytes, toBytes, List.compareLex_cons_cons]
    rfl
  refine ⟨length_toBytes, fun _ _ => ofBytes_eq_ok_iff, fun _ _ => ofBytes_eq_error_iff, bytes, ?_⟩
  intro a b length
  rw [← String.length_toList, ← String.length_toList] at length
  have eq_iff : a.toText.toList = b.toText.toList ↔ a.toBytes = b.toBytes := by
    rw [String.toList_inj, toText_injective.eq_iff, toBytes_injective.eq_iff]
  simp only [bytes a b, compareOfLessAndEq, toText_lt_iff length, eq_iff]

/-- The highest address of the version zero, whose text leads with a one. -/
def highestOfZero : Address := ⟨0, Vector.replicate 20 0xff⟩

/-- The lowest address of the version three, whose text leads with no one. -/
def lowestOfThree : Address := ⟨3, Vector.replicate 20 0⟩

/-- Two texts of one length, of which only the first leads with a one, are ordered as their
addresses. -/
theorem compare_eq_compare_toText_unevenly :
    highestOfZero.toText.length = lowestOfThree.toText.length ∧
      compare highestOfZero lowestOfThree
        = compareOfLessAndEq highestOfZero.toText.toList lowestOfThree.toText.toList := by
  have hash : Base58.Settles 0xff 23 23 32 := ⟨by decide, by decide, by decide, by decide⟩
  have version : Base58.Settles 3 24 1 33 := ⟨by decide, by decide, by decide, by decide⟩
  have length : highestOfZero.toText.length = lowestOfThree.toText.length := by
    let rest : Bytes := List.replicate 19 0xff ++ (Digest.checksum highestOfZero.toBytes).toList
    have behind : rest.length = 23 := by
      rw [List.length_append, Vector.length_toList, List.length_replicate]
    rw [← behind] at hash
    have one : highestOfZero.toText.length = (Base58.encode (0xff :: rest)).length + 1 :=
      Base58.length_encode_zero_cons (0xff :: rest)
    rw [one, hash.shaped.length_eq, lowestOfThree,
      (marked_of_settles version _).shaped_toText.length_eq]
  exact ⟨length, compare_eq_compare_toText.2.2.2.2 highestOfZero lowestOfThree length⟩

end CoinAddress.Address
