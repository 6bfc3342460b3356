import CoinAddress.Base58.Check
import CoinAddress.Proofs.Base58.RoundTrip

/-!
# Base58Check text

The checksum is taken off where it was put on, so that reading undoes writing and accepts nothing
else (`decodeCheck_eq_ok_iff`). Of the checksum it matters only that it has four bytes.
-/

namespace CoinAddress.Base58

/-- The four bytes of a vector. -/
lemma exists_bytes (check : Vector UInt8 4) : ∃ a b c d, check = #v[a, b, c, d] := by
  obtain ⟨⟨bytes⟩, length⟩ := check
  match bytes, length with
  | [a, b, c, d], _ => exact ⟨a, b, c, d, rfl⟩

/-- Five bytes or more are a body and four bytes behind it. -/
lemma exists_eq_append {bytes : Bytes} (long : 5 ≤ bytes.length) :
    ∃ (v : Versioned) (found : Vector UInt8 4), bytes = v.body ++ found.toList := by
  let cut := bytes.length - 4
  have tail : (bytes.drop cut).length = 4 := by
    rw [List.length_drop]
    omega
  have body : 0 < (bytes.take cut).length := by
    rw [List.length_take]
    omega
  obtain ⟨version, payload, eq⟩ := List.exists_cons_of_length_pos body
  refine ⟨⟨version, payload⟩, ⟨(bytes.drop cut).toArray, tail⟩, ?_⟩
  show bytes = version :: payload ++ bytes.drop cut
  rw [← eq, List.take_append_drop]

/-- A body with four bytes behind it is split there, and these have to be its checksum. -/
lemma splitCheck_append (v : Versioned) (found : Vector UInt8 4) :
    splitCheck (v.body ++ found.toList) =
      if found = Digest.checksum v.body then .ok v
      else .error (.checksumMismatch (Digest.checksum v.body) found) := by
  -- the pattern of the split needs the four bytes, not the vector
  obtain ⟨a, b, c, d, rfl⟩ := exists_bytes found
  have cut : (v.body ++ [a, b, c, d]).length - 4 = v.body.length := by
    rw [List.length_append]
    rfl
  show splitCheck (v.body ++ [a, b, c, d]) = _
  rw [splitCheck, cut, List.take_left, List.drop_left]
  rfl

/-- Fewer than five bytes are too short to be split. -/
lemma splitCheck_of_lt {bytes : Bytes} (short : bytes.length < 5) :
    splitCheck bytes = .error (.tooShort bytes.length) := by
  rw [splitCheck]
  split
  case h_1 version payload a b c d body check =>
    have front := congrArg List.length body
    have back := congrArg List.length check
    rw [List.length_take, List.length_cons] at front
    rw [List.length_drop] at back
    simp only [List.length_cons, List.length_nil] at back
    omega
  case h_2 => rfl

/-- What is split is a body with its checksum. -/
lemma eq_append_of_splitCheck {bytes : Bytes} {v : Versioned} (eq : splitCheck bytes = .ok v) :
    v.body ++ (Digest.checksum v.body).toList = bytes := by
  rcases Nat.lt_or_ge bytes.length 5 with short | long
  · rw [splitCheck_of_lt short] at eq
    cases eq
  · obtain ⟨v', found, rfl⟩ := exists_eq_append long
    rw [splitCheck_append] at eq
    split at eq
    case isTrue found =>
      cases eq
      rw [found]
    case isFalse => cases eq

/-- A text is read as a version and a payload exactly if it is their text. -/
theorem decodeCheck_eq_ok_iff {text : String} {v : Versioned} :
    decodeCheck text = .ok v ↔ encodeCheck v = text := by
  rw [decodeCheck, Outcome.bind_eq_ok_iff]
  constructor
  · rintro ⟨bytes, read, split⟩
    rw [encodeCheck, eq_append_of_splitCheck split]
    exact decode_eq_ok_iff.mp read
  · rintro rfl
    exact ⟨_, decode_encode _, (splitCheck_append v _).trans (if_pos rfl)⟩

end CoinAddress.Base58
