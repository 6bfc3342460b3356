import CoinAddress.Proofs.Address.Canonical
import CoinAddress.Proofs.Base58.Positional

/-!
# How address texts begin

The version is the highest of the twenty-five bytes that an address text spells. For some versions it
settles alone which Base58 digit leads, and at which place (`Settles`), so that all texts with the
version begin with one character and have one length. The versions of the built-in networks are among
them (`marked_builtins`).
-/

namespace CoinAddress

namespace Base58
open Conversion (Leads number)

/-- With so many bytes behind it the byte settles which Base58 digit leads, and at which place. -/
structure Settles (byte : UInt8) (behind : Nat) (digit : UInt8) (count : Nat) : Prop where
  positive : 0 < digit.toNat
  below : digit.toNat < 58
  lower : digit.toNat * 58 ^ count ≤ byte.toNat * 256 ^ behind
  upper : (byte.toNat + 1) * 256 ^ behind ≤ (digit.toNat + 1) * 58 ^ count

/-- The text has so many characters, and the first of them is given. -/
structure Shaped (text : String) (first : Char) (length : Nat) : Prop where
  length_eq : text.length = length
  head?_eq : text.toList.head? = some first

section
variable {byte digit : UInt8} {rest : Bytes} {count : Nat}

/-- A first byte that settles the first digit makes the number lead with it, whatever follows. -/
lemma Settles.leads (settles : Settles byte rest.length digit count) :
    Leads 58 (number 256 (byte :: rest)) digit.toNat count := by
  have below : ∀ other ∈ rest, other.toNat < 256 := fun other _ => other.toNat_lt
  obtain ⟨lower, upper⟩ := Conversion.number_cons_bounds (by decide) byte below
  exact ⟨settles.positive, settles.below, le_trans settles.lower lower,
    lt_of_lt_of_le upper settles.upper⟩

/-- A byte that settles a digit is not zero, since a number that leads with a digit is positive. -/
lemma Settles.byte_ne_zero {behind : Nat} (settles : Settles byte behind digit count) :
    byte ≠ 0 := by
  rintro rfl
  have lower := settles.lower
  rw [UInt8.toNat_zero, Nat.zero_mul] at lower
  have positive : 0 < digit.toNat * 58 ^ count :=
    Nat.mul_pos settles.positive (Nat.pow_pos (by decide))
  exact absurd lower (Nat.not_le.mpr positive)

/-- Where the first byte settles the first digit, all such bytes have texts of one shape. -/
lemma Settles.shaped (settles : Settles byte rest.length digit count) :
    Shaped (encode (byte :: rest)) (symbol digit) (count + 1) := by
  obtain ⟨digits, numeral, eq⟩ := encode_eq_iff_numeral.mp (Eq.refl (encode (byte :: rest)))
  obtain ⟨others, rfl, length⟩ := settles.leads.exists_eq_cons (by decide) numeral
  have text : encode (byte :: rest) = String.ofList ((digit :: others).map symbol) := by
    rw [eq, List.takeWhile_cons_of_neg (by simpa using settles.byte_ne_zero)]
    rfl
  refine ⟨?_, ?_⟩
  · rw [text, String.length_ofList, List.length_map, List.length_cons, length]
  · rw [text, String.toList_ofList]
    rfl

end

end Base58

namespace Address
open Base58 (Settles Shaped)

/-- Whatever the checksum, the text of the address is shaped so. -/
structure Marked (address : Address) (first : Char) (length : Nat) : Prop where
  shaped_toText : Shaped address.toText first length
  any_checksum : ∀ check : Vector UInt8 4,
    Shaped (Base58.encode (address.toBytes ++ check.toList)) first length

/-- Where the version settles the first digit, it does so for every hash. -/
lemma marked_of_settles {version digit : UInt8} {count : Nat}
    (settles : Settles version 24 digit count) (hash : Vector UInt8 20) :
    Marked ⟨version, hash⟩ (Base58.symbol digit) (count + 1) := by
  have any : ∀ check : Vector UInt8 4,
      Shaped (Base58.encode (version :: (hash.toList ++ check.toList)))
        (Base58.symbol digit) (count + 1) := by
    intro check
    have length : (hash.toList ++ check.toList).length = 24 := by
      rw [List.length_append, Vector.length_toList, Vector.length_toList]
    rw [← length] at settles
    exact settles.shaped
  exact ⟨any (Digest.checksum (version :: hash.toList)), any⟩

/-- Every address text of a built-in network has the length and the first character of its kind. -/
theorem marked_builtins (hash : Vector UInt8 20) :
    Marked (ofKeyHash .mainnet hash) 'F' 34 ∧ Marked (ofScriptHash .mainnet hash) '4' 34 ∧
    Marked (ofKeyHash .testnet hash) 'o' 34 ∧ Marked (ofScriptHash .testnet hash) '2' 35 := by
  have mainKey : Settles 0x23 24 14 33 := ⟨by decide, by decide, by decide, by decide⟩
  have mainScript : Settles 0x08 24 3 33 := ⟨by decide, by decide, by decide, by decide⟩
  have testKey : Settles 0x73 24 46 33 := ⟨by decide, by decide, by decide, by decide⟩
  have testScript : Settles 0xc6 24 1 34 := ⟨by decide, by decide, by decide, by decide⟩
  exact ⟨marked_of_settles mainKey hash, marked_of_settles mainScript hash,
    marked_of_settles testKey hash, marked_of_settles testScript hash⟩

end Address

end CoinAddress
