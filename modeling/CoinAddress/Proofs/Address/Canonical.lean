import CoinAddress.Address.Text
import CoinAddress.Proofs.Base58.Check
import CoinAddress.Proofs.Base58.Length

/-!
# Address text is canonical

An address has one text and a text has at most one address (`parse_none_eq_ok_iff`). The limit on the
length of a text turns no address away, since twenty-five bytes take at most thirty-five characters,
and what it does turn away would be refused in any case (`parse_none_eq_decodeText`).
-/

namespace CoinAddress.Address

/-- The bytes that make a hash are its own. -/
lemma hash?_eq_some_iff {bytes : Bytes} {hash : Vector UInt8 20} :
    hash? bytes = some hash ↔ hash.toList = bytes := by
  rw [hash?]
  constructor
  · intro eq
    split at eq
    case isTrue => cases eq; rfl
    case isFalse => cases eq
  · rintro rfl
    exact dif_pos hash.length_toList

/-- Bytes make the address of a kind that has them as its hash. -/
lemma ofHash_eq_ok_iff {network : Network} {bytes : Bytes} {kind : Kind}
    {address : Address} :
    ofHash network bytes kind = .ok address
      ↔ address.hash.toList = bytes ∧ address.version = network.version kind := by
  rw [ofHash]
  constructor
  · intro eq
    split at eq
    case h_1 hash found =>
      cases eq
      exact ⟨hash?_eq_some_iff.mp found, rfl⟩
    case h_2 => cases eq
  · rintro ⟨rfl, version⟩
    rw [hash?_eq_some_iff.mpr rfl, ← version]

/-- A text of any length is an address exactly if it is the text of the address. -/
lemma decodeText_eq_ok_iff {text : String} {address : Address} :
    decodeText text = .ok address ↔ address.toText = text := by
  rw [decodeText]
  constructor
  · intro eq
    split at eq
    case h_1 => cases eq
    case h_2 decoded read =>
      split at eq
      case h_1 hash found =>
        cases eq
        rw [toText, hash?_eq_some_iff.mp found]
        exact Base58.decodeCheck_eq_ok_iff.mp read
      case h_2 => cases eq
  · intro eq
    have read := Base58.decodeCheck_eq_ok_iff.mpr eq
    have found : hash? address.hash.toList = some address.hash := hash?_eq_some_iff.mpr rfl
    simp only [read, found]

/-- Without the limit, Base58Check text is an address if its payload has twenty bytes. -/
lemma decodeText_eq_bind (text : String) :
    decodeText text = (Base58.decodeCheck text).mapError .text >>= fun decoded =>
      if length : decoded.payload.length = 20
      then .ok ⟨decoded.version, ⟨decoded.payload.toArray, length⟩⟩
      else .error (.payloadLength decoded.payload.length) := by
  rw [decodeText]
  cases Base58.decodeCheck text with
  | error error => rfl
  | ok decoded =>
    dsimp only [Except.mapError, bind, Except.bind]
    rw [hash?]
    by_cases length : decoded.payload.length = 20
    · rw [dif_pos length, dif_pos length]
    · rw [dif_neg length, dif_neg length]

/-- The text of an address is within the limit. -/
lemma utf8ByteSize_toText_le (address : Address) :
    address.toText.utf8ByteSize ≤ maxTextLength := by
  let v : Base58.Versioned := ⟨address.version, address.hash.toList⟩
  have length : (v.body ++ (Digest.checksum v.body).toList).length = 25 := by
    rw [List.length_append, Vector.length_toList, Base58.Versioned.body, List.length_cons,
      Vector.length_toList]
  -- the bound for 25 bytes is the limit itself
  have le := Base58.utf8ByteSize_encode_le (v.body ++ (Digest.checksum v.body).toList)
  rw [length] at le
  exact le

/-- Within the limit a text is read as if there were none. -/
lemma ofText_of_le {text : String} (within : text.utf8ByteSize ≤ maxTextLength) :
    ofText text = decodeText text :=
  if_neg (Nat.not_lt.mpr within)

/-- Beyond the limit a text is refused for its length. -/
lemma ofText_of_lt {text : String} (long : maxTextLength < text.utf8ByteSize) :
    ofText text = .error (.tooLong text.utf8ByteSize) :=
  if_pos long

/-- A text beyond the limit is no address, even if it is read. -/
lemma exists_error_of_lt {text : String} (long : maxTextLength < text.utf8ByteSize) :
    ∃ reason, decodeText text = .error reason := by
  cases read : decodeText text with
  | error reason => exact ⟨reason, rfl⟩
  | ok address =>
    have within := address.utf8ByteSize_toText_le
    rw [decodeText_eq_ok_iff.mp read] at within
    exact absurd long (Nat.not_lt.mpr within)

/-- With the limit a text is an address exactly if it is the text of the address. -/
lemma ofText_eq_ok_iff {text : String} {address : Address} :
    ofText text = .ok address ↔ address.toText = text := by
  rcases Nat.lt_or_ge maxTextLength text.utf8ByteSize with long | within
  · obtain ⟨reason, refused⟩ := exists_error_of_lt long
    rw [ofText_of_lt long, ← decodeText_eq_ok_iff, refused]
    exact ⟨nofun, nofun⟩
  · rw [ofText_of_le within, decodeText_eq_ok_iff]

/-- A text beyond the limit that spells bytes spells more of them than that of an address does. -/
lemma lt_length_of_decode {text : String} {bytes : Bytes}
    (long : maxTextLength < text.utf8ByteSize) (read : Base58.decode text = .ok bytes) :
    25 < bytes.length := by
  have le : text.utf8ByteSize ≤ 138 * bytes.length / 100 + 1 := by
    rw [← Base58.decode_eq_ok_iff.mp read]
    exact Base58.utf8ByteSize_encode_le bytes
  rw [maxTextLength] at long
  omega

/-- Without an expected network parsing only reads the text. -/
lemma parse_none (text : String) : parse none text = (ofText text).mapError .malformed := by
  rw [parse]
  cases ofText text <;> rfl

/-- The text of an address is parsed as the address. -/
lemma parse_toText (address : Address) : parse none address.toText = .ok address := by
  rw [parse_none, Outcome.mapError_eq_ok_iff]
  exact ofText_eq_ok_iff.mpr rfl

/-- With an expected network parsing reads the text and then asks the network. -/
lemma parse_some (network : Network) (text : String) :
    parse (some network) text = parse none text >>= fun address =>
      if network.accepts address.version then .ok address
      else .error (.wrongNetwork address.version network.acceptable) := by
  rw [parse_none, parse]
  cases ofText text <;> rfl

/-- A network takes a text for an address that it accepts. -/
lemma parse_some_eq_ok_iff {network : Network} {text : String} {address : Address} :
    parse (some network) text = .ok address
      ↔ parse none text = .ok address ∧ network.accepts address.version = true := by
  rw [parse_some, Outcome.bind_eq_ok_iff]
  constructor
  · rintro ⟨decoded, read, eq⟩
    split at eq
    case isTrue accepts =>
      cases eq
      exact ⟨read, accepts⟩
    case isFalse => cases eq
  · rintro ⟨read, accepts⟩
    exact ⟨address, read, if_pos accepts⟩

/-- Whatever is expected, a text that is parsed is the text of the address. -/
lemma toText_of_parse {expected : Option Network} {text : String} {address : Address}
    (read : parse expected text = .ok address) : address.toText = text := by
  have read' : parse none text = .ok address := by
    cases expected with
    | none => exact read
    | some network => exact (parse_some_eq_ok_iff.mp read).1
  rw [parse_none, Outcome.mapError_eq_ok_iff] at read'
  exact ofText_eq_ok_iff.mp read'

/-- Different addresses have different texts. -/
lemma toText_injective : Function.Injective toText := by
  intro a b eq
  have read := parse_toText a
  rw [eq, parse_toText] at read
  exact (Except.ok.inj read).symm

/-- Under another version the hash of an address has another text. -/
lemma toText_eq_toText_iff {version : UInt8} {address : Address} :
    toText ⟨version, address.hash⟩ = address.toText ↔ version = address.version := by
  constructor
  · intro eq
    exact congrArg Address.version (toText_injective eq)
  · rintro rfl
    rfl

/-- Reading a text without an expected network complains of no network. -/
lemma parse_none_ne_wrongNetwork {text : String} {version : UInt8} {acceptable : List UInt8} :
    parse none text ≠ .error (.wrongNetwork version acceptable) := by
  rw [parse_none]
  cases ofText text <;> exact nofun

/-- Reading a text without an expected network takes every version. -/
lemma parse_none_ne_unknownVersion {text : String} {version : UInt8} :
    parse none text ≠ .error (.malformed (.unknownVersion version)) := by
  rw [parse_none, ofText]
  intro eq
  split at eq
  case isTrue => cases eq
  case isFalse =>
    rw [decodeText] at eq
    split at eq
    case h_1 => cases eq
    case h_2 => split at eq <;> cases eq

/-- A network that accepts the version of an address takes the text of the address. -/
lemma parse_some_of_accepts {text : String} {address : Address} {network : Network}
    (read : parse none text = .ok address) (accepts : network.accepts address.version = true) :
    parse (some network) text = .ok address :=
  parse_some_eq_ok_iff.mpr ⟨read, accepts⟩

/-- A text is parsed as an address of any network exactly if it is the text of the address. -/
theorem parse_none_eq_ok_iff (text : String) (address : Address) :
    parse none text = .ok address ↔ text = address.toText := by
  rw [parse_none, Outcome.mapError_eq_ok_iff, ofText_eq_ok_iff]
  exact eq_comm

/-- Without the limit a text is read by its checksum and the length of its payload alone. Up to
thirty-five bytes a text is read as if there were no limit. A longer one is refused for its length, and
it would be refused without the limit too: it spells no bytes, or more of them than the text of an
address. So the same texts are read as the same addresses. -/
theorem parse_none_eq_decodeText (text : String) :
    (decodeText text = (Base58.decodeCheck text).mapError .text >>= fun decoded =>
      if length : decoded.payload.length = 20
      then .ok ⟨decoded.version, ⟨decoded.payload.toArray, length⟩⟩
      else .error (.payloadLength decoded.payload.length)) ∧
    (text.utf8ByteSize ≤ 35 → parse none text = (decodeText text).mapError .malformed) ∧
    (35 < text.utf8ByteSize →
      parse none text = .error (.malformed (.tooLong text.utf8ByteSize)) ∧
      (∀ bytes, Base58.decode text = .ok bytes → 25 < bytes.length) ∧
      ∃ reason, decodeText text = .error reason) ∧
    (∀ address, parse none text = .ok address ↔ decodeText text = .ok address) := by
  refine ⟨decodeText_eq_bind text, ?_, ?_, ?_⟩
  · intro within
    rw [parse_none, ofText_of_le within]
  · intro long
    refine ⟨?_, ?_, exists_error_of_lt long⟩
    · rw [parse_none, ofText_of_lt long]
      rfl
    · intro bytes read
      exact lt_length_of_decode long read
  · intro address
    rw [parse_none, Outcome.mapError_eq_ok_iff, ofText_eq_ok_iff, decodeText_eq_ok_iff]

/-- Eighteen letters of two bytes each are beyond the limit, and seventeen of them are within it. The
text of an address is within it too, and it is read. -/
theorem parse_none_eq_decodeText_accented :
    let long := String.ofList (List.replicate 18 'é')
    let short := String.ofList (List.replicate 17 'é')
    let address : Address := ⟨48, Vector.replicate 20 0⟩
    35 < long.utf8ByteSize ∧ parse none long = .error (.malformed (.tooLong 36)) ∧
      short.utf8ByteSize ≤ 35 ∧ parse none short = (decodeText short).mapError .malformed ∧
      address.toText.utf8ByteSize ≤ 35 ∧ parse none address.toText = .ok address := by
  intro long short address
  have beyond : 35 < long.utf8ByteSize := by decide +kernel
  have within : short.utf8ByteSize ≤ 35 := by decide +kernel
  have own : decodeText address.toText = .ok address := decodeText_eq_ok_iff.mpr rfl
  obtain ⟨_, _, refused, _⟩ := parse_none_eq_decodeText long
  obtain ⟨_, unlimited, _⟩ := parse_none_eq_decodeText short
  obtain ⟨_, _, _, same⟩ := parse_none_eq_decodeText address.toText
  exact ⟨beyond, (refused beyond).1, within, unlimited within, address.utf8ByteSize_toText_le,
    (same address).mpr own⟩

end CoinAddress.Address
