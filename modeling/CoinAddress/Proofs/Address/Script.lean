import CoinAddress.Address.Script
import CoinAddress.Proofs.Address.Canonical

/-!
# Output scripts and the addresses they pay to

A script is read as an address exactly if it is the script of a script hash, whatever the bytes of
the hash look like (`ofOutputScript_eq_ok_iff`). Which script an address has is a matter of its
version and of the network, so reading undoes writing for the addresses that pay to a script hash
there, and no other script is taken for one of them (`ofOutputScript_inverts_outputScript`).
-/

namespace CoinAddress.Address

section
variable {network : Network} {script : Bytes} {address : Address}

/-- Two operations, twenty bytes and one operation are the script of these bytes, and nothing else
is. -/
lemma framed_iff :
    script.take 2 = [Op.hash160, Op.push20] ∧ script.drop 22 = [Op.equal]
      ↔ ∃ hash, script = scriptHashScript hash := by
  constructor
  · rintro ⟨front, back⟩
    have length : script.length = 23 := by
      have one := congrArg List.length back
      rw [List.length_drop, List.length_singleton] at one
      omega
    have middle : ((script.drop 2).take 20).length = 20 := by
      rw [List.length_take, List.length_drop, length]
      rfl
    refine ⟨⟨((script.drop 2).take 20).toArray, middle⟩, ?_⟩
    calc script
        = script.take 2 ++ ((script.drop 2).take 20 ++ (script.drop 2).drop 20) := by
          rw [List.take_append_drop, List.take_append_drop]
      _ = [Op.hash160, Op.push20] ++ ((script.drop 2).take 20 ++ [Op.equal]) := by
          rw [front, List.drop_drop, back]
      _ = [Op.hash160, Op.push20] ++ (script.drop 2).take 20 ++ [Op.equal] :=
          (List.append_assoc ..).symm
  · rintro ⟨hash, rfl⟩
    refine ⟨rfl, ?_⟩
    show (hash.toList ++ [Op.equal]).drop 20 = [Op.equal]
    exact List.drop_left' hash.length_toList

/-- The script of a hash is read as the address that pays to it. -/
lemma ofOutputScript_scriptHashScript (network : Network) (hash : Vector UInt8 20) :
    ofOutputScript network (scriptHashScript hash) = .ok (ofScriptHash network hash) := by
  have middle : ((scriptHashScript hash).drop 2).take 20 = hash.toList := by
    show (hash.toList ++ [Op.equal]).take 20 = hash.toList
    exact List.take_left' hash.length_toList
  rw [ofOutputScript, if_pos (framed_iff.mpr ⟨hash, rfl⟩), middle]
  exact ofHash_eq_ok_iff.mpr ⟨rfl, rfl⟩

/-- Any other script is refused. -/
lemma ofOutputScript_of_ne (foreign : ∀ hash, script ≠ scriptHashScript hash) :
    ofOutputScript network script = .error .notScriptHash := by
  rw [ofOutputScript, if_neg]
  intro framed
  obtain ⟨hash, eq⟩ := framed_iff.mp framed
  exact foreign hash eq

/-- A script is read exactly if it is that of a script hash. -/
theorem ofOutputScript_eq_ok_iff :
    ofOutputScript network script = .ok address
      ↔ ∃ hash, script = scriptHashScript hash ∧ address = ofScriptHash network hash := by
  constructor
  · intro read
    by_cases framed : ∃ hash, script = scriptHashScript hash
    · obtain ⟨hash, rfl⟩ := framed
      rw [ofOutputScript_scriptHashScript] at read
      exact ⟨hash, rfl, (Except.ok.inj read).symm⟩
    · rw [ofOutputScript_of_ne (not_exists.mp framed)] at read
      cases read
  · rintro ⟨hash, rfl, rfl⟩
    exact ofOutputScript_scriptHashScript network hash

/-- There is one reason only not to read a script. -/
theorem ofOutputScript_eq_error_iff {error : BuildError} :
    ofOutputScript network script = .error error
      ↔ error = .notScriptHash ∧ ∀ hash, script ≠ scriptHashScript hash := by
  constructor
  · intro refused
    by_cases framed : ∃ hash, script = scriptHashScript hash
    · obtain ⟨hash, rfl⟩ := framed
      rw [ofOutputScript_scriptHashScript] at refused
      cases refused
    · have foreign := not_exists.mp framed
      rw [ofOutputScript_of_ne foreign] at refused
      exact ⟨(Except.error.inj refused).symm, foreign⟩
  · rintro ⟨rfl, foreign⟩
    exact ofOutputScript_of_ne foreign

/-- The two kinds of scripts differ in their first operation. -/
lemma keyHashScript_ne_scriptHashScript (key hash : Vector UInt8 20) :
    keyHashScript key ≠ scriptHashScript hash := by
  intro eq
  have first : Op.dup = Op.hash160 := (List.cons.inj eq).1
  exact absurd first (by decide)

/-- An address with the script version is paid through a script hash. -/
lemma outputScript_of_eq (same : address.version = network.scriptVersion) :
    address.outputScript network = scriptHashScript address.hash :=
  if_pos (decide_eq_true same)

/-- An address with any other version is paid through a key hash. -/
lemma outputScript_of_ne (other : address.version ≠ network.scriptVersion) :
    address.outputScript network = keyHashScript address.hash :=
  if_neg (ne_true_of_eq_false (decide_eq_false other))

end

/-- A script is read as an address exactly if it is the script of a script hash, and then it is the
script of that address. For any other script the answer is that it is not one, so the script of a key
hash is never taken for one. The script of an address is read back with the version of the network
that reads if the version of the address is that of script hashes where it was written. A redeem
script has the script of its hash. A key hash has its own, unless the network has one version for
both kinds. -/
theorem ofOutputScript_inverts_outputScript :
    (∀ network script address, ofOutputScript network script = .ok address ↔
      ∃ hash : Vector UInt8 20, script = [0xa9, 0x14] ++ hash.toList ++ [0x87] ∧
        script.length = 23 ∧ address = ⟨network.scriptVersion, hash⟩ ∧
        address.outputScript network = script) ∧
    (∀ network script error, ofOutputScript network script = .error error ↔
      error = .notScriptHash ∧
        ∀ hash : Vector UInt8 20, script ≠ [0xa9, 0x14] ++ hash.toList ++ [0x87]) ∧
    (∀ (network other : Network) (address : Address),
      ofOutputScript network (address.outputScript other) =
        if address.version = other.scriptVersion then .ok ⟨network.scriptVersion, address.hash⟩
        else .error .notScriptHash) ∧
    (∀ (network : Network) (hash : Vector UInt8 20),
      ofOutputScript network ([0x76, 0xa9, 0x14] ++ hash.toList ++ [0x88, 0xac])
        = .error .notScriptHash) ∧
    (∀ network script, (ofRedeemScript network script).outputScript network
      = [0xa9, 0x14] ++ (Digest.hash160 script).toList ++ [0x87]) ∧
    (∀ network hash, (ofKeyHash network hash).outputScript network
        = [0x76, 0xa9, 0x14] ++ hash.toList ++ [0x88, 0xac]
      ↔ network.keyVersion ≠ network.scriptVersion) := by
  refine ⟨?_, ?_, ?_, ?_, ?_, ?_⟩
  · intro network script address
    rw [ofOutputScript_eq_ok_iff]
    constructor
    · rintro ⟨hash, rfl, rfl⟩
      refine ⟨hash, rfl, ?_, rfl, outputScript_of_eq rfl⟩
      rw [scriptHashScript, List.length_append, List.length_append, hash.length_toList]
      rfl
    · rintro ⟨hash, spelled, _, eq, _⟩
      exact ⟨hash, spelled, eq⟩
  · intro network script error
    exact ofOutputScript_eq_error_iff
  · intro network other address
    split
    case isTrue same =>
      rw [outputScript_of_eq same]
      exact ofOutputScript_scriptHashScript network address.hash
    case isFalse differs =>
      rw [outputScript_of_ne differs]
      exact ofOutputScript_of_ne (keyHashScript_ne_scriptHashScript address.hash)
  · intro network hash
    exact ofOutputScript_of_ne (keyHashScript_ne_scriptHashScript hash)
  · intro network script
    exact outputScript_of_eq rfl
  · intro network hash
    constructor
    · intro eq same
      have script : (ofKeyHash network hash).outputScript network = scriptHashScript hash :=
        outputScript_of_eq same
      exact keyHashScript_ne_scriptHashScript hash hash (eq.symm.trans script)
    · intro differs
      exact outputScript_of_ne differs

end CoinAddress.Address
