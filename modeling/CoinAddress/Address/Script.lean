import CoinAddress.Address.Basic

/-!
# Output scripts

The script that pays to an address names its hash between fixed operations. A script that pays to a
script hash has a form of its own and can be read back.
-/

namespace CoinAddress.Address

namespace Op

/-- Copies the top of the stack. -/
def dup : UInt8 := 0x76

/-- Replaces the top of the stack by its hash. -/
def hash160 : UInt8 := 0xa9

/-- Pushes the twenty bytes that follow. -/
def push20 : UInt8 := 0x14

/-- Fails unless the two top elements are equal. -/
def equalVerify : UInt8 := 0x88

/-- Checks a signature against a key. -/
def checkSig : UInt8 := 0xac

/-- Compares the two top elements. -/
def equal : UInt8 := 0x87

end Op

/-- The script that pays to a key hash. -/
def keyHashScript (hash : Vector UInt8 20) : Bytes :=
  [Op.dup, Op.hash160, Op.push20] ++ hash.toList ++ [Op.equalVerify, Op.checkSig]

/-- The script that pays to a script hash. -/
def scriptHashScript (hash : Vector UInt8 20) : Bytes :=
  [Op.hash160, Op.push20] ++ hash.toList ++ [Op.equal]

/-- The script that pays to an address on a network. -/
def outputScript (address : Address) (network : Network) : Bytes :=
  if address.isScriptHash network then scriptHashScript address.hash
  else keyHashScript address.hash

/-- The address to which a script pays, which has to be a script hash. -/
def ofOutputScript (network : Network) (script : Bytes) : Except BuildError Address :=
  if script.take 2 = [Op.hash160, Op.push20] ∧ script.drop 22 = [Op.equal] then
    ofHash network ((script.drop 2).take 20) .scriptHash
  else .error .notScriptHash

end CoinAddress.Address
