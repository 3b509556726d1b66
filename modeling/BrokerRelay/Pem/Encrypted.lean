import BrokerRelay.Crypto.Aes
import BrokerRelay.Crypto.Des
import BrokerRelay.Crypto.Md5
import BrokerRelay.Failure
import BrokerRelay.Pem.Block
/-!
# Encrypted key blocks

A block with a `DEK-Info` header is encrypted under a password: the header names the cipher and the
initial vector, whose first eight bytes also salt the key. What comes out must be one DER sequence,
because valid padding alone lets about one wrong password in 256 through.

`decrypt` returns any other text unchanged, so it can be applied to every key file.
-/

namespace BrokerRelay.Pem

/-- The ciphers that an encrypted block can name. -/
inductive Cipher where
  | des
  | tripleDes
  | aes128
  | aes192
  | aes256
deriving DecidableEq, Repr

namespace Cipher

/-- The name of a cipher in a header. -/
def name : Cipher → String
  | .des => "DES-CBC"
  | .tripleDes => "DES-EDE3-CBC"
  | .aes128 => "AES-128-CBC"
  | .aes192 => "AES-192-CBC"
  | .aes256 => "AES-256-CBC"

/-- All ciphers. -/
def all : List Cipher := [.des, .tripleDes, .aes128, .aes192, .aes256]

/-- The cipher of a name. -/
def ofName? (name : List Char) : Option Cipher := all.find? fun c => c.name.toList == name

/-- The block cipher behind a name. -/
def blockCipher : Cipher → Crypto.BlockCipher
  | .des => Crypto.des
  | .tripleDes => Crypto.tripleDes
  | .aes128 => Crypto.aes 4
  | .aes192 => Crypto.aes 6
  | .aes256 => Crypto.aes 8

end Cipher

/-! ## The key of a password -/

/-- The digests whose bytes form a key, `count` of them after `previous`: each is of the one before
it, the password and the salt. -/
def keyDigests (password salt : Bytes) : Nat → Bytes → List Bytes
  | 0, _ => []
  | count + 1, previous =>
    let d := Crypto.Md5.digest (previous ++ password ++ salt)
    d :: keyDigests password salt count d

/-- The key of `size` bytes that a password and a salt give. -/
def deriveKey (password salt : Bytes) (size : Nat) : Bytes :=
  (keyDigests password salt ((size + 15) / 16) []).flatten.take size

/-! ## DER sequences -/

/-- The length that a DER length field states, and what follows the field. -/
def derLength? : Bytes → Option (Nat × Bytes)
  | [] => none
  | first :: rest =>
    if first < 0x80 then some (first.toNat, rest)
    else
      let count := first.toNat - 0x80
      if count = 0 ∨ 4 < count ∨ rest.length < count then none
      else some (Bytes.toNatBE (rest.take count), rest.drop count)

/-- The bytes are exactly one DER sequence. -/
def isDerSequence : Bytes → Bool
  | 0x30 :: rest =>
    match derLength? rest with
    | some (length, body) => length == body.length
    | none => false
  | _ => false

/-! ## Decryption -/

/-- The header that marks an encrypted block. -/
def dekInfo : List Char := "DEK-Info".toList

/-- What a `DEK-Info` header says: a cipher, and an initial vector of one block. -/
structure DekInfo where
  cipher : Cipher
  iv : Bytes

/-- Reads a `DEK-Info` header. -/
def DekInfo.parse (value : List Char) : Except KeyFailure DekInfo :=
  match Text.cutFirst? ',' value with
  | none => .error (.malformedPem ("malformed DEK-Info '" ++ String.ofList value ++ "'"))
  | some (name, iv) =>
    match Cipher.ofName? (Text.trimChars name) with
    | none => .error (.unsupportedCipher (String.ofList (Text.trimChars name)))
    | some cipher =>
      match Bytes.ofHexChars? (Text.trimChars iv) with
      | some bytes =>
        if bytes.length = cipher.blockCipher.blockSize then .ok ⟨cipher, bytes⟩
        else .error (.malformedPem "invalid DEK-Info IV")
      | none => .error (.malformedPem "invalid DEK-Info IV")

/-- Reads the first block of a text. -/
def firstBlock (text : Bytes) : Except KeyFailure Block :=
  (Block.parse text).mapError fun fault => .malformedPem fault.message

/-- The first block of a text is encrypted. -/
def isEncrypted (text : Bytes) : Except KeyFailure Bool :=
  (firstBlock text).map fun b => (b.header? dekInfo).isSome

/-- Decrypts the contents of a block as its header says. -/
def decryptContents (info : DekInfo) (password contents : Bytes) : Except KeyFailure Bytes :=
  let cipher := info.cipher.blockCipher
  let key := deriveKey password (info.iv.take 8) cipher.keySize
  match cipher.decryptText? key info.iv contents with
  | none => .error .decryptionFailed
  | some der => if isDerSequence der then .ok der else .error .decryptionFailed

/-- Decrypts a text if its first block is encrypted, to a text of that block alone. -/
def decrypt (text : Bytes) (password : String) : Except KeyFailure Bytes := do
  let block ← firstBlock text
  match block.header? dekInfo with
  | none => return text
  | some value =>
    if password.isEmpty then throw .encryptedWithoutPassword
    let info ← DekInfo.parse value
    let der ← decryptContents info (Bytes.encodeUtf8 password) block.contents
    return Block.encode ⟨block.label, [], der⟩

end BrokerRelay.Pem
