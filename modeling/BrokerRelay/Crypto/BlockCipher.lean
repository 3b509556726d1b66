import BrokerRelay.Bytes
/-!
# Block ciphers and chaining

A block cipher turns a block into another one of the same size under a key, and back. Cipher block
chaining combines each block with the encrypted one before it, the first with an initial vector, and
padding fills the last block: every added byte says how many were added, and at least one is.
-/

namespace BrokerRelay.Crypto

/-- A block cipher. `expand` prepares a key for use with many blocks. -/
structure BlockCipher where
  keySize : Nat
  blockSize : Nat
  Key : Type
  expand : Bytes → Key
  encrypt : Key → Bytes → Bytes
  decrypt : Key → Bytes → Bytes

/-- Combines two byte strings place by place. -/
def xor (a b : Bytes) : Bytes := List.zipWith (· ^^^ ·) a b

/-! ## Padding -/

/-- Fills the last block of `size` bytes. -/
def padTo (size : Nat) (text : Bytes) : Bytes :=
  let n := size - text.length % size
  text ++ List.replicate n (UInt8.ofNat n)

/-- Removes the padding of blocks of `size` bytes. -/
def unpad? (size : Nat) (text : Bytes) : Option Bytes :=
  match text.getLast? with
  | none => none
  | some last =>
    let n := last.toNat
    let kept := text.length - n
    if 0 < n ∧ n ≤ size ∧ n ≤ text.length ∧ text.drop kept = List.replicate n last then
      some (text.take kept)
    else none

namespace BlockCipher

/-- Encrypts whole blocks, each combined with the encrypted one before it. -/
def chain (cipher : BlockCipher) (key : cipher.Key) : Nat → Bytes → Bytes → Bytes
  | 0, _, _ => []
  | count + 1, previous, text =>
    let block := cipher.encrypt key (xor previous (text.take cipher.blockSize))
    block ++ chain cipher key count block (text.drop cipher.blockSize)

/-- Decrypts whole blocks. -/
def unchain (cipher : BlockCipher) (key : cipher.Key) : Nat → Bytes → Bytes → Bytes
  | 0, _, _ => []
  | count + 1, previous, text =>
    let block := text.take cipher.blockSize
    xor previous (cipher.decrypt key block)
      ++ unchain cipher key count block (text.drop cipher.blockSize)

/-- Encrypts a text of any length. -/
def encryptText (cipher : BlockCipher) (key iv text : Bytes) : Bytes :=
  let padded := padTo cipher.blockSize text
  cipher.chain (cipher.expand key) (padded.length / cipher.blockSize) iv padded

/-- Decrypts a text: whole blocks, at least one, with padding in the last. -/
def decryptText? (cipher : BlockCipher) (key iv text : Bytes) : Option Bytes :=
  if text = [] ∨ text.length % cipher.blockSize ≠ 0 then none
  else
    unpad? cipher.blockSize
      (cipher.unchain (cipher.expand key) (text.length / cipher.blockSize) iv text)

end BlockCipher

end BrokerRelay.Crypto
