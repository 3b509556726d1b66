import BrokerRelay.Crypto.BlockCipher
/-!
# AES

A block of sixteen bytes, seen as four columns of four, is combined with a round key and then passes
rounds of substitution, row shifts, column mixing and another round key; the last round mixes no
columns. Decryption undoes the steps in reverse order. Longer keys have more rounds.
-/

namespace BrokerRelay.Crypto.Aes

/-- The substitution of bytes. -/
def box : Array UInt8 := #[
  0x63, 0x7c, 0x77, 0x7b, 0xf2, 0x6b, 0x6f, 0xc5, 0x30, 0x01, 0x67, 0x2b, 0xfe, 0xd7, 0xab, 0x76,
  0xca, 0x82, 0xc9, 0x7d, 0xfa, 0x59, 0x47, 0xf0, 0xad, 0xd4, 0xa2, 0xaf, 0x9c, 0xa4, 0x72, 0xc0,
  0xb7, 0xfd, 0x93, 0x26, 0x36, 0x3f, 0xf7, 0xcc, 0x34, 0xa5, 0xe5, 0xf1, 0x71, 0xd8, 0x31, 0x15,
  0x04, 0xc7, 0x23, 0xc3, 0x18, 0x96, 0x05, 0x9a, 0x07, 0x12, 0x80, 0xe2, 0xeb, 0x27, 0xb2, 0x75,
  0x09, 0x83, 0x2c, 0x1a, 0x1b, 0x6e, 0x5a, 0xa0, 0x52, 0x3b, 0xd6, 0xb3, 0x29, 0xe3, 0x2f, 0x84,
  0x53, 0xd1, 0x00, 0xed, 0x20, 0xfc, 0xb1, 0x5b, 0x6a, 0xcb, 0xbe, 0x39, 0x4a, 0x4c, 0x58, 0xcf,
  0xd0, 0xef, 0xaa, 0xfb, 0x43, 0x4d, 0x33, 0x85, 0x45, 0xf9, 0x02, 0x7f, 0x50, 0x3c, 0x9f, 0xa8,
  0x51, 0xa3, 0x40, 0x8f, 0x92, 0x9d, 0x38, 0xf5, 0xbc, 0xb6, 0xda, 0x21, 0x10, 0xff, 0xf3, 0xd2,
  0xcd, 0x0c, 0x13, 0xec, 0x5f, 0x97, 0x44, 0x17, 0xc4, 0xa7, 0x7e, 0x3d, 0x64, 0x5d, 0x19, 0x73,
  0x60, 0x81, 0x4f, 0xdc, 0x22, 0x2a, 0x90, 0x88, 0x46, 0xee, 0xb8, 0x14, 0xde, 0x5e, 0x0b, 0xdb,
  0xe0, 0x32, 0x3a, 0x0a, 0x49, 0x06, 0x24, 0x5c, 0xc2, 0xd3, 0xac, 0x62, 0x91, 0x95, 0xe4, 0x79,
  0xe7, 0xc8, 0x37, 0x6d, 0x8d, 0xd5, 0x4e, 0xa9, 0x6c, 0x56, 0xf4, 0xea, 0x65, 0x7a, 0xae, 0x08,
  0xba, 0x78, 0x25, 0x2e, 0x1c, 0xa6, 0xb4, 0xc6, 0xe8, 0xdd, 0x74, 0x1f, 0x4b, 0xbd, 0x8b, 0x8a,
  0x70, 0x3e, 0xb5, 0x66, 0x48, 0x03, 0xf6, 0x0e, 0x61, 0x35, 0x57, 0xb9, 0x86, 0xc1, 0x1d, 0x9e,
  0xe1, 0xf8, 0x98, 0x11, 0x69, 0xd9, 0x8e, 0x94, 0x9b, 0x1e, 0x87, 0xe9, 0xce, 0x55, 0x28, 0xdf,
  0x8c, 0xa1, 0x89, 0x0d, 0xbf, 0xe6, 0x42, 0x68, 0x41, 0x99, 0x2d, 0x0f, 0xb0, 0x54, 0xbb, 0x16]

/-- The inverse of the substitution. -/
def inverseBox : Array UInt8 := #[
  0x52, 0x09, 0x6a, 0xd5, 0x30, 0x36, 0xa5, 0x38, 0xbf, 0x40, 0xa3, 0x9e, 0x81, 0xf3, 0xd7, 0xfb,
  0x7c, 0xe3, 0x39, 0x82, 0x9b, 0x2f, 0xff, 0x87, 0x34, 0x8e, 0x43, 0x44, 0xc4, 0xde, 0xe9, 0xcb,
  0x54, 0x7b, 0x94, 0x32, 0xa6, 0xc2, 0x23, 0x3d, 0xee, 0x4c, 0x95, 0x0b, 0x42, 0xfa, 0xc3, 0x4e,
  0x08, 0x2e, 0xa1, 0x66, 0x28, 0xd9, 0x24, 0xb2, 0x76, 0x5b, 0xa2, 0x49, 0x6d, 0x8b, 0xd1, 0x25,
  0x72, 0xf8, 0xf6, 0x64, 0x86, 0x68, 0x98, 0x16, 0xd4, 0xa4, 0x5c, 0xcc, 0x5d, 0x65, 0xb6, 0x92,
  0x6c, 0x70, 0x48, 0x50, 0xfd, 0xed, 0xb9, 0xda, 0x5e, 0x15, 0x46, 0x57, 0xa7, 0x8d, 0x9d, 0x84,
  0x90, 0xd8, 0xab, 0x00, 0x8c, 0xbc, 0xd3, 0x0a, 0xf7, 0xe4, 0x58, 0x05, 0xb8, 0xb3, 0x45, 0x06,
  0xd0, 0x2c, 0x1e, 0x8f, 0xca, 0x3f, 0x0f, 0x02, 0xc1, 0xaf, 0xbd, 0x03, 0x01, 0x13, 0x8a, 0x6b,
  0x3a, 0x91, 0x11, 0x41, 0x4f, 0x67, 0xdc, 0xea, 0x97, 0xf2, 0xcf, 0xce, 0xf0, 0xb4, 0xe6, 0x73,
  0x96, 0xac, 0x74, 0x22, 0xe7, 0xad, 0x35, 0x85, 0xe2, 0xf9, 0x37, 0xe8, 0x1c, 0x75, 0xdf, 0x6e,
  0x47, 0xf1, 0x1a, 0x71, 0x1d, 0x29, 0xc5, 0x89, 0x6f, 0xb7, 0x62, 0x0e, 0xaa, 0x18, 0xbe, 0x1b,
  0xfc, 0x56, 0x3e, 0x4b, 0xc6, 0xd2, 0x79, 0x20, 0x9a, 0xdb, 0xc0, 0xfe, 0x78, 0xcd, 0x5a, 0xf4,
  0x1f, 0xdd, 0xa8, 0x33, 0x88, 0x07, 0xc7, 0x31, 0xb1, 0x12, 0x10, 0x59, 0x27, 0x80, 0xec, 0x5f,
  0x60, 0x51, 0x7f, 0xa9, 0x19, 0xb5, 0x4a, 0x0d, 0x2d, 0xe5, 0x7a, 0x9f, 0x93, 0xc9, 0x9c, 0xef,
  0xa0, 0xe0, 0x3b, 0x4d, 0xae, 0x2a, 0xf5, 0xb0, 0xc8, 0xeb, 0xbb, 0x3c, 0x83, 0x53, 0x99, 0x61,
  0x17, 0x2b, 0x04, 0x7e, 0xba, 0x77, 0xd6, 0x26, 0xe1, 0x69, 0x14, 0x63, 0x55, 0x21, 0x0c, 0x7d]

/-- Substitutes a byte. -/
def substitute (b : UInt8) : UInt8 := box.getD b.toNat 0

/-- Undoes the substitution of a byte. -/
def unsubstitute (b : UInt8) : UInt8 := inverseBox.getD b.toNat 0

/-! ## Arithmetic of bytes -/

/-- Doubles a byte, as a polynomial modulo `x^8 + x^4 + x^3 + x + 1`. -/
def double (b : UInt8) : UInt8 := (b <<< 1) ^^^ (if b &&& 0x80 = 0 then 0 else 0x1b)

/-- The product of a byte and a number below sixteen, as polynomials. -/
def times (n : Nat) (b : UInt8) : UInt8 :=
  let b2 := double b
  let b4 := double b2
  let b8 := double b4
  (if n % 2 = 1 then b else 0) ^^^ (if n / 2 % 2 = 1 then b2 else 0)
    ^^^ (if n / 4 % 2 = 1 then b4 else 0) ^^^ (if n / 8 % 2 = 1 then b8 else 0)

/-- A column times the circulant matrix whose first row is given. -/
def mixColumn (p q r s : Nat) : Bytes → Bytes
  | [a, b, c, d] => [
    times p a ^^^ times q b ^^^ times r c ^^^ times s d,
    times s a ^^^ times p b ^^^ times q c ^^^ times r d,
    times r a ^^^ times s b ^^^ times p c ^^^ times q d,
    times q a ^^^ times r b ^^^ times s c ^^^ times p d]
  | column => column

/-- Applies a function to each column of a block. -/
def onColumns (f : Bytes → Bytes) (state : Bytes) : Bytes :=
  f (state.take 4) ++ f ((state.drop 4).take 4) ++ f ((state.drop 8).take 4) ++ f (state.drop 12)

/-- Mixes the columns of a block. -/
def mixColumns (state : Bytes) : Bytes := onColumns (mixColumn 2 3 1 1) state

/-- Undoes the mixing of columns. -/
def unmixColumns (state : Bytes) : Bytes := onColumns (mixColumn 14 11 13 9) state

/-- Shifts each row of a block to the left by its number. -/
def shiftRows : Bytes → Bytes
  | [a0, a1, a2, a3, b0, b1, b2, b3, c0, c1, c2, c3, d0, d1, d2, d3] =>
    [a0, b1, c2, d3, b0, c1, d2, a3, c0, d1, a2, b3, d0, a1, b2, c3]
  | state => state

/-- Undoes the shifts of rows. -/
def unshiftRows : Bytes → Bytes
  | [a0, b1, c2, d3, b0, c1, d2, a3, c0, d1, a2, b3, d0, a1, b2, c3] =>
    [a0, a1, a2, a3, b0, b1, b2, b3, c0, c1, c2, c3, d0, d1, d2, d3]
  | state => state

/-! ## Keys -/

/-- Rotates a word by one byte. -/
def rotateWord : Bytes → Bytes
  | b :: bs => bs ++ [b]
  | [] => []

/-- The constant of each use of the key's words. -/
def roundConstant : Nat → UInt8
  | 0 => 1
  | n + 1 => double (roundConstant n)

/-- The next `count` words of a key of `size` words; `words` holds the words so far, last one
first. -/
def extendWords (size : Nat) : Nat → List Bytes → List Bytes
  | 0, words => words
  | count + 1, words =>
    let i := words.length
    let last := words.headD []
    let mixed :=
      if i % size = 0 then
        xor ((rotateWord last).map substitute) [roundConstant (i / size - 1), 0, 0, 0]
      else if 6 < size ∧ i % size = 4 then last.map substitute
      else last
    extendWords size count (xor (words.getD (size - 1) []) mixed :: words)

/-- Cuts a byte string into words of four bytes. -/
def words : Nat → Bytes → List Bytes
  | 0, _ => []
  | n + 1, bs => bs.take 4 :: words n (bs.drop 4)

/-- Joins each four words into a round key. -/
def joinWords : List Bytes → List Bytes
  | a :: b :: c :: d :: rest => (a ++ b ++ c ++ d) :: joinWords rest
  | _ => []

/-- The round keys of a key of `size` words: seven more than the words of the key. -/
def roundKeys (size : Nat) (key : Bytes) : List Bytes :=
  joinWords (extendWords size (4 * (size + 7) - size) (words size key).reverse).reverse

/-! ## Rounds -/

/-- The rounds after the first round key. -/
def encryptRounds (state : Bytes) : List Bytes → Bytes
  | [] => state
  | [last] => xor (shiftRows (state.map substitute)) last
  | key :: keys => encryptRounds (xor (mixColumns (shiftRows (state.map substitute))) key) keys

/-- Encrypts a block under round keys. -/
def encryptBlock (keys : List Bytes) (state : Bytes) : Bytes :=
  match keys with
  | [] => state
  | first :: rest => encryptRounds (xor state first) rest

/-- Undoes the rounds after the first round key. -/
def decryptRounds (state : Bytes) : List Bytes → Bytes
  | [] => state
  | [last] => (unshiftRows (xor state last)).map unsubstitute
  | key :: keys =>
    (unshiftRows (unmixColumns (xor (decryptRounds state keys) key))).map unsubstitute

/-- Decrypts a block under round keys. -/
def decryptBlock (keys : List Bytes) (state : Bytes) : Bytes :=
  match keys with
  | [] => state
  | first :: rest => xor (decryptRounds state rest) first

end BrokerRelay.Crypto.Aes

namespace BrokerRelay.Crypto

/-- AES with a key of `size` words of four bytes. -/
def aes (size : Nat) : BlockCipher where
  keySize := 4 * size
  blockSize := 16
  Key := List Bytes
  expand := Aes.roundKeys size
  encrypt := Aes.encryptBlock
  decrypt := Aes.decryptBlock

end BrokerRelay.Crypto
