import BrokerRelay.Crypto.BlockCipher
/-!
# DES and triple DES

A block of 64 bits is permuted, passes sixteen rounds in which one half is combined with a mixture of
the other half and a round key, and is permuted back. Decryption is the same with the round keys in
reverse order. Triple DES encrypts, decrypts and encrypts under three keys.
-/

namespace BrokerRelay.Crypto.Des

/-! ## Bits

Places are counted from one, from the most significant bit on. -/

/-- The bits at the given places of a word of `width` bits, in this order. -/
def permute (width : Nat) (places : List Nat) (x : UInt64) : UInt64 :=
  places.foldl (fun out p => out * 2 + (x >>> UInt64.ofNat (width - p)) % 2) 0

/-- The permutation before the rounds. -/
def initialPlaces : List Nat := [
  58, 50, 42, 34, 26, 18, 10, 2, 60, 52, 44, 36, 28, 20, 12, 4,
  62, 54, 46, 38, 30, 22, 14, 6, 64, 56, 48, 40, 32, 24, 16, 8,
  57, 49, 41, 33, 25, 17, 9, 1, 59, 51, 43, 35, 27, 19, 11, 3,
  61, 53, 45, 37, 29, 21, 13, 5, 63, 55, 47, 39, 31, 23, 15, 7]

/-- The permutation after the rounds, which undoes the first one. -/
def finalPlaces : List Nat := [
  40, 8, 48, 16, 56, 24, 64, 32, 39, 7, 47, 15, 55, 23, 63, 31,
  38, 6, 46, 14, 54, 22, 62, 30, 37, 5, 45, 13, 53, 21, 61, 29,
  36, 4, 44, 12, 52, 20, 60, 28, 35, 3, 43, 11, 51, 19, 59, 27,
  34, 2, 42, 10, 50, 18, 58, 26, 33, 1, 41, 9, 49, 17, 57, 25]

/-- The bits of a half that meet a round key. -/
def expansionPlaces : List Nat := [
  32, 1, 2, 3, 4, 5, 4, 5, 6, 7, 8, 9,
  8, 9, 10, 11, 12, 13, 12, 13, 14, 15, 16, 17,
  16, 17, 18, 19, 20, 21, 20, 21, 22, 23, 24, 25,
  24, 25, 26, 27, 28, 29, 28, 29, 30, 31, 32, 1]

/-- The permutation of a mixture. -/
def mixturePlaces : List Nat := [
  16, 7, 20, 21, 29, 12, 28, 17, 1, 15, 23, 26, 5, 18, 31, 10,
  2, 8, 24, 14, 32, 27, 3, 9, 19, 13, 30, 6, 22, 11, 4, 25]

/-- The bits of a key that count, in two halves. -/
def keyPlaces : List Nat := [
  57, 49, 41, 33, 25, 17, 9, 1, 58, 50, 42, 34, 26, 18,
  10, 2, 59, 51, 43, 35, 27, 19, 11, 3, 60, 52, 44, 36,
  63, 55, 47, 39, 31, 23, 15, 7, 62, 54, 46, 38, 30, 22,
  14, 6, 61, 53, 45, 37, 29, 21, 13, 5, 28, 20, 12, 4]

/-- The bits of the rotated halves that form a round key. -/
def roundKeyPlaces : List Nat := [
  14, 17, 11, 24, 1, 5, 3, 28, 15, 6, 21, 10,
  23, 19, 12, 4, 26, 8, 16, 7, 27, 20, 13, 2,
  41, 52, 31, 37, 47, 55, 30, 40, 51, 45, 33, 48,
  44, 49, 39, 56, 34, 53, 46, 42, 50, 36, 29, 32]

/-- How far the halves of the key rotate before each round. -/
def rotations : List Nat := [1, 1, 2, 2, 2, 2, 2, 2, 1, 2, 2, 2, 2, 2, 2, 1]

/-- The substitutions of six bits by four. -/
def boxes : Array (Array UInt64) := #[
  #[
    14, 4, 13, 1, 2, 15, 11, 8, 3, 10, 6, 12, 5, 9, 0, 7,
    0, 15, 7, 4, 14, 2, 13, 1, 10, 6, 12, 11, 9, 5, 3, 8,
    4, 1, 14, 8, 13, 6, 2, 11, 15, 12, 9, 7, 3, 10, 5, 0,
    15, 12, 8, 2, 4, 9, 1, 7, 5, 11, 3, 14, 10, 0, 6, 13],
  #[
    15, 1, 8, 14, 6, 11, 3, 4, 9, 7, 2, 13, 12, 0, 5, 10,
    3, 13, 4, 7, 15, 2, 8, 14, 12, 0, 1, 10, 6, 9, 11, 5,
    0, 14, 7, 11, 10, 4, 13, 1, 5, 8, 12, 6, 9, 3, 2, 15,
    13, 8, 10, 1, 3, 15, 4, 2, 11, 6, 7, 12, 0, 5, 14, 9],
  #[
    10, 0, 9, 14, 6, 3, 15, 5, 1, 13, 12, 7, 11, 4, 2, 8,
    13, 7, 0, 9, 3, 4, 6, 10, 2, 8, 5, 14, 12, 11, 15, 1,
    13, 6, 4, 9, 8, 15, 3, 0, 11, 1, 2, 12, 5, 10, 14, 7,
    1, 10, 13, 0, 6, 9, 8, 7, 4, 15, 14, 3, 11, 5, 2, 12],
  #[
    7, 13, 14, 3, 0, 6, 9, 10, 1, 2, 8, 5, 11, 12, 4, 15,
    13, 8, 11, 5, 6, 15, 0, 3, 4, 7, 2, 12, 1, 10, 14, 9,
    10, 6, 9, 0, 12, 11, 7, 13, 15, 1, 3, 14, 5, 2, 8, 4,
    3, 15, 0, 6, 10, 1, 13, 8, 9, 4, 5, 11, 12, 7, 2, 14],
  #[
    2, 12, 4, 1, 7, 10, 11, 6, 8, 5, 3, 15, 13, 0, 14, 9,
    14, 11, 2, 12, 4, 7, 13, 1, 5, 0, 15, 10, 3, 9, 8, 6,
    4, 2, 1, 11, 10, 13, 7, 8, 15, 9, 12, 5, 6, 3, 0, 14,
    11, 8, 12, 7, 1, 14, 2, 13, 6, 15, 0, 9, 10, 4, 5, 3],
  #[
    12, 1, 10, 15, 9, 2, 6, 8, 0, 13, 3, 4, 14, 7, 5, 11,
    10, 15, 4, 2, 7, 12, 9, 5, 6, 1, 13, 14, 0, 11, 3, 8,
    9, 14, 15, 5, 2, 8, 12, 3, 7, 0, 4, 10, 1, 13, 11, 6,
    4, 3, 2, 12, 9, 5, 15, 10, 11, 14, 1, 7, 6, 0, 8, 13],
  #[
    4, 11, 2, 14, 15, 0, 8, 13, 3, 12, 9, 7, 5, 10, 6, 1,
    13, 0, 11, 7, 4, 9, 1, 10, 14, 3, 5, 12, 2, 15, 8, 6,
    1, 4, 11, 13, 12, 3, 7, 14, 10, 15, 6, 8, 0, 5, 9, 2,
    6, 11, 13, 8, 1, 4, 10, 7, 9, 5, 0, 15, 14, 2, 3, 12],
  #[
    13, 2, 8, 4, 6, 15, 11, 1, 10, 9, 3, 14, 5, 0, 12, 7,
    1, 15, 13, 8, 10, 3, 7, 4, 12, 5, 6, 11, 0, 14, 9, 2,
    7, 11, 4, 1, 9, 12, 14, 2, 0, 6, 10, 13, 15, 3, 5, 8,
    2, 1, 14, 7, 4, 10, 8, 13, 15, 12, 9, 0, 3, 5, 6, 11]]

/-! ## Rounds -/

/-- Rotates the 28 bits of half a key to the left. -/
def rotateHalf (n : Nat) (x : UInt64) : UInt64 :=
  let n := UInt64.ofNat n
  ((x <<< n) ||| (x >>> (28 - n))) % 0x10000000

/-- The round keys from two halves of a key on. -/
def roundKeysFrom (left right : UInt64) : List Nat → List UInt64
  | [] => []
  | n :: ns =>
    let left := rotateHalf n left
    let right := rotateHalf n right
    permute 56 roundKeyPlaces (left * 0x10000000 + right) :: roundKeysFrom left right ns

/-- A byte string as a number of at most 64 bits. -/
def toWord (bs : Bytes) : UInt64 := UInt64.ofNat (Bytes.toNatBE bs)

/-- The eight bytes of a word. -/
def ofWord (x : UInt64) : Bytes := Bytes.ofNatBE 8 x.toNat

/-- The sixteen round keys of a key. -/
def roundKeys (key : Bytes) : List UInt64 :=
  let x := permute 64 keyPlaces (toWord key)
  roundKeysFrom (x / 0x10000000) (x % 0x10000000) rotations

/-- What box `i` makes of six bits: the outer two select a row, the inner four a column. -/
def substitute (i : Nat) (six : UInt64) : UInt64 :=
  let row := six / 32 * 2 + six % 2
  let column := six / 2 % 16
  (boxes.getD i #[]).getD (row * 16 + column).toNat 0

/-- The mixture of a half and a round key. -/
def mixture (half key : UInt64) : UInt64 :=
  let x := permute 32 expansionPlaces half ^^^ key
  let y := (List.range 8).foldl
    (fun out i => out * 16 + substitute i ((x >>> UInt64.ofNat (42 - 6 * i)) % 64)) 0
  permute 32 mixturePlaces y

/-- Passes two halves through rounds. -/
def rounds (halves : UInt64 × UInt64) (keys : List UInt64) : UInt64 × UInt64 :=
  keys.foldl (fun (left, right) key => (right, left ^^^ mixture right key)) halves

/-- A block under round keys in the given order. -/
def block (keys : List UInt64) (x : UInt64) : UInt64 :=
  let x := permute 64 initialPlaces x
  let (left, right) := rounds (x / 0x100000000, x % 0x100000000) keys
  permute 64 finalPlaces (right * 0x100000000 + left)

end BrokerRelay.Crypto.Des

namespace BrokerRelay.Crypto

open Des

/-- DES. -/
def des : BlockCipher where
  keySize := 8
  blockSize := 8
  Key := List UInt64
  expand := roundKeys
  encrypt keys bs := ofWord (block keys (toWord bs))
  decrypt keys bs := ofWord (block keys.reverse (toWord bs))

/-- Triple DES with three keys. -/
def tripleDes : BlockCipher where
  keySize := 24
  blockSize := 8
  Key := List UInt64 × List UInt64 × List UInt64
  expand key :=
    (roundKeys (key.take 8), roundKeys ((key.drop 8).take 8), roundKeys (key.drop 16))
  encrypt keys bs :=
    let (k1, k2, k3) := keys
    ofWord (block k3 (block k2.reverse (block k1 (toWord bs))))
  decrypt keys bs :=
    let (k1, k2, k3) := keys
    ofWord (block k1.reverse (block k2 (block k3.reverse (toWord bs))))

end BrokerRelay.Crypto
