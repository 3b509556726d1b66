/-!
# Bytes

Wire data, file contents and key material are lists of bytes. This module holds the two views of a
byte string that the rest of the library needs, both of them exact inverses of each other on what
they accept: text as UTF-8, and lower-case hexadecimal digits.

`decodeUtf8` reads strictly (no overlong forms, no surrogates) and says where and how far a reading
failed; `encodeUtf8` writes.
-/

namespace BrokerRelay

/-- A byte string. -/
abbrev Bytes := List UInt8

namespace Bytes

/-! ## Text as UTF-8 -/

/-- The UTF-8 form of a list of characters. -/
def encodeChars (cs : List Char) : Bytes := cs.flatMap String.utf8EncodeChar

/-- The UTF-8 form of a text. -/
def encodeUtf8 (s : String) : Bytes := encodeChars s.toList

/-- Where a UTF-8 reading stopped: `validUpTo` bytes were well formed, and the next `length` bytes
cannot start a character (`none`: the input ended inside one). -/
structure Utf8Fault where
  validUpTo : Nat
  length : Option Nat
deriving DecidableEq, Repr

/-- The text of a failed reading. -/
def Utf8Fault.message (f : Utf8Fault) : String :=
  match f.length with
  | some n => s!"invalid utf-8 sequence of {n} bytes from index {f.validUpTo}"
  | none => s!"incomplete utf-8 byte sequence from index {f.validUpTo}"

/-- A byte of the form `10xxxxxx`. -/
def isContinuation (b : UInt8) : Bool := 0x80 ≤ b && b ≤ 0xbf

/-- The second bytes that may follow the lead byte of a three-byte form: no overlong form and no
surrogate. -/
def secondOfThree (lead b : UInt8) : Bool :=
  if lead == 0xe0 then 0xa0 ≤ b && b ≤ 0xbf
  else if lead == 0xed then 0x80 ≤ b && b ≤ 0x9f
  else isContinuation b

/-- The second bytes that may follow the lead byte of a four-byte form: no overlong form and nothing
above U+10FFFF. -/
def secondOfFour (lead b : UInt8) : Bool :=
  if lead == 0xf0 then 0x90 ≤ b && b ≤ 0xbf
  else if lead == 0xf4 then 0x80 ≤ b && b ≤ 0x8f
  else isContinuation b

/-- The low six bits of a continuation byte. -/
def payload (b : UInt8) : Nat := b.toNat % 64

/-- Reads UTF-8 from index `at_`. -/
def decodeFrom : Bytes → Nat → Except Utf8Fault (List Char)
  | [], _ => .ok []
  | b0 :: t0, at_ =>
    if b0 < 0x80 then
      (decodeFrom t0 (at_ + 1)).map (Char.ofNat b0.toNat :: ·)
    else if 0xc2 ≤ b0 && b0 ≤ 0xdf then
      match t0 with
      | [] => .error ⟨at_, none⟩
      | b1 :: t1 =>
        if isContinuation b1 then
          (decodeFrom t1 (at_ + 2)).map (Char.ofNat ((b0.toNat % 32) * 64 + payload b1) :: ·)
        else .error ⟨at_, some 1⟩
    else if 0xe0 ≤ b0 && b0 ≤ 0xef then
      match t0 with
      | [] => .error ⟨at_, none⟩
      | b1 :: t1 =>
        if !secondOfThree b0 b1 then .error ⟨at_, some 1⟩
        else match t1 with
          | [] => .error ⟨at_, none⟩
          | b2 :: t2 =>
            if isContinuation b2 then
              (decodeFrom t2 (at_ + 3)).map
                (Char.ofNat ((b0.toNat % 16) * 4096 + payload b1 * 64 + payload b2) :: ·)
            else .error ⟨at_, some 2⟩
    else if 0xf0 ≤ b0 && b0 ≤ 0xf4 then
      match t0 with
      | [] => .error ⟨at_, none⟩
      | b1 :: t1 =>
        if !secondOfFour b0 b1 then .error ⟨at_, some 1⟩
        else match t1 with
          | [] => .error ⟨at_, none⟩
          | b2 :: t2 =>
            if !isContinuation b2 then .error ⟨at_, some 2⟩
            else match t2 with
              | [] => .error ⟨at_, none⟩
              | b3 :: t3 =>
                if isContinuation b3 then
                  (decodeFrom t3 (at_ + 4)).map
                    (Char.ofNat ((b0.toNat % 8) * 262144 + payload b1 * 4096 + payload b2 * 64
                      + payload b3) :: ·)
                else .error ⟨at_, some 3⟩
    else .error ⟨at_, some 1⟩

/-- The characters of a UTF-8 byte string, or where it is malformed. -/
def decodeChars (bs : Bytes) : Except Utf8Fault (List Char) := decodeFrom bs 0

/-- The text of a UTF-8 byte string, or where it is malformed. -/
def decodeUtf8 (bs : Bytes) : Except Utf8Fault String := (decodeChars bs).map String.ofList

/-- The characters of a byte string, with U+FFFD for each run of bytes that is malformed. -/
def decodeLossyChars (bs : Bytes) : List Char :=
  match decodeChars bs with
  | .ok cs => cs
  | .error fault =>
    let start := (decodeChars (bs.take fault.validUpTo)).toOption.getD []
    match fault.length with
    | none => start ++ ['\ufffd']
    | some n =>
      if _ : bs = [] then start
      else start ++ '\ufffd' :: decodeLossyChars (bs.drop (fault.validUpTo + max n 1))
termination_by bs.length
decreasing_by
  have : 0 < bs.length := List.length_pos_iff.mpr (by assumption)
  simp only [List.length_drop]
  omega

/-- The text of a byte string, with U+FFFD for each run of bytes that is malformed. -/
def decodeLossy (bs : Bytes) : String := String.ofList (decodeLossyChars bs)

/-! ## Hexadecimal -/

/-- The value of a hexadecimal digit of either case. -/
def hexDigit? (c : Char) : Option Nat :=
  if '0' ≤ c ∧ c ≤ '9' then some (c.toNat - '0'.toNat)
  else if 'a' ≤ c ∧ c ≤ 'f' then some (c.toNat - 'a'.toNat + 10)
  else if 'A' ≤ c ∧ c ≤ 'F' then some (c.toNat - 'A'.toNat + 10)
  else none

/-- Reads an even number of hexadecimal digits. -/
def ofHexChars? : List Char → Option Bytes
  | [] => some []
  | [_] => none
  | hi :: lo :: rest => do
    let h ← hexDigit? hi
    let l ← hexDigit? lo
    let bs ← ofHexChars? rest
    pure (UInt8.ofNat (h * 16 + l) :: bs)

/-- Reads an even number of hexadecimal digits of either case. -/
def ofHex? (s : String) : Option Bytes := ofHexChars? s.toList

/-- The lower-case hexadecimal digit of a value below sixteen. -/
def hexDigit (n : Nat) : Char := Nat.digitChar n

/-- Two lower-case hexadecimal digits for each byte. -/
def toHex (bs : Bytes) : String :=
  String.ofList (bs.flatMap fun b => [hexDigit (b.toNat / 16), hexDigit (b.toNat % 16)])

/-! ## Pieces -/

/-- The first `count` pieces of `size` bytes. -/
def pieces (size : Nat) : Nat → Bytes → List Bytes
  | 0, _ => []
  | count + 1, bs => bs.take size :: pieces size count (bs.drop size)

/-! ## Numbers -/

/-- The value of a byte string read as a big-endian number. -/
def toNatBE (bs : Bytes) : Nat := bs.foldl (fun n b => n * 256 + b.toNat) 0

/-- The value of a byte string read as a little-endian number. -/
def toNatLE (bs : Bytes) : Nat := bs.foldr (fun b n => n * 256 + b.toNat) 0

/-- The last `size` base-256 digits of `n`, least significant first. -/
def ofNatLE (size n : Nat) : Bytes :=
  match size with
  | 0 => []
  | k + 1 => UInt8.ofNat (n % 256) :: ofNatLE k (n / 256)

/-- The last `size` base-256 digits of `n`, most significant first. -/
def ofNatBE (size n : Nat) : Bytes := (ofNatLE size n).reverse

end Bytes

end BrokerRelay
