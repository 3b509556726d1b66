import Mathlib.Logic.Function.Iterate
import Mathlib.Tactic.Common
import BrokerRelay.Pem.Encrypted
import BrokerRelay.Proofs.Bytes.Number
/-!
# The key of a password

`DerivedKey` states byte by byte which key a password and a salt give: the bytes come from a row of
digests, each taken of the one before it, the password and the salt. `deriveKey` computes this key, at
every size.

How many digests it takes is known beforehand, but need not be: `Growth.grow` adds digests to a buffer as long
as there are too few bytes in it. As each digest has sixteen bytes this ends, with the digests that
`deriveKey` takes (`Growth.grow_empty`), and a key is a front of the row of digests at every size
(`deriveKey_front_of_digests`).
-/

namespace BrokerRelay.Pem

theorem length_digest (message : Bytes) : (Crypto.Md5.digest message).length = 16 := by
  simp [Crypto.Md5.digest]

variable {password salt : Bytes} {size : Nat}

/-- The digests that the bytes of a key come from; none stands before the first one. -/
def keyDigest (password salt : Bytes) : Nat → Bytes
  | 0 => Crypto.Md5.digest (password ++ salt)
  | i + 1 => Crypto.Md5.digest (keyDigest password salt i ++ password ++ salt)

/-- The key of `size` bytes that a password and a salt give. -/
structure DerivedKey (password salt : Bytes) (size : Nat) (key : Bytes) : Prop where
  length_eq : key.length = size
  getElem?_eq : ∀ i < size, key[i]? = (keyDigest password salt (i / 16))[i % 16]?

/-- There is one such key. -/
theorem DerivedKey.unique {key key' : Bytes} (h : DerivedKey password salt size key)
    (h' : DerivedKey password salt size key') : key = key' := by
  apply List.ext_getElem?
  intro i
  by_cases hi : i < size
  · rw [h.getElem?_eq i hi, h'.getElem?_eq i hi]
  · rw [List.getElem?_eq_none (by rw [h.length_eq]; omega),
      List.getElem?_eq_none (by rw [h'.length_eq]; omega)]

/-- The digest that follows a digest. -/
def nextDigest (password salt previous : Bytes) : Bytes :=
  Crypto.Md5.digest (previous ++ password ++ salt)

theorem keyDigest_eq_iterate (i : Nat) :
    keyDigest password salt i = (nextDigest password salt)^[i + 1] [] := by
  induction i with
  | zero => rfl
  | succ i ih =>
    rw [Function.iterate_succ_apply', ← ih]
    rfl

/-- The digests that are computed are the ones after `previous`. -/
theorem keyDigests_eq (count : Nat) (previous : Bytes) :
    keyDigests password salt count previous =
      (List.range count).map fun i => (nextDigest password salt)^[i + 1] previous := by
  induction count generalizing previous with
  | zero => rfl
  | succ count ih =>
    -- the digests behind the first one start from it
    rw [List.range_succ_eq_map, List.map_cons, List.map_map, keyDigests, ih]
    rfl

/-- A byte of rows of sixteen stands in the row and at the place that its index gives. -/
theorem getElem?_flatten_of_rows {rows : List Bytes} (hrows : ∀ row ∈ rows, row.length = 16)
    (i : Nat) : rows.flatten[i]? = (rows[i / 16]?).bind fun row => row[i % 16]? := by
  induction rows generalizing i with
  | nil => rfl
  | cons row rows ih =>
    have hrow := hrows row List.mem_cons_self
    rw [List.flatten_cons]
    by_cases hi : i < 16
    · have hdiv : i / 16 = 0 := Nat.div_eq_of_lt hi
      rw [List.getElem?_append_left (by omega), hdiv, Nat.mod_eq_of_lt hi]
      rfl
    · obtain ⟨j, rfl⟩ := Nat.exists_eq_add_of_le' (Nat.le_of_not_lt hi)
      rw [List.getElem?_append_right (by omega), hrow, Nat.add_sub_cancel,
        ih fun row h => hrows row (List.mem_cons_of_mem _ h), Nat.add_mod_right,
        Nat.add_div_right j (by decide)]
      rfl

theorem length_flatten_of_rows {rows : List Bytes} (hrows : ∀ row ∈ rows, row.length = 16) :
    rows.flatten.length = 16 * rows.length := by
  induction rows with
  | nil => rfl
  | cons row rows ih =>
    rw [List.flatten_cons, List.length_append, hrows row List.mem_cons_self,
      ih fun row h => hrows row (List.mem_cons_of_mem _ h), List.length_cons]
    omega

/-- **The key that is computed is the key of the password and the salt.** -/
theorem derivedKey_deriveKey (password salt : Bytes) (size : Nat) :
    DerivedKey password salt size (deriveKey password salt size) := by
  have hrows : ∀ row ∈ keyDigests password salt ((size + 15) / 16) [], row.length = 16 := by
    intro row hrow
    rw [keyDigests_eq] at hrow
    obtain ⟨i, -, rfl⟩ := List.mem_map.mp hrow
    rw [Function.iterate_succ_apply']
    exact length_digest _
  constructor
  · -- the digests have no fewer bytes than the key
    unfold deriveKey
    rw [List.length_take, length_flatten_of_rows hrows, keyDigests_eq, List.length_map,
      List.length_range]
    omega
  · intro i hi
    unfold deriveKey
    rw [List.getElem?_take_of_lt hi, getElem?_flatten_of_rows hrows, keyDigests_eq,
      List.getElem?_map, List.getElem?_range (by omega), keyDigest_eq_iterate]
    rfl

/-! ## The row of digests -/

/-- The bytes of the first digests, in a row. -/
def digestRow (password salt : Bytes) (count : Nat) : Bytes :=
  (List.range count).flatMap (keyDigest password salt)

theorem length_keyDigest (i : Nat) : (keyDigest password salt i).length = 16 := by
  cases i with
  | zero => exact length_digest _
  | succ i => exact length_digest _

theorem digestRow_succ (count : Nat) :
    digestRow password salt (count + 1) = digestRow password salt count ++ keyDigest password salt count := by
  unfold digestRow
  rw [List.range_succ, List.flatMap_append, List.flatMap_singleton]

theorem length_digestRow (count : Nat) : (digestRow password salt count).length = 16 * count := by
  induction count with
  | zero => rfl
  | succ count ih =>
    rw [digestRow_succ, List.length_append, ih, length_keyDigest]
    omega

theorem flatten_keyDigests (count : Nat) :
    (keyDigests password salt count []).flatten = digestRow password salt count := by
  have hdigest : keyDigest password salt = fun i => (nextDigest password salt)^[i + 1] [] :=
    funext keyDigest_eq_iterate
  rw [keyDigests_eq, digestRow, List.flatMap_def, hdigest]

/-- More digests change nothing in front of them. -/
theorem take_digestRow {count more : Nat} (hle : count ≤ more) (hsize : size ≤ 16 * count) :
    (digestRow password salt more).take size = (digestRow password salt count).take size := by
  induction hle with
  | refl => rfl
  | @step more hle ih =>
    have hfits : size ≤ (digestRow password salt more).length := by
      have hmore : count ≤ more := hle
      rw [length_digestRow]
      omega
    rw [digestRow_succ, List.take_append_of_le_length hfits, ih]

/-- A key is a front of the row, as soon as this has enough bytes. -/
theorem deriveKey_eq_take {count : Nat} (h : size ≤ 16 * count) :
    deriveKey password salt size = (digestRow password salt count).take size := by
  have henough : size ≤ 16 * ((size + 15) / 16) := by omega
  unfold deriveKey
  rw [flatten_keyDigests]
  exact (take_digestRow (by omega) henough).symm

/-! ## Growing a key -/

/-- The material of a key while it grows: the last digest, and all bytes so far. -/
structure Growth where
  digest : Bytes
  bytes : Bytes

namespace Growth

/-- Before the first digest there is nothing. -/
def empty : Growth := ⟨[], []⟩

/-- A round adds the next digest. -/
def next (password salt : Bytes) (g : Growth) : Growth :=
  ⟨nextDigest password salt g.digest, g.bytes ++ nextDigest password salt g.digest⟩

theorem length_next (password salt : Bytes) (g : Growth) :
    (g.next password salt).bytes.length = g.bytes.length + 16 := by
  unfold next nextDigest
  rw [List.length_append, length_digest]

/-- Rounds are made as long as there are too few bytes. -/
def grow (password salt : Bytes) (size : Nat) (g : Growth) : Growth :=
  if g.bytes.length < size then grow password salt size (g.next password salt) else g
termination_by size - g.bytes.length
decreasing_by
  rw [length_next]
  omega

/-- The material after some rounds. -/
def after (password salt : Bytes) (rounds : Nat) : Growth := (next password salt)^[rounds] empty

theorem after_succ (rounds : Nat) :
    after password salt (rounds + 1) = (after password salt rounds).next password salt :=
  Function.iterate_succ_apply' ..

/-- What each round keeps: the last digest has all the others before it, and the bytes are those of the row. -/
theorem after_eq (rounds : Nat) : after password salt rounds =
    ⟨(nextDigest password salt)^[rounds] [], digestRow password salt rounds⟩ := by
  induction rounds with
  | zero => rfl
  | succ rounds ih =>
    have hdigest : nextDigest password salt ((nextDigest password salt)^[rounds] []) =
        keyDigest password salt rounds := by
      rw [keyDigest_eq_iterate, Function.iterate_succ_apply']
    rw [after_succ, ih, next, hdigest, digestRow_succ, keyDigest_eq_iterate]

theorem length_after (rounds : Nat) : (after password salt rounds).bytes.length = 16 * rounds := by
  rw [after_eq]
  exact length_digestRow rounds

/-- Growing goes on to the first round with enough bytes. -/
theorem grow_after {rounds : Nat} (h : rounds ≤ (size + 15) / 16) :
    grow password salt size (after password salt rounds) = after password salt ((size + 15) / 16) := by
  have hlength : (after password salt rounds).bytes.length = 16 * rounds := length_after rounds
  -- by the rounds that are left: one is made while the bytes of those before are too few
  induction hleft : (size + 15) / 16 - rounds generalizing rounds with
  | zero =>
    have henough : ¬(after password salt rounds).bytes.length < size := by omega
    rw [grow, if_neg henough, Nat.le_antisymm h (by omega)]
  | succ left ih =>
    have hfew : (after password salt rounds).bytes.length < size := by omega
    rw [grow, if_pos hfew, ← after_succ]
    exact ih (by omega) (length_after _) (by omega)

theorem grow_empty (password salt : Bytes) (size : Nat) :
    grow password salt size empty = after password salt ((size + 15) / 16) :=
  grow_after (Nat.zero_le _)

end Growth

/-- **A key is a front of the row of digests, at every size.** For every password, salt and size:

* a buffer that is grown until it has that many bytes is grown in ⌈size / 16⌉ rounds, and the key is what
  stands in its front;
* the key is the front of that size of any row of digests that is long enough;
* so it has that size, and a shorter key is a front of a longer one. -/
theorem deriveKey_front_of_digests (password salt : Bytes) (size : Nat) :
    (Growth.grow password salt size .empty = Growth.after password salt ((size + 15) / 16) ∧
      deriveKey password salt size = (Growth.grow password salt size .empty).bytes.take size) ∧
    (∀ count, size ≤ 16 * count →
      deriveKey password salt size = (digestRow password salt count).take size) ∧
    (deriveKey password salt size).length = size ∧
    ∀ shorter, shorter ≤ size →
      deriveKey password salt shorter = (deriveKey password salt size).take shorter := by
  have henough : size ≤ 16 * ((size + 15) / 16) := by omega
  refine ⟨⟨Growth.grow_empty password salt size, ?_⟩, fun count => deriveKey_eq_take,
    (derivedKey_deriveKey password salt size).length_eq, fun shorter hle => ?_⟩
  · rw [Growth.grow_empty, Growth.after_eq]
    exact deriveKey_eq_take henough
  · rw [deriveKey_eq_take henough, List.take_take, Nat.min_eq_left hle]
    exact deriveKey_eq_take (Nat.le_trans hle henough)

/-- The key of 24 bytes is a front of two digests, and has the key of 20 bytes in its front. -/
theorem deriveKey_front_of_two_digests :
    let password := Bytes.encodeUtf8 "password"
    24 ≤ 16 * 2 ∧ 20 ≤ 24 ∧
      deriveKey password [0, 1, 2, 3, 4, 5, 6, 7] 24 =
        (digestRow password [0, 1, 2, 3, 4, 5, 6, 7] 2).take 24 ∧
      deriveKey password [0, 1, 2, 3, 4, 5, 6, 7] 20 =
        (deriveKey password [0, 1, 2, 3, 4, 5, 6, 7] 24).take 20 := by
  intro password
  obtain ⟨-, hrow, -, hshorter⟩ := deriveKey_front_of_digests password [0, 1, 2, 3, 4, 5, 6, 7] 24
  exact ⟨by decide, by decide, hrow 2 (by decide), hshorter 20 (by decide)⟩

example : deriveKey (Bytes.encodeUtf8 "password") [0, 1, 2, 3, 4, 5, 6, 7] 32 =
    [0xb0, 0x30, 0x96, 0x34, 0x5e, 0x80, 0x5d, 0x3a, 0xa4, 0x39, 0x2d, 0x2e, 0x72, 0x79, 0x1d, 0xfb,
      0x13, 0xe1, 0x2d, 0x3f, 0x61, 0x09, 0x4a, 0x3f, 0xc3, 0x47, 0xac, 0xe8, 0x6b, 0x99, 0xad, 0xa6] := by
  decide +kernel

end BrokerRelay.Pem
