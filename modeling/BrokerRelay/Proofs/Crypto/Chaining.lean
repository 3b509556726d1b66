import Mathlib.Tactic.Common
import BrokerRelay.Crypto.BlockCipher
/-!
# Chaining is undone

A block cipher under a key is undone by its decryption if it takes blocks to blocks and decryption takes
them back (`BlockCipher.Inverts`). Chaining and padding then carry this from blocks to texts of any
length: `decryptText?_encryptText`.

Decryption is also defined on texts that no encryption made. `BlockCipher.Unchained` and `Padded` say
block by block and byte by byte what it is and when it has no result: `decryptText?_eq_some_iff`.
-/

namespace BrokerRelay.Crypto

/-! ## §1 Combining byte strings -/

@[simp]
theorem length_xor (a b : Bytes) : (xor a b).length = min a.length b.length :=
  List.length_zipWith

theorem xor_comm (a b : Bytes) : xor a b = xor b a :=
  List.zipWith_comm_of_comm fun x y => UInt8.xor_comm x y

/-- What was combined with a byte string comes back when it is combined with it once more. -/
theorem xor_xor_cancel_right {a b : Bytes} (h : a.length ≤ b.length) : xor (xor a b) b = a := by
  induction a generalizing b with
  | nil => rfl
  | cons x a ih =>
    cases b with
    | nil => simp at h
    | cons y b =>
      have hhead : (x ^^^ y) ^^^ y = x := by rw [UInt8.xor_assoc, UInt8.xor_self, UInt8.xor_zero]
      exact congrArg₂ List.cons hhead (ih (Nat.le_of_succ_le_succ h))

theorem xor_xor_cancel_left {a b : Bytes} (h : b.length ≤ a.length) : xor a (xor a b) = b := by
  rw [xor_comm a (xor a b), xor_comm a b, xor_xor_cancel_right h]

/-! ## §2 Padding -/

theorem length_padTo {size : Nat} (hsize : 0 < size) (text : Bytes) :
    (padTo size text).length = (text.length / size + 1) * size := by
  have hdiv := Nat.div_add_mod text.length size
  have hmod := Nat.mod_lt text.length hsize
  unfold padTo
  rw [List.length_append, List.length_replicate, Nat.add_mul, Nat.one_mul, Nat.mul_comm _ size]
  omega

/-- A text with its last block of `size` bytes filled: each added byte says how many were added, and at
least one and at most a whole block is. -/
def Padded (size : Nat) (text padded : Bytes) : Prop :=
  ∃ n, 0 < n ∧ n ≤ size ∧ padded = text ++ List.replicate n (UInt8.ofNat n)

/-- Padding is removed exactly where there is some. -/
theorem unpad?_eq_some_iff {size : Nat} (hbyte : size < 256) {text padded : Bytes} :
    unpad? size padded = some text ↔ Padded size text padded := by
  constructor
  · intro h
    unfold unpad? at h
    split at h
    · cases h
    · rename_i last hlast
      obtain ⟨⟨hpos, hle, -, hdrop⟩, htake⟩ := Option.ite_none_right_eq_some.mp h
      refine ⟨last.toNat, hpos, hle, ?_⟩
      rw [← Option.some.inj htake, UInt8.ofNat_toNat, ← hdrop, List.take_append_drop]
  · rintro ⟨n, hpos, hle, rfl⟩
    have hvalue : (UInt8.ofNat n).toNat = n :=
      UInt8.toNat_ofNat_of_lt' (Nat.lt_of_le_of_lt hle hbyte)
    have hlast : (text ++ List.replicate n (UInt8.ofNat n)).getLast? = some (UInt8.ofNat n) := by
      rw [List.getLast?_append, List.getLast?_replicate, if_neg (Nat.ne_of_gt hpos)]
      rfl
    have hlength : (text ++ List.replicate n (UInt8.ofNat n)).length = text.length + n := by simp
    unfold unpad?
    rw [hlast]
    dsimp only
    rw [hvalue, hlength, Nat.add_sub_cancel, List.drop_left, List.take_left]
    exact if_pos ⟨hpos, hle, Nat.le_add_left n _, rfl⟩

/-- What was padded is known. -/
theorem Padded.unique {size : Nat} (hbyte : size < 256) {text text' padded : Bytes}
    (h : Padded size text padded) (h' : Padded size text' padded) : text = text' := by
  have hunpad := (unpad?_eq_some_iff hbyte).mpr h
  rw [(unpad?_eq_some_iff hbyte).mpr h'] at hunpad
  exact (Option.some.inj hunpad).symm

/-- Padding is removed without a trace, at every length of the text. -/
theorem unpad?_padTo {size : Nat} (hsize : 0 < size) (hbyte : size < 256) (text : Bytes) :
    unpad? size (padTo size text) = some text := by
  -- at least one byte is added, and a whole block where nothing is missing
  have hmod := Nat.mod_lt text.length hsize
  exact (unpad?_eq_some_iff hbyte).mpr ⟨size - text.length % size, by omega, by omega, rfl⟩

/-! ## §3 Chains -/

namespace BlockCipher

/-- Under a key, blocks are encrypted to blocks and decrypted to what they were. -/
structure Inverts (cipher : BlockCipher) (key : cipher.Key) : Prop where
  length_encrypt : ∀ block : Bytes, block.length = cipher.blockSize →
    (cipher.encrypt key block).length = cipher.blockSize
  decrypt_encrypt : ∀ block : Bytes, block.length = cipher.blockSize →
    cipher.decrypt key (cipher.encrypt key block) = block

variable {cipher : BlockCipher} {key : cipher.Key}

/-- A block combined with the one before it is a block. -/
theorem length_xor_take {count : Nat} {previous text : Bytes}
    (hprevious : previous.length = cipher.blockSize)
    (htext : text.length = (count + 1) * cipher.blockSize) :
    (xor previous (text.take cipher.blockSize)).length = cipher.blockSize := by
  rw [Nat.add_mul, Nat.one_mul] at htext
  rw [length_xor, List.length_take]
  omega

theorem Inverts.length_chain (h : cipher.Inverts key) (count : Nat) {previous text : Bytes}
    (hprevious : previous.length = cipher.blockSize) (htext : text.length = count * cipher.blockSize) :
    (cipher.chain key count previous text).length = count * cipher.blockSize := by
  induction count generalizing previous text with
  | zero => simp [chain]
  | succ count ih =>
    have hblock := h.length_encrypt _ (length_xor_take hprevious htext)
    have hrest : (text.drop cipher.blockSize).length = count * cipher.blockSize := by
      rw [List.length_drop, htext, Nat.add_mul, Nat.one_mul, Nat.add_sub_cancel]
    unfold chain
    rw [List.length_append, hblock, ih hblock hrest, Nat.add_mul, Nat.one_mul, Nat.add_comm]

/-- A chain of blocks is undone: each block that is decrypted was combined with the encrypted one
before it, which stands in the text. -/
theorem Inverts.unchain_chain (h : cipher.Inverts key) (count : Nat) {previous text : Bytes}
    (hprevious : previous.length = cipher.blockSize) (htext : text.length = count * cipher.blockSize) :
    cipher.unchain key count previous (cipher.chain key count previous text) = text := by
  induction count generalizing previous text with
  | zero =>
    rw [Nat.zero_mul] at htext
    rw [List.length_eq_zero_iff.mp htext]
    rfl
  | succ count ih =>
    have hxor := length_xor_take hprevious htext
    have hblock := h.length_encrypt _ hxor
    have hrest : (text.drop cipher.blockSize).length = count * cipher.blockSize := by
      rw [List.length_drop, htext, Nat.add_mul, Nat.one_mul, Nat.add_sub_cancel]
    have htake : (text.take cipher.blockSize).length ≤ previous.length := by
      rw [hprevious]
      exact List.length_take_le _ _
    -- what stands in front of the rest of the chain is the block that the rest was combined with
    unfold chain unchain
    dsimp only
    rw [List.take_left' hblock, List.drop_left' hblock, h.decrypt_encrypt _ hxor,
      xor_xor_cancel_left htake, ih hblock hrest, List.take_append_drop]

/-- The blocks of a padded text, and how many there are. -/
theorem length_padTo_div {size : Nat} (hsize : 0 < size) (text : Bytes) :
    (padTo size text).length = (padTo size text).length / size * size := by
  rw [length_padTo hsize, Nat.mul_div_cancel _ hsize]

/-- **Decryption of a text undoes its encryption**, whatever the length of the text. -/
theorem decryptText?_encryptText {rawKey iv : Bytes} (h : cipher.Inverts (cipher.expand rawKey))
    (hpos : 0 < cipher.blockSize) (hbyte : cipher.blockSize < 256)
    (hiv : iv.length = cipher.blockSize) (text : Bytes) :
    cipher.decryptText? rawKey iv (cipher.encryptText rawKey iv text) = some text := by
  have hpadded := length_padTo_div hpos text
  have hlength : (cipher.encryptText rawKey iv text).length =
      (text.length / cipher.blockSize + 1) * cipher.blockSize := by
    rw [← length_padTo hpos]
    exact (h.length_chain _ hiv hpadded).trans hpadded.symm
  -- also an empty text has a block of padding
  have hne : cipher.encryptText rawKey iv text ≠ [] := by
    intro hnil
    rw [hnil, List.length_nil] at hlength
    exact absurd hlength.symm (Nat.mul_ne_zero (Nat.succ_ne_zero _) (Nat.ne_of_gt hpos))
  have hcount : (cipher.encryptText rawKey iv text).length / cipher.blockSize =
      (padTo cipher.blockSize text).length / cipher.blockSize := by
    rw [hlength, length_padTo hpos]
  have hwhole : (cipher.encryptText rawKey iv text).length % cipher.blockSize = 0 := by
    rw [hlength, Nat.mul_mod_left]
  unfold decryptText?
  rw [if_neg (by simp [hne, hwhole]), hcount]
  unfold encryptText
  rw [h.unchain_chain _ hiv hpadded, unpad?_padTo hpos hbyte]

/-! ## §4 Decryption of any text -/

/-- The block with the number `i`, from zero on. -/
def blockAt (cipher : BlockCipher) (i : Nat) (text : Bytes) : Bytes :=
  (text.drop (i * cipher.blockSize)).take cipher.blockSize

theorem blockAt_zero (text : Bytes) : cipher.blockAt 0 text = text.take cipher.blockSize := by
  rw [blockAt, Nat.zero_mul, List.drop_zero]

theorem blockAt_succ (i : Nat) (text : Bytes) :
    cipher.blockAt (i + 1) text = cipher.blockAt i (text.drop cipher.blockSize) := by
  rw [blockAt, blockAt, List.drop_drop, Nat.add_mul, Nat.one_mul, Nat.add_comm]

/-- Behind a first block the others follow. -/
theorem blockAt_succ_append {first : Bytes} (hfirst : first.length = cipher.blockSize) (i : Nat)
    (text : Bytes) : cipher.blockAt (i + 1) (first ++ text) = cipher.blockAt i text := by
  rw [blockAt_succ, List.drop_left' hfirst]

/-- Texts of whole blocks are equal if their blocks are. -/
theorem eq_of_blockAt {count : Nat} {text text' : Bytes}
    (htext : text.length = count * cipher.blockSize)
    (htext' : text'.length = count * cipher.blockSize)
    (h : ∀ i < count, cipher.blockAt i text = cipher.blockAt i text') : text = text' := by
  induction count generalizing text text' with
  | zero =>
    rw [Nat.zero_mul] at htext htext'
    rw [List.length_eq_zero_iff.mp htext, List.length_eq_zero_iff.mp htext']
  | succ count ih =>
    have hrest : ∀ {t : Bytes}, t.length = (count + 1) * cipher.blockSize →
        (t.drop cipher.blockSize).length = count * cipher.blockSize := by
      intro t ht
      rw [List.length_drop, ht, Nat.add_mul, Nat.one_mul, Nat.add_sub_cancel]
    have hfirst := h 0 (Nat.succ_pos count)
    rw [blockAt_zero, blockAt_zero] at hfirst
    have htail := ih (hrest htext) (hrest htext') fun i hi => by
      have hnext := h (i + 1) (Nat.succ_lt_succ hi)
      rwa [blockAt_succ, blockAt_succ] at hnext
    rw [← List.take_append_drop cipher.blockSize text, hfirst, htail, List.take_append_drop]

/-- The decryption of a chain of blocks, also of one that no encryption made: each block is decrypted
and combined with the encrypted one before it, the first with the initial vector. -/
structure Unchained (cipher : BlockCipher) (key : cipher.Key) (iv text plain : Bytes) : Prop where
  length_eq : plain.length = text.length
  blockAt_eq : ∀ i < text.length / cipher.blockSize, cipher.blockAt i plain =
    xor (cipher.blockAt i (iv ++ text)) (cipher.decrypt key (cipher.blockAt i text))

/-- Under a key, blocks are decrypted to blocks. -/
def KeepsBlocks (cipher : BlockCipher) (key : cipher.Key) : Prop :=
  ∀ block : Bytes, block.length = cipher.blockSize →
    (cipher.decrypt key block).length = cipher.blockSize

/-- The blocks of what is computed. -/
theorem KeepsBlocks.blockAt_unchain (h : cipher.KeepsBlocks key) (count : Nat) {iv text : Bytes}
    (hiv : iv.length = cipher.blockSize) (htext : text.length = count * cipher.blockSize) :
    (cipher.unchain key count iv text).length = count * cipher.blockSize ∧
      ∀ i < count, cipher.blockAt i (cipher.unchain key count iv text) =
        xor (cipher.blockAt i (iv ++ text)) (cipher.decrypt key (cipher.blockAt i text)) := by
  induction count generalizing iv text with
  | zero => exact ⟨by simp [unchain], nofun⟩
  | succ count ih =>
    rw [Nat.add_mul, Nat.one_mul] at htext
    have hblock : (text.take cipher.blockSize).length = cipher.blockSize :=
      List.length_take_of_le (by omega)
    have hrest : (text.drop cipher.blockSize).length = count * cipher.blockSize := by
      rw [List.length_drop, htext, Nat.add_sub_cancel]
    have hplain : (xor iv (cipher.decrypt key (text.take cipher.blockSize))).length =
        cipher.blockSize := by
      rw [length_xor, hiv, h _ hblock, Nat.min_self]
    obtain ⟨hlength, hblocks⟩ := ih hblock hrest
    unfold unchain
    dsimp only
    refine ⟨?_, ?_⟩
    · rw [List.length_append, hplain, hlength, Nat.add_mul, Nat.one_mul, Nat.add_comm]
    · intro i hi
      cases i with
      | zero =>
        rw [blockAt_zero, blockAt_zero, blockAt_zero, List.take_left' hplain, List.take_left' hiv]
      | succ i =>
        -- the rest starts from the encrypted block, which stands in front of it in the text
        rw [blockAt_succ_append hplain, blockAt_succ_append hiv, blockAt_succ i text,
          hblocks i (Nat.lt_of_succ_lt_succ hi), List.take_append_drop]

/-- What is computed of whole blocks is their decryption, and nothing else is. -/
theorem KeepsBlocks.unchained_iff (h : cipher.KeepsBlocks key) {iv text plain : Bytes}
    (hiv : iv.length = cipher.blockSize) (hwhole : text.length % cipher.blockSize = 0) :
    cipher.Unchained key iv text plain ↔
      plain = cipher.unchain key (text.length / cipher.blockSize) iv text := by
  have htext : text.length = text.length / cipher.blockSize * cipher.blockSize :=
    (Nat.div_mul_cancel (Nat.dvd_of_mod_eq_zero hwhole)).symm
  obtain ⟨hlength, hblocks⟩ := h.blockAt_unchain _ hiv htext
  constructor
  · rintro ⟨hplain, hsame⟩
    refine eq_of_blockAt (hplain.trans htext) hlength fun i hi => ?_
    rw [hsame i hi, hblocks i hi]
  · rintro rfl
    exact ⟨hlength.trans htext.symm, hblocks⟩

/-- Whole blocks have one decryption. -/
theorem KeepsBlocks.unchained_unique (h : cipher.KeepsBlocks key) {iv text plain plain' : Bytes}
    (hiv : iv.length = cipher.blockSize) (hwhole : text.length % cipher.blockSize = 0)
    (hplain : cipher.Unchained key iv text plain) (hplain' : cipher.Unchained key iv text plain') :
    plain = plain' :=
  ((h.unchained_iff hiv hwhole).mp hplain).trans ((h.unchained_iff hiv hwhole).mp hplain').symm

/-- **A text is decrypted if it has whole blocks, at least one, and its decryption is padded**; the
text without the padding comes out. -/
theorem KeepsBlocks.decryptText?_eq_some_iff {rawKey iv text plain : Bytes}
    (h : cipher.KeepsBlocks (cipher.expand rawKey)) (hbyte : cipher.blockSize < 256)
    (hiv : iv.length = cipher.blockSize) :
    cipher.decryptText? rawKey iv text = some plain ↔
      text ≠ [] ∧ text.length % cipher.blockSize = 0 ∧
        ∃ padded, cipher.Unchained (cipher.expand rawKey) iv text padded ∧
          Padded cipher.blockSize plain padded := by
  unfold decryptText?
  rw [Option.ite_none_left_eq_some, unpad?_eq_some_iff hbyte, not_or, not_not, and_assoc]
  refine and_congr_right fun _ => and_congr_right fun hwhole => ?_
  simp only [h.unchained_iff hiv hwhole, exists_eq_left]

end BlockCipher

end BrokerRelay.Crypto
