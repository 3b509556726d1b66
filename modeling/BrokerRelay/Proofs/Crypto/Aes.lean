import Mathlib.Data.List.GetD
import BrokerRelay.Crypto.Aes
import BrokerRelay.Proofs.Crypto.Chaining
/-!
# AES decryption undoes encryption

Each step of a round is undone by its counterpart. For the substitution and for the products that mixing
a column comes down to, this is a statement about one byte and is checked for all of them
(`forall_byte`); mixing is additive, so a whole column follows. The rounds are undone by
induction on the round keys, of which only the length matters (`aes_inverts`).
-/

namespace BrokerRelay.Crypto.Aes

/-- What holds of the first 256 numbers as bytes holds of every byte. -/
theorem forall_byte {P : UInt8 → Prop} (h : ∀ i : Fin 256, P (UInt8.ofNat i)) (b : UInt8) : P b := by
  have hb := h ⟨b.toNat, b.toNat_lt⟩
  rwa [UInt8.ofNat_toNat] at hb

/-! ## §1 Substitution and shifts -/

theorem unsubstitute_substitute (b : UInt8) : unsubstitute (substitute b) = b :=
  forall_byte (P := fun b => unsubstitute (substitute b) = b) (by decide +kernel) b

theorem map_unsubstitute_substitute (state : Bytes) :
    (state.map substitute).map unsubstitute = state := by
  have hid : unsubstitute ∘ substitute = id := by
    funext b
    rw [Function.comp_apply, unsubstitute_substitute, id_eq]
  rw [List.map_map, hid, List.map_id]

@[simp]
theorem length_shiftRows (state : Bytes) : (shiftRows state).length = state.length := by
  unfold shiftRows
  split <;> rfl

@[simp]
theorem length_unshiftRows (state : Bytes) : (unshiftRows state).length = state.length := by
  unfold unshiftRows
  split <;> rfl

theorem unshiftRows_shiftRows (state : Bytes) : unshiftRows (shiftRows state) = state := by
  unfold shiftRows
  split
  · rfl
  · -- a state of another size is left as it is by both
    rename_i hsize
    unfold unshiftRows
    split
    · exact absurd rfl (hsize _ _ _ _ _ _ _ _ _ _ _ _ _ _ _ _)
    · rfl

/-! ## §2 Mixing -/

/-- The bit that leaves a byte when it is doubled, brought back in. -/
theorem carry_xor (a b : UInt8) :
    (if (a ^^^ b) &&& 0x80 = 0 then 0 else 0x1b : UInt8) =
      (if a &&& 0x80 = 0 then 0 else 0x1b) ^^^ (if b &&& 0x80 = 0 then 0 else 0x1b) := by
  have hbit : ∀ c : UInt8, c &&& 0x80 = 0 ∨ c &&& 0x80 = 0x80 := forall_byte (by decide +kernel)
  have hxor : (a ^^^ b) &&& 0x80 = (a &&& 0x80) ^^^ (b &&& 0x80) :=
    UInt8.toNat_inj.mp (by simp [Nat.and_xor_distrib_right])
  rw [hxor]
  rcases hbit a with ha | ha <;> rcases hbit b with hb | hb <;> rw [ha, hb] <;> decide

theorem double_xor (a b : UInt8) : double (a ^^^ b) = double a ^^^ double b := by
  unfold double
  rw [UInt8.shiftLeft_xor, carry_xor]
  ac_rfl

/-- Products are additive. -/
theorem times_xor (n : Nat) (a b : UInt8) : times n (a ^^^ b) = times n a ^^^ times n b := by
  have hite : ∀ (c : Prop) [Decidable c] (x y : UInt8),
      (if c then x ^^^ y else 0) = (if c then x else 0) ^^^ (if c then y else 0) := by
    intro c _ x y
    split <;> simp
  -- a product is a sum of doublings, each of which is additive
  unfold times
  simp only [double_xor, hite]
  ac_rfl

/-- What the row `p q r s` makes of the column that mixing turns a single first byte into. -/
def unmixed (p q r s : Nat) (b : UInt8) : UInt8 :=
  times p (times 2 b) ^^^ times q (times 1 b) ^^^ times r (times 1 b) ^^^ times s (times 3 b)

/-- A row times a mixed column, taken apart into the bytes of the column: mixing treats them alike but
for the place where they start. -/
theorem row_mixed (p q r s : Nat) (a b c d : UInt8) :
    times p (times 2 a ^^^ times 3 b ^^^ times 1 c ^^^ times 1 d)
        ^^^ times q (times 1 a ^^^ times 2 b ^^^ times 3 c ^^^ times 1 d)
        ^^^ times r (times 1 a ^^^ times 1 b ^^^ times 2 c ^^^ times 3 d)
        ^^^ times s (times 3 a ^^^ times 1 b ^^^ times 1 c ^^^ times 2 d) =
      unmixed p q r s a ^^^ unmixed q r s p b ^^^ unmixed r s p q c ^^^ unmixed s p q r d := by
  unfold unmixed
  simp only [times_xor]
  ac_rfl

/-- The rows that undo mixing give a byte back in its own place and nothing in the others. -/
theorem unmixed_eq (b : UInt8) :
    unmixed 14 11 13 9 b = b ∧ unmixed 11 13 9 14 b = 0 ∧ unmixed 13 9 14 11 b = 0 ∧
      unmixed 9 14 11 13 b = 0 := by
  refine forall_byte (P := fun b => unmixed 14 11 13 9 b = b ∧ unmixed 11 13 9 14 b = 0 ∧
    unmixed 13 9 14 11 b = 0 ∧ unmixed 9 14 11 13 b = 0) ?_ b
  decide +kernel

@[simp]
theorem length_mixColumn (p q r s : Nat) (column : Bytes) :
    (mixColumn p q r s column).length = column.length := by
  unfold mixColumn
  split <;> rfl

theorem unmixColumn_mixColumn (column : Bytes) :
    mixColumn 14 11 13 9 (mixColumn 2 3 1 1 column) = column := by
  match column with
  | [a, b, c, d] =>
    simp only [mixColumn, row_mixed, unmixed_eq, UInt8.xor_zero, UInt8.zero_xor]
  | [] | [_] | [_, _] | [_, _, _] | _ :: _ :: _ :: _ :: _ :: _ => rfl

theorem onColumns_append (f : Bytes → Bytes) {a b c : Bytes} (ha : a.length = 4) (hb : b.length = 4)
    (hc : c.length = 4) (d : Bytes) :
    onColumns f (a ++ b ++ c ++ d) = f a ++ f b ++ f c ++ f d := by
  have h8 : (a ++ b).length = 8 := by rw [List.length_append, ha, hb]
  have h12 : (a ++ b ++ c).length = 12 := by rw [List.length_append, h8, hc]
  have htake : (a ++ b ++ c ++ d).take 4 = a := by
    rw [List.append_assoc, List.append_assoc, List.take_left' ha]
  have hdrop4 : (a ++ b ++ c ++ d).drop 4 = b ++ (c ++ d) := by
    rw [List.append_assoc, List.append_assoc, List.drop_left' ha]
  have hdrop8 : (a ++ b ++ c ++ d).drop 8 = c ++ d := by
    rw [List.append_assoc (a ++ b), List.drop_left' h8]
  unfold onColumns
  rw [htake, hdrop4, hdrop8, List.take_left' hb, List.take_left' hc, List.drop_left' h12]

/-- Functions that keep the length of a column can be applied to a block one after the other. -/
theorem onColumns_onColumns {f g : Bytes → Bytes} (hf : ∀ column, (f column).length = column.length)
    {state : Bytes} (hstate : state.length = 16) :
    onColumns g (onColumns f state) = onColumns (fun column => g (f column)) state := by
  have hfour : ∀ n ≤ 12, (f ((state.drop n).take 4)).length = 4 := by
    intro n hn
    rw [hf, List.length_take, List.length_drop]
    omega
  exact onColumns_append g (hfour 0 (by decide)) (hfour 4 (by decide)) (hfour 8 (by decide)) _

theorem onColumns_id (state : Bytes) : onColumns (fun column => column) state = state := by
  have h8 : (state.drop 4).drop 4 = state.drop 8 := List.drop_drop
  have h12 : (state.drop 8).drop 4 = state.drop 12 := List.drop_drop
  unfold onColumns
  rw [List.append_assoc, List.append_assoc, ← h12, List.take_append_drop, ← h8, List.take_append_drop,
    List.take_append_drop]

theorem length_onColumns {f : Bytes → Bytes} (hf : ∀ column, (f column).length = column.length)
    (state : Bytes) : (onColumns f state).length = state.length := by
  rw [← congrArg List.length (onColumns_id state)]
  unfold onColumns
  simp only [List.length_append, hf]

theorem unmixColumns_mixColumns {state : Bytes} (h : state.length = 16) :
    unmixColumns (mixColumns state) = state := by
  unfold unmixColumns mixColumns
  rw [onColumns_onColumns (length_mixColumn 2 3 1 1) h]
  simp only [unmixColumn_mixColumn, onColumns_id]

@[simp]
theorem length_mixColumns (state : Bytes) : (mixColumns state).length = state.length :=
  length_onColumns (length_mixColumn 2 3 1 1) state

@[simp]
theorem length_unmixColumns (state : Bytes) : (unmixColumns state).length = state.length :=
  length_onColumns (length_mixColumn 14 11 13 9) state

/-! ## §3 Round keys -/

/-- The words of a key are as many as stated, each of four bytes. -/
theorem words_spec {n : Nat} {key : Bytes} (hkey : key.length = 4 * n) :
    (words n key).length = n ∧ ∀ w ∈ words n key, w.length = 4 := by
  induction n generalizing key with
  | zero => exact ⟨rfl, by simp [words]⟩
  | succ n ih =>
    have hrest : (key.drop 4).length = 4 * n := by
      rw [List.length_drop]
      omega
    obtain ⟨hlength, hall⟩ := ih hrest
    refine ⟨congrArg Nat.succ hlength, ?_⟩
    intro w hw
    rcases List.mem_cons.mp hw with rfl | hw
    · rw [List.length_take]
      omega
    · exact hall w hw

@[simp]
theorem length_rotateWord (w : Bytes) : (rotateWord w).length = w.length := by
  cases w with
  | nil => rfl
  | cons b w => simp [rotateWord]

/-- Words that are added to a key have four bytes, like those that they are made of. -/
theorem length_of_mem_extendWords {size : Nat} (hsize : 0 < size) (count : Nat) {ws : List Bytes}
    (hws : size ≤ ws.length) (hall : ∀ w ∈ ws, w.length = 4) :
    ∀ w ∈ extendWords size count ws, w.length = 4 := by
  induction count generalizing ws with
  | zero => exact hall
  | succ count ih =>
    -- a new word comes from the last one and from the one a key's length before it
    have hlast : (ws.headD []).length = 4 := by
      cases ws with
      | nil => exact absurd hws (by simpa using Nat.ne_of_gt hsize)
      | cons w ws => exact hall w List.mem_cons_self
    have hearlier : (ws.getD (size - 1) []).length = 4 := by
      have hlt : size - 1 < ws.length := by omega
      rw [List.getD_eq_getElem ws [] hlt]
      exact hall _ (List.getElem_mem hlt)
    unfold extendWords
    dsimp only
    refine ih (Nat.le_trans hws (Nat.le_succ _)) ?_
    intro w hw
    rcases List.mem_cons.mp hw with rfl | hw
    · rw [length_xor, hearlier]
      split
      · rw [length_xor, List.length_map, length_rotateWord, hlast]
        rfl
      · split
        · rw [List.length_map, hlast, Nat.min_self]
        · rw [hlast, Nat.min_self]
    · exact hall w hw

theorem length_of_mem_joinWords {ws : List Bytes} (hall : ∀ w ∈ ws, w.length = 4) :
    ∀ key ∈ joinWords ws, key.length = 16 := by
  fun_induction joinWords ws with
  | case1 a b c d rest ih =>
    intro key hkey
    rcases List.mem_cons.mp hkey with rfl | hkey
    · simp [hall a, hall b, hall c, hall d]
    · exact ih (fun w hw => hall w (by simp [hw])) key hkey
  | case2 => simp

/-- Every round key is as long as a block. -/
theorem length_of_mem_roundKeys {size : Nat} (hsize : 0 < size) {key : Bytes}
    (hkey : key.length = 4 * size) : ∀ k ∈ roundKeys size key, k.length = 16 := by
  obtain ⟨hlength, hall⟩ := words_spec hkey
  apply length_of_mem_joinWords
  intro w hw
  refine length_of_mem_extendWords hsize _ ?_ ?_ w (List.mem_reverse.mp hw)
  · exact Nat.le_of_eq (List.length_reverse.trans hlength).symm
  · exact fun w hw => hall w (List.mem_reverse.mp hw)

/-! ## §4 Rounds -/

theorem length_encryptRounds {keys : List Bytes} (hkeys : ∀ k ∈ keys, k.length = 16) {state : Bytes}
    (hstate : state.length = 16) : (encryptRounds state keys).length = 16 := by
  fun_induction encryptRounds state keys with
  | case1 => exact hstate
  | case2 state last => simp [hkeys last List.mem_cons_self, hstate]
  | case3 state key keys hne ih =>
    apply ih fun k hk => hkeys k (List.mem_cons_of_mem _ hk)
    simp [hkeys key List.mem_cons_self, hstate]

/-- The rounds are undone from the last one on. -/
theorem decryptRounds_encryptRounds {keys : List Bytes} (hkeys : ∀ k ∈ keys, k.length = 16)
    {state : Bytes} (hstate : state.length = 16) :
    decryptRounds (encryptRounds state keys) keys = state := by
  fun_induction encryptRounds state keys with
  | case1 => rfl
  | case2 state last =>
    have hlast := hkeys last List.mem_cons_self
    unfold decryptRounds
    rw [xor_xor_cancel_right (by simp [hstate, hlast]), unshiftRows_shiftRows,
      map_unsubstitute_substitute]
  | case3 state key keys hne ih =>
    have hkey := hkeys key List.mem_cons_self
    have hmixed : (shiftRows (state.map substitute)).length = 16 := by simp [hstate]
    -- the later rounds first, then the steps of this one in reverse order
    rw [decryptRounds.eq_3 _ _ _ hne, ih (fun k hk => hkeys k (List.mem_cons_of_mem _ hk))
      (by simp [hstate, hkey]), xor_xor_cancel_right (by simp [hstate, hkey]),
      unmixColumns_mixColumns hmixed, unshiftRows_shiftRows, map_unsubstitute_substitute]

theorem length_encryptBlock {keys : List Bytes} (hkeys : ∀ k ∈ keys, k.length = 16) {state : Bytes}
    (hstate : state.length = 16) : (encryptBlock keys state).length = 16 := by
  unfold encryptBlock
  cases keys with
  | nil => exact hstate
  | cons first rest =>
    apply length_encryptRounds fun k hk => hkeys k (List.mem_cons_of_mem _ hk)
    simp [hstate, hkeys first List.mem_cons_self]

theorem decryptBlock_encryptBlock {keys : List Bytes} (hkeys : ∀ k ∈ keys, k.length = 16)
    {state : Bytes} (hstate : state.length = 16) :
    decryptBlock keys (encryptBlock keys state) = state := by
  unfold decryptBlock encryptBlock
  cases keys with
  | nil => rfl
  | cons first rest =>
    have hfirst := hkeys first List.mem_cons_self
    dsimp only
    rw [decryptRounds_encryptRounds (fun k hk => hkeys k (List.mem_cons_of_mem _ hk))
      (by simp [hstate, hfirst]), xor_xor_cancel_right (by simp [hstate, hfirst])]

theorem length_decryptRounds {keys : List Bytes} (hkeys : ∀ k ∈ keys, k.length = 16) {state : Bytes}
    (hstate : state.length = 16) : (decryptRounds state keys).length = 16 := by
  fun_induction decryptRounds state keys with
  | case1 => exact hstate
  | case2 last => simp [hkeys last List.mem_cons_self, hstate]
  | case3 key keys hne ih =>
    have hrest := ih fun k hk => hkeys k (List.mem_cons_of_mem _ hk)
    simp [hkeys key List.mem_cons_self, hrest]

theorem length_decryptBlock {keys : List Bytes} (hkeys : ∀ k ∈ keys, k.length = 16) {state : Bytes}
    (hstate : state.length = 16) : (decryptBlock keys state).length = 16 := by
  unfold decryptBlock
  cases keys with
  | nil => exact hstate
  | cons first rest =>
    have hrest := length_decryptRounds (fun k hk => hkeys k (List.mem_cons_of_mem _ hk)) hstate
    simp [hrest, hkeys first List.mem_cons_self]

end Aes

/-- **AES decrypts what it encrypted**, under every key of the right length. -/
theorem aes_inverts {size : Nat} (hsize : 0 < size) {key : Bytes} (hkey : key.length = 4 * size) :
    (aes size).Inverts ((aes size).expand key) where
  length_encrypt _ hblock := Aes.length_encryptBlock (Aes.length_of_mem_roundKeys hsize hkey) hblock
  decrypt_encrypt _ hblock :=
    Aes.decryptBlock_encryptBlock (Aes.length_of_mem_roundKeys hsize hkey) hblock

/-- AES decrypts blocks to blocks. -/
theorem aes_keepsBlocks {size : Nat} (hsize : 0 < size) {key : Bytes} (hkey : key.length = 4 * size) :
    (aes size).KeepsBlocks ((aes size).expand key) :=
  fun _ hblock => Aes.length_decryptBlock (Aes.length_of_mem_roundKeys hsize hkey) hblock

-- the test block that is published for a key of four words
example :
    Aes.encryptBlock (Aes.roundKeys 4 ((List.range 16).map UInt8.ofNat))
        [0x00, 0x11, 0x22, 0x33, 0x44, 0x55, 0x66, 0x77, 0x88, 0x99, 0xaa, 0xbb, 0xcc, 0xdd, 0xee, 0xff] =
      [0x69, 0xc4, 0xe0, 0xd8, 0x6a, 0x7b, 0x04, 0x30, 0xd8, 0xcd, 0xb7, 0x80, 0x70, 0xb4, 0xc5, 0x5a] := by
  decide +kernel

end BrokerRelay.Crypto
