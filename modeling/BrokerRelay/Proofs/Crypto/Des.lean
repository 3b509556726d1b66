import Mathlib.Data.List.GetD
import Mathlib.Data.List.Induction
import Mathlib.Algebra.Group.Nat.Defs
import Mathlib.Tactic.Common
import BrokerRelay.Crypto.Des
import BrokerRelay.Proofs.Bytes.Number
import BrokerRelay.Proofs.Crypto.Chaining
/-!
# DES decryption undoes encryption

A permutation of a word is known by where each bit of its result comes from (`testBit_permute`), so that
the permutations before and after the rounds undo each other comes down to their two tables. Between
them, a round is undone by the same round with its halves exchanged, whatever is mixed in, and a row of
rounds by the rounds in reverse order. No property of a key is needed.
-/

namespace BrokerRelay.Crypto.Des

/-! ## §1 Permutations -/

theorem permute_append_singleton (width : Nat) (places : List Nat) (p : Nat) (x : UInt64) :
    permute width (places ++ [p]) x =
      permute width places x * 2 + (x >>> UInt64.ofNat (width - p)) % 2 := by
  unfold permute
  rw [List.foldl_append]
  rfl

/-- One more bit is taken in without loss as long as the word has room. -/
theorem toNat_push {out bit : UInt64} (hbit : bit.toNat < 2) {n : Nat} (hout : out.toNat < 2 ^ n)
    (hn : n < 64) : (out * 2 + bit).toNat = 2 * out.toNat + bit.toNat := by
  -- the highest bit of the word is still free
  have hpow : 2 ^ n ≤ 2 ^ 63 := Nat.pow_le_pow_right (by decide) (by omega)
  rw [UInt64.toNat_add, UInt64.toNat_mul]
  simp only [UInt64.reduceToNat]
  omega

theorem toNat_mod_two_lt (x : UInt64) : (x % 2).toNat < 2 := by
  rw [UInt64.toNat_mod]
  exact Nat.mod_lt _ (by decide)

/-- The bit at a place, as a number. -/
theorem toNat_shiftRight_mod_two (x : UInt64) {k : Nat} (hk : k < 64) :
    ((x >>> UInt64.ofNat k) % 2).toNat = (x.toNat.testBit k).toNat := by
  have hshift : (UInt64.ofNat k).toNat % 64 = k := by
    rw [UInt64.toNat_ofNat_of_lt' (by simp [UInt64.size]; omega), Nat.mod_eq_of_lt hk]
  rw [UInt64.toNat_mod, UInt64.toNat_shiftRight, hshift, Nat.toNat_testBit, Nat.shiftRight_eq_div_pow]
  rfl

/-- A word has no more bits than were chosen. -/
theorem toNat_permute_lt (width : Nat) (places : List Nat) (hlength : places.length ≤ 64)
    (x : UInt64) : (permute width places x).toNat < 2 ^ places.length := by
  induction places using List.reverseRecOn with
  | nil => exact Nat.one_pos
  | append_singleton places p ih =>
    rw [List.length_append, List.length_singleton] at hlength ⊢
    have hout := ih (by omega)
    have hbit := toNat_mod_two_lt (x >>> UInt64.ofNat (width - p))
    rw [permute_append_singleton, toNat_push hbit hout (by omega), Nat.pow_succ]
    omega

/-- Where each bit of a permuted word comes from, the lowest one first. -/
theorem testBit_permute {width : Nat} (hwidth : width ≤ 64) {places : List Nat}
    (hlength : places.length ≤ 64) (hpos : ∀ p ∈ places, 0 < p) (x : UInt64) (i : Nat) :
    (permute width places x).toNat.testBit i =
      (places.reverse[i]?).any fun p => x.toNat.testBit (width - p) := by
  induction places using List.reverseRecOn generalizing i with
  | nil => simp [permute]
  | append_singleton places p ih =>
    rw [List.length_append, List.length_singleton] at hlength
    have hp : 0 < p := hpos p (by simp)
    have hout := toNat_permute_lt width places (by omega) x
    have hbit := toNat_mod_two_lt (x >>> UInt64.ofNat (width - p))
    rw [permute_append_singleton, toNat_push hbit hout (by omega),
      toNat_shiftRight_mod_two x (by omega), List.reverse_append]
    -- the place that was added last gives the lowest bit
    cases i with
    | zero =>
      rw [Nat.testBit_zero]
      cases h : x.toNat.testBit (width - p) <;> simp [h, Nat.add_mod]
    | succ i =>
      have hdiv : (2 * (permute width places x).toNat + (x.toNat.testBit (width - p)).toNat) / 2 =
          (permute width places x).toNat := by
        have hle := Bool.toNat_lt (x.toNat.testBit (width - p))
        omega
      rw [Nat.testBit_succ, hdiv, ih (by omega) fun q hq => hpos q (by simp [hq])]
      rfl

/-- Tables undo each other if the places that one of them lists, looked up in the other, are all places
in order. -/
theorem permute_permute {outer inner : List Nat} (houter : outer.length = 64)
    (hinner : inner.length = 64) (hplaces : ∀ p ∈ outer, 0 < p ∧ p ≤ 64) (hpos : ∀ p ∈ inner, 0 < p)
    (hinverse : outer.map (fun p => inner.getD (p - 1) 0) = List.range' 1 64) (x : UInt64) :
    permute 64 outer (permute 64 inner x) = x := by
  apply UInt64.toNat_inj.mp
  apply Nat.eq_of_testBit_eq
  intro i
  rw [testBit_permute (Nat.le_refl 64) (by omega) fun p hp => (hplaces p hp).1]
  -- bit `i` is the one at place `64 - i`
  by_cases hi : i < 64
  · have hlookup : (outer.map fun p => inner.getD (p - 1) 0)[63 - i]? = some (64 - i) := by
      rw [hinverse, List.getElem?_range' (by omega)]
      congr 1
      omega
    obtain ⟨p, hp, hplace⟩ := Option.map_eq_some_iff.mp (List.getElem?_map ▸ hlookup)
    obtain ⟨hlow, hhigh⟩ := hplaces p (List.mem_of_getElem? hp)
    have hin : inner[p - 1]? = some (64 - i) := by
      rw [List.getElem?_eq_getElem (by omega), ← hplace, List.getD_eq_getElem]
    rw [List.getElem?_reverse (by omega), houter, hp, Option.any_some,
      testBit_permute (Nat.le_refl 64) (by omega) hpos, List.getElem?_reverse (by omega)]
    have hindex : inner.length - 1 - (64 - p) = p - 1 := by omega
    have hbit : 64 - (64 - i) = i := by omega
    rw [hindex, hin, Option.any_some, hbit]
  · rw [List.getElem?_eq_none (by simp; omega), Option.any_none]
    exact (Nat.testBit_lt_two_pow (Nat.lt_of_lt_of_le x.toNat_lt
      (Nat.pow_le_pow_right (by decide) (by omega)))).symm

theorem final_initial (x : UInt64) : permute 64 finalPlaces (permute 64 initialPlaces x) = x := by
  apply permute_permute <;> decide

theorem initial_final (x : UInt64) : permute 64 initialPlaces (permute 64 finalPlaces x) = x := by
  apply permute_permute <;> decide

/-! ## §2 Rounds -/

/-- The halves of a word, each below `2 ^ 32`. -/
def Halves (h : UInt64 × UInt64) : Prop := h.1.toNat < 2 ^ 32 ∧ h.2.toNat < 2 ^ 32

/-- Two halves in one word, the first one above. -/
def joined (h : UInt64 × UInt64) : UInt64 := h.1 * 0x100000000 + h.2

/-- The halves of a word. -/
def parted (x : UInt64) : UInt64 × UInt64 := (x / 0x100000000, x % 0x100000000)

theorem block_eq (keys : List UInt64) (x : UInt64) :
    block keys x =
      permute 64 finalPlaces (joined (rounds (parted (permute 64 initialPlaces x)) keys).swap) := rfl

theorem halves_parted (x : UInt64) : Halves (parted x) := by
  have hx := x.toNat_lt
  unfold Halves parted
  rw [UInt64.toNat_div, UInt64.toNat_mod]
  simp only [UInt64.reduceToNat]
  omega

theorem toNat_joined {h : UInt64 × UInt64} (hh : Halves h) :
    (joined h).toNat = h.1.toNat * 2 ^ 32 + h.2.toNat := by
  obtain ⟨hleft, hright⟩ := hh
  unfold joined
  rw [UInt64.toNat_add, UInt64.toNat_mul]
  simp only [UInt64.reduceToNat]
  omega

theorem joined_parted (x : UInt64) : joined (parted x) = x := by
  apply UInt64.toNat_inj.mp
  rw [toNat_joined (halves_parted x)]
  unfold parted
  rw [UInt64.toNat_div, UInt64.toNat_mod]
  simp only [UInt64.reduceToNat]
  omega

theorem parted_joined {h : UInt64 × UInt64} (hh : Halves h) : parted (joined h) = h := by
  have hjoined := toNat_joined hh
  obtain ⟨hleft, hright⟩ := hh
  apply Prod.ext <;> apply UInt64.toNat_inj.mp <;> unfold parted
  · rw [UInt64.toNat_div, hjoined]
    simp only [UInt64.reduceToNat]
    omega
  · rw [UInt64.toNat_mod, hjoined]
    simp only [UInt64.reduceToNat]
    omega

/-- One round. -/
def round (h : UInt64 × UInt64) (key : UInt64) : UInt64 × UInt64 := (h.2, h.1 ^^^ mixture h.2 key)

theorem rounds_cons (h : UInt64 × UInt64) (key : UInt64) (keys : List UInt64) :
    rounds h (key :: keys) = rounds (round h key) keys := rfl

theorem rounds_append_singleton (h : UInt64 × UInt64) (keys : List UInt64) (key : UInt64) :
    rounds h (keys ++ [key]) = round (rounds h keys) key := by
  unfold rounds
  rw [List.foldl_append]
  rfl

/-- A round is undone by the same round with the halves exchanged. -/
theorem round_swap (h : UInt64 × UInt64) (key : UInt64) :
    round (round h key).swap key = h.swap := by
  obtain ⟨left, right⟩ := h
  have hcancel : (left ^^^ mixture right key) ^^^ mixture right key = left := by
    rw [UInt64.xor_assoc, UInt64.xor_self, UInt64.xor_zero]
  exact congrArg (Prod.mk right) hcancel

/-- The rounds are undone by the rounds in reverse order with the halves exchanged. -/
theorem rounds_reverse_swap (h : UInt64 × UInt64) (keys : List UInt64) :
    rounds (rounds h keys).swap keys.reverse = h.swap := by
  induction keys generalizing h with
  | nil => rfl
  | cons key keys ih =>
    rw [rounds_cons, List.reverse_cons, rounds_append_singleton, ih, round_swap]

theorem toNat_mixture_lt (half key : UInt64) : (mixture half key).toNat < 2 ^ 32 := by
  unfold mixture
  exact toNat_permute_lt 32 mixturePlaces (by decide) _

theorem Halves.round {h : UInt64 × UInt64} (hh : Halves h) (key : UInt64) : Halves (round h key) := by
  refine ⟨hh.2, ?_⟩
  unfold Des.round
  rw [UInt64.toNat_xor]
  exact Nat.xor_lt_two_pow hh.1 (toNat_mixture_lt h.2 key)

theorem Halves.rounds {h : UInt64 × UInt64} (hh : Halves h) (keys : List UInt64) :
    Halves (rounds h keys) := by
  induction keys generalizing h with
  | nil => exact hh
  | cons key keys ih => exact ih (hh.round key)

/-! ## §3 Blocks -/

/-- A block is undone by the same block with the round keys in reverse order. -/
theorem block_reverse_block (keys : List UInt64) (x : UInt64) :
    block keys.reverse (block keys x) = x := by
  -- the last permutation of the one and the first of the other meet, and halves stay halves
  have hhalves : Halves (rounds (parted (permute 64 initialPlaces x)) keys).swap :=
    ((halves_parted _).rounds keys).symm
  rw [block_eq keys.reverse, block_eq keys, initial_final, parted_joined hhalves,
    rounds_reverse_swap, Prod.swap_swap, joined_parted, final_initial]

theorem block_block_reverse (keys : List UInt64) (x : UInt64) :
    block keys (block keys.reverse x) = x := by
  have h := block_reverse_block keys.reverse x
  rwa [List.reverse_reverse] at h

theorem toWord_ofWord (x : UInt64) : toWord (ofWord x) = x := by
  unfold toWord ofWord
  rw [Bytes.toNatBE_ofNatBE x.toNat_lt, UInt64.ofNat_toNat]

theorem ofWord_toWord {bs : Bytes} (h : bs.length = 8) : ofWord (toWord bs) = bs := by
  have hlt : Bytes.toNatBE bs < 2 ^ 64 := by
    have hbs := Bytes.toNatBE_lt bs
    rwa [h] at hbs
  unfold toWord ofWord
  rw [UInt64.toNat_ofNat_of_lt' hlt, ← h, Bytes.ofNatBE_toNatBE]

end Des

open Des

/-- **DES decrypts what it encrypted**, under any round keys. -/
theorem des_inverts (keys : List UInt64) : des.Inverts keys where
  length_encrypt _ _ := Bytes.length_ofNatBE 8 _
  decrypt_encrypt bs hbs := by
    change ofWord (block keys.reverse (toWord (ofWord (block keys (toWord bs))))) = bs
    rw [toWord_ofWord, block_reverse_block, ofWord_toWord hbs]

/-- **Triple DES decrypts what it encrypted**: its three stages are undone in reverse order. -/
theorem tripleDes_inverts (keys : List UInt64 × List UInt64 × List UInt64) :
    tripleDes.Inverts keys where
  length_encrypt _ _ := Bytes.length_ofNatBE 8 _
  decrypt_encrypt bs hbs := by
    obtain ⟨k₁, k₂, k₃⟩ := keys
    change ofWord (block k₁.reverse (block k₂ (block k₃.reverse (toWord (ofWord
      (block k₃ (block k₂.reverse (block k₁ (toWord bs))))))))) = bs
    rw [toWord_ofWord, block_reverse_block, block_block_reverse, block_reverse_block,
      ofWord_toWord hbs]

/-- DES decrypts blocks to blocks. -/
theorem des_keepsBlocks (keys : List UInt64) : des.KeepsBlocks keys :=
  fun _ _ => Bytes.length_ofNatBE 8 _

/-- Triple DES decrypts blocks to blocks. -/
theorem tripleDes_keepsBlocks (keys : List UInt64 × List UInt64 × List UInt64) :
    tripleDes.KeepsBlocks keys :=
  fun _ _ => Bytes.length_ofNatBE 8 _

end BrokerRelay.Crypto
