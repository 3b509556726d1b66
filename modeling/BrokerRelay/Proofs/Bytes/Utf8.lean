import BrokerRelay.Bytes
import Mathlib.Tactic.Common
/-!
# UTF-8 is read exactly

`decodeChars` and `encodeChars` are inverse to each other: what is written is read back, and only
what is written is read (`decodeChars_eq_ok_iff`). So a byte string is well formed exactly when it is
the written form of some characters, and of no others.

An ASCII character is one byte, and every byte of any other character is above ASCII; a search for
ASCII bytes in a written form is therefore a search for characters (`mem_encodeChars_of_ascii`).
-/

namespace BrokerRelay.Bytes

/-! ## §1 One character at a time

The reader's four forms, as conditions on the values of the bytes. -/

theorem not_ascii {b : UInt8} (h : 0x80 ≤ b.toNat) : ¬ b < 0x80 := by
  simp only [UInt8.lt_iff_toNat_lt, UInt8.reduceToNat]
  omega

theorem not_two {b : UInt8} (h : 0xe0 ≤ b.toNat) : (0xc2 ≤ b && b ≤ 0xdf) = false := by
  simp only [UInt8.le_iff_toNat_le, UInt8.reduceToNat, Bool.and_eq_false_imp, decide_eq_true_eq,
    decide_eq_false_iff_not]
  omega

theorem not_three {b : UInt8} (h : 0xf0 ≤ b.toNat) : (0xe0 ≤ b && b ≤ 0xef) = false := by
  simp only [UInt8.le_iff_toNat_le, UInt8.reduceToNat, Bool.and_eq_false_imp, decide_eq_true_eq,
    decide_eq_false_iff_not]
  omega

theorem isContinuation_iff {b : UInt8} : isContinuation b ↔ 0x80 ≤ b.toNat ∧ b.toNat ≤ 0xbf := by
  simp [isContinuation, UInt8.le_iff_toNat_le]

/-- The second byte of a three-byte form: the least and the greatest lead byte narrow its range. -/
theorem secondOfThree_iff {lead b : UInt8} :
    secondOfThree lead b ↔ 0x80 ≤ b.toNat ∧ b.toNat ≤ 0xbf ∧
      (lead.toNat = 0xe0 → 0xa0 ≤ b.toNat) ∧ (lead.toNat = 0xed → b.toNat ≤ 0x9f) := by
  unfold secondOfThree
  by_cases h₀ : lead = 0xe0
  · subst h₀
    simp [UInt8.le_iff_toNat_le]
    omega
  by_cases h₁ : lead = 0xed
  · subst h₁
    simp [UInt8.le_iff_toNat_le]
    omega
  have hn₀ : lead.toNat ≠ 0xe0 := fun h => h₀ (UInt8.toNat_inj.mp h)
  have hn₁ : lead.toNat ≠ 0xed := fun h => h₁ (UInt8.toNat_inj.mp h)
  simp [h₀, h₁, hn₀, hn₁, isContinuation_iff]

/-- The second byte of a four-byte form: the least and the greatest lead byte narrow its range. -/
theorem secondOfFour_iff {lead b : UInt8} :
    secondOfFour lead b ↔ 0x80 ≤ b.toNat ∧ b.toNat ≤ 0xbf ∧
      (lead.toNat = 0xf0 → 0x90 ≤ b.toNat) ∧ (lead.toNat = 0xf4 → b.toNat ≤ 0x8f) := by
  unfold secondOfFour
  by_cases h₀ : lead = 0xf0
  · subst h₀
    simp [UInt8.le_iff_toNat_le]
    omega
  by_cases h₁ : lead = 0xf4
  · subst h₁
    simp [UInt8.le_iff_toNat_le]
    omega
  have hn₀ : lead.toNat ≠ 0xf0 := fun h => h₀ (UInt8.toNat_inj.mp h)
  have hn₁ : lead.toNat ≠ 0xf4 := fun h => h₁ (UInt8.toNat_inj.mp h)
  simp [h₀, h₁, hn₀, hn₁, isContinuation_iff]

theorem decodeFrom_one {b : UInt8} {t : Bytes} {i : Nat} (h : b.toNat < 0x80) :
    decodeFrom (b :: t) i = (decodeFrom t (i + 1)).map (Char.ofNat b.toNat :: ·) := by
  have hb : b < 0x80 := UInt8.lt_iff_toNat_lt.mpr h
  rw [decodeFrom.eq_def]
  simp only [hb, if_true]

theorem decodeFrom_two {b₀ b₁ : UInt8} {t : Bytes} {i : Nat} (hlo : 0xc2 ≤ b₀.toNat)
    (hhi : b₀.toNat ≤ 0xdf) (h₁ : isContinuation b₁) :
    decodeFrom (b₀ :: b₁ :: t) i = (decodeFrom t (i + 2)).map
      (Char.ofNat ((b₀.toNat % 32) * 64 + payload b₁) :: ·) := by
  have hone : ¬ b₀ < 0x80 := not_ascii (by omega)
  have htwo : (0xc2 ≤ b₀ && b₀ ≤ 0xdf) = true := by
    simp [UInt8.le_iff_toNat_le, hlo, hhi]
  rw [decodeFrom.eq_def]
  simp only [hone, htwo, h₁, if_true, if_false]

theorem decodeFrom_three {b₀ b₁ b₂ : UInt8} {t : Bytes} {i : Nat} (hlo : 0xe0 ≤ b₀.toNat)
    (hhi : b₀.toNat ≤ 0xef) (h₁ : secondOfThree b₀ b₁) (h₂ : isContinuation b₂) :
    decodeFrom (b₀ :: b₁ :: b₂ :: t) i = (decodeFrom t (i + 3)).map
      (Char.ofNat ((b₀.toNat % 16) * 4096 + payload b₁ * 64 + payload b₂) :: ·) := by
  have hone : ¬ b₀ < 0x80 := not_ascii (by omega)
  have hthree : (0xe0 ≤ b₀ && b₀ ≤ 0xef) = true := by
    simp [UInt8.le_iff_toNat_le, hlo, hhi]
  rw [decodeFrom.eq_def]
  simp only [hone, not_two hlo, hthree, h₁, h₂, Bool.not_true, Bool.false_eq_true, if_true, if_false]

theorem decodeFrom_four {b₀ b₁ b₂ b₃ : UInt8} {t : Bytes} {i : Nat} (hlo : 0xf0 ≤ b₀.toNat)
    (hhi : b₀.toNat ≤ 0xf4) (h₁ : secondOfFour b₀ b₁) (h₂ : isContinuation b₂)
    (h₃ : isContinuation b₃) :
    decodeFrom (b₀ :: b₁ :: b₂ :: b₃ :: t) i = (decodeFrom t (i + 4)).map
      (Char.ofNat ((b₀.toNat % 8) * 262144 + payload b₁ * 4096 + payload b₂ * 64 + payload b₃) :: ·) := by
  have hone : ¬ b₀ < 0x80 := not_ascii (by omega)
  have hfour : (0xf0 ≤ b₀ && b₀ ≤ 0xf4) = true := by
    simp [UInt8.le_iff_toNat_le, hlo, hhi]
  rw [decodeFrom.eq_def]
  simp only [hone, not_two (Nat.le_trans (by decide) hlo), not_three hlo, hfour, h₁, h₂, h₃,
    Bool.not_true, Bool.false_eq_true, if_true, if_false]

/-! ## §2 What is written is read -/

/-- The scalar values of Unicode: the code points without the surrogates. -/
theorem scalar_bounds (c : Char) :
    c.toNat < 0xd800 ∨ 0xdfff < c.toNat ∧ c.toNat < 0x110000 := c.valid

theorem utf8EncodeChar_eq (c : Char) :
    String.utf8EncodeChar c =
      if c.toNat ≤ 0x7f then [UInt8.ofNat c.toNat]
      else if c.toNat ≤ 0x7ff then
        [UInt8.ofNat (c.toNat / 64 % 0x20 + 0xc0), UInt8.ofNat (c.toNat % 0x40 + 0x80)]
      else if c.toNat ≤ 0xffff then
        [UInt8.ofNat (c.toNat / 4096 % 0x10 + 0xe0), UInt8.ofNat (c.toNat / 64 % 0x40 + 0x80),
          UInt8.ofNat (c.toNat % 0x40 + 0x80)]
      else
        [UInt8.ofNat (c.toNat / 262144 % 0x08 + 0xf0), UInt8.ofNat (c.toNat / 4096 % 0x40 + 0x80),
          UInt8.ofNat (c.toNat / 64 % 0x40 + 0x80), UInt8.ofNat (c.toNat % 0x40 + 0x80)] := rfl

/-- A written character is read back, and reading goes on behind it. -/
theorem decodeFrom_utf8EncodeChar (c : Char) (t : Bytes) (i : Nat) :
    ∃ j, decodeFrom (String.utf8EncodeChar c ++ t) i = (decodeFrom t j).map (c :: ·) := by
  have hscalar := scalar_bounds c
  rw [utf8EncodeChar_eq]
  -- by the number of bytes; each time the byte values lie in the reader's ranges, and their payloads
  -- add up to the character
  split
  · refine ⟨i + 1, ?_⟩
    have hb : (UInt8.ofNat c.toNat).toNat = c.toNat := by
      rw [UInt8.toNat_ofNat']
      omega
    rw [List.singleton_append, decodeFrom_one (by omega), hb, Char.ofNat_toNat]
  split
  · refine ⟨i + 2, ?_⟩
    have hb₀ : (UInt8.ofNat (c.toNat / 64 % 0x20 + 0xc0)).toNat = c.toNat / 64 + 0xc0 := by
      rw [UInt8.toNat_ofNat']
      omega
    have hb₁ : (UInt8.ofNat (c.toNat % 0x40 + 0x80)).toNat = c.toNat % 0x40 + 0x80 := by
      rw [UInt8.toNat_ofNat']
      omega
    have hvalue : (c.toNat / 64 + 0xc0) % 32 * 64 + (c.toNat % 0x40 + 0x80) % 64 = c.toNat := by
      omega
    rw [List.cons_append, List.singleton_append,
      decodeFrom_two (by omega) (by omega) (isContinuation_iff.mpr (by omega))]
    simp only [payload, hb₀, hb₁, hvalue, Char.ofNat_toNat]
  split
  · refine ⟨i + 3, ?_⟩
    have hb₀ : (UInt8.ofNat (c.toNat / 4096 % 0x10 + 0xe0)).toNat = c.toNat / 4096 + 0xe0 := by
      rw [UInt8.toNat_ofNat']
      omega
    have hb₁ : (UInt8.ofNat (c.toNat / 64 % 0x40 + 0x80)).toNat = c.toNat / 64 % 0x40 + 0x80 := by
      rw [UInt8.toNat_ofNat']
      omega
    have hb₂ : (UInt8.ofNat (c.toNat % 0x40 + 0x80)).toNat = c.toNat % 0x40 + 0x80 := by
      rw [UInt8.toNat_ofNat']
      omega
    have hvalue : (c.toNat / 4096 + 0xe0) % 16 * 4096 + (c.toNat / 64 % 0x40 + 0x80) % 64 * 64
        + (c.toNat % 0x40 + 0x80) % 64 = c.toNat := by
      omega
    rw [List.cons_append, List.cons_append, List.singleton_append,
      decodeFrom_three (by omega) (by omega) (secondOfThree_iff.mpr (by omega))
        (isContinuation_iff.mpr (by omega))]
    simp only [payload, hb₀, hb₁, hb₂, hvalue, Char.ofNat_toNat]
  · refine ⟨i + 4, ?_⟩
    have hb₀ : (UInt8.ofNat (c.toNat / 262144 % 0x08 + 0xf0)).toNat = c.toNat / 262144 + 0xf0 := by
      rw [UInt8.toNat_ofNat']
      omega
    have hb₁ : (UInt8.ofNat (c.toNat / 4096 % 0x40 + 0x80)).toNat
        = c.toNat / 4096 % 0x40 + 0x80 := by
      rw [UInt8.toNat_ofNat']
      omega
    have hb₂ : (UInt8.ofNat (c.toNat / 64 % 0x40 + 0x80)).toNat = c.toNat / 64 % 0x40 + 0x80 := by
      rw [UInt8.toNat_ofNat']
      omega
    have hb₃ : (UInt8.ofNat (c.toNat % 0x40 + 0x80)).toNat = c.toNat % 0x40 + 0x80 := by
      rw [UInt8.toNat_ofNat']
      omega
    have hvalue : (c.toNat / 262144 + 0xf0) % 8 * 262144 + (c.toNat / 4096 % 0x40 + 0x80) % 64 * 4096
        + (c.toNat / 64 % 0x40 + 0x80) % 64 * 64 + (c.toNat % 0x40 + 0x80) % 64 = c.toNat := by
      omega
    rw [List.cons_append, List.cons_append, List.cons_append, List.singleton_append,
      decodeFrom_four (by omega) (by omega) (secondOfFour_iff.mpr (by omega))
        (isContinuation_iff.mpr (by omega)) (isContinuation_iff.mpr (by omega))]
    simp only [payload, hb₀, hb₁, hb₂, hb₃, hvalue, Char.ofNat_toNat]

@[simp]
theorem encodeChars_nil : encodeChars [] = [] := rfl

@[simp]
theorem encodeChars_cons (c : Char) (cs : List Char) :
    encodeChars (c :: cs) = String.utf8EncodeChar c ++ encodeChars cs := List.flatMap_cons

@[simp]
theorem encodeChars_append (cs ds : List Char) :
    encodeChars (cs ++ ds) = encodeChars cs ++ encodeChars ds := List.flatMap_append

theorem encodeUtf8_append (s t : String) : encodeUtf8 (s ++ t) = encodeUtf8 s ++ encodeUtf8 t := by
  rw [encodeUtf8, String.toList_append, encodeChars_append]
  rfl

/-- Only the empty text is written as no bytes. -/
theorem encodeUtf8_ne_nil {s : String} (h : s ≠ "") : encodeUtf8 s ≠ [] := by
  unfold encodeUtf8
  cases hs : s.toList with
  | nil => exact absurd (String.toList_eq_nil_iff.mp hs) h
  | cons c cs =>
    have hpos := Char.utf8Size_pos c
    rw [encodeChars_cons]
    intro hnil
    have hlen := congrArg List.length (List.append_eq_nil_iff.mp hnil).1
    rw [String.length_utf8EncodeChar, List.length_nil] at hlen
    omega

/-- What is written is read, wherever reading starts to count. -/
theorem decodeFrom_encodeChars (cs : List Char) (i : Nat) :
    decodeFrom (encodeChars cs) i = .ok cs := by
  induction cs generalizing i with
  | nil => rfl
  | cons c cs ih =>
    obtain ⟨j, hj⟩ := decodeFrom_utf8EncodeChar c (encodeChars cs) i
    rw [encodeChars_cons, hj, ih j]
    rfl

/-! ## §3 Only what is written is read -/

theorem toNat_ofNat_of_scalar {n : Nat} (h : n < 0xd800 ∨ 0xdfff < n ∧ n < 0x110000) :
    (Char.ofNat n).toNat = n := by
  have hvalid : n.isValidChar := h
  rw [Char.ofNat, dif_pos hvalid]
  rfl

theorem exists_of_map_cons_eq_ok {ε : Type} {x : Except ε (List Char)} {c : Char} {cs : List Char}
    (h : x.map (c :: ·) = .ok cs) : ∃ tail, x = .ok tail ∧ cs = c :: tail := by
  cases x with
  | error e => cases h
  | ok tail =>
    cases h
    exact ⟨tail, rfl, rfl⟩

/-- A byte is the one with its value. -/
theorem ofNat_eq_of_toNat {b : UInt8} {n : Nat} (h : b.toNat = n) : UInt8.ofNat n = b := by
  rw [← h, UInt8.ofNat_toNat]

theorem utf8EncodeChar_one {b : UInt8} (h : b.toNat < 0x80) :
    String.utf8EncodeChar (Char.ofNat b.toNat) = [b] := by
  rw [utf8EncodeChar_eq, toNat_ofNat_of_scalar (by omega), if_pos (by omega), UInt8.ofNat_toNat]

theorem utf8EncodeChar_two {b₀ b₁ : UInt8} (hlo : 0xc2 ≤ b₀.toNat) (hhi : b₀.toNat ≤ 0xdf)
    (h₁ : isContinuation b₁) :
    String.utf8EncodeChar (Char.ofNat (b₀.toNat % 32 * 64 + payload b₁)) = [b₀, b₁] := by
  have h₁ := isContinuation_iff.mp h₁
  unfold payload
  rw [utf8EncodeChar_eq, toNat_ofNat_of_scalar (by omega), if_neg (by omega), if_pos (by omega)]
  congr 1
  · exact ofNat_eq_of_toNat (by omega)
  congr 1
  exact ofNat_eq_of_toNat (by omega)

theorem utf8EncodeChar_three {b₀ b₁ b₂ : UInt8} (hlo : 0xe0 ≤ b₀.toNat) (hhi : b₀.toNat ≤ 0xef)
    (h₁ : secondOfThree b₀ b₁) (h₂ : isContinuation b₂) :
    String.utf8EncodeChar
      (Char.ofNat (b₀.toNat % 16 * 4096 + payload b₁ * 64 + payload b₂)) = [b₀, b₁, b₂] := by
  have h₁ := secondOfThree_iff.mp h₁
  have h₂ := isContinuation_iff.mp h₂
  unfold payload
  rw [utf8EncodeChar_eq, toNat_ofNat_of_scalar (by omega), if_neg (by omega), if_neg (by omega),
    if_pos (by omega)]
  congr 1
  · exact ofNat_eq_of_toNat (by omega)
  congr 1
  · exact ofNat_eq_of_toNat (by omega)
  congr 1
  exact ofNat_eq_of_toNat (by omega)

theorem utf8EncodeChar_four {b₀ b₁ b₂ b₃ : UInt8} (hlo : 0xf0 ≤ b₀.toNat) (hhi : b₀.toNat ≤ 0xf4)
    (h₁ : secondOfFour b₀ b₁) (h₂ : isContinuation b₂) (h₃ : isContinuation b₃) :
    String.utf8EncodeChar (Char.ofNat
      (b₀.toNat % 8 * 262144 + payload b₁ * 4096 + payload b₂ * 64 + payload b₃))
        = [b₀, b₁, b₂, b₃] := by
  have h₁ := secondOfFour_iff.mp h₁
  have h₂ := isContinuation_iff.mp h₂
  have h₃ := isContinuation_iff.mp h₃
  unfold payload
  rw [utf8EncodeChar_eq, toNat_ofNat_of_scalar (by omega), if_neg (by omega), if_neg (by omega),
    if_neg (by omega)]
  congr 1
  · exact ofNat_eq_of_toNat (by omega)
  congr 1
  · exact ofNat_eq_of_toNat (by omega)
  congr 1
  · exact ofNat_eq_of_toNat (by omega)
  congr 1
  exact ofNat_eq_of_toNat (by omega)

/-- What is read is the written form of what was read. -/
theorem encodeChars_of_decodeFrom {bs : Bytes} {i : Nat} {cs : List Char}
    (h : decodeFrom bs i = .ok cs) : encodeChars cs = bs := by
  -- only the four cases of well-formed characters go on reading
  fun_induction decodeFrom bs i generalizing cs with
  | case1 =>
    cases h
    rfl
  | case2 b₀ t _ hb ih =>
    obtain ⟨tail, htail, rfl⟩ := exists_of_map_cons_eq_ok h
    rw [encodeChars_cons, ih htail, utf8EncodeChar_one (UInt8.lt_iff_toNat_lt.mp hb)]
    rfl
  | case4 b₀ _ _ hb b₁ t h₁ ih =>
    obtain ⟨tail, htail, rfl⟩ := exists_of_map_cons_eq_ok h
    simp only [Bool.and_eq_true, decide_eq_true_eq, UInt8.le_iff_toNat_le] at hb
    rw [encodeChars_cons, ih htail, utf8EncodeChar_two hb.1 hb.2 h₁]
    rfl
  | case9 b₀ _ _ _ hb b₁ h₁ b₂ t h₂ ih =>
    obtain ⟨tail, htail, rfl⟩ := exists_of_map_cons_eq_ok h
    simp only [Bool.and_eq_true, decide_eq_true_eq, UInt8.le_iff_toNat_le] at hb
    rw [Bool.not_eq_true, Bool.not_eq_false'] at h₁
    rw [encodeChars_cons, ih htail, utf8EncodeChar_three hb.1 hb.2 h₁ h₂]
    rfl
  | case16 b₀ _ _ _ _ hb b₁ h₁ b₂ h₂ b₃ t h₃ ih =>
    obtain ⟨tail, htail, rfl⟩ := exists_of_map_cons_eq_ok h
    simp only [Bool.and_eq_true, decide_eq_true_eq, UInt8.le_iff_toNat_le] at hb
    rw [Bool.not_eq_true, Bool.not_eq_false'] at h₁ h₂
    rw [encodeChars_cons, ih htail, utf8EncodeChar_four hb.1 hb.2 h₁ h₂ h₃]
    rfl
  | _ => cases h

/-- **A byte string reads as a text exactly when it is the written form of that text.** -/
theorem decodeChars_eq_ok_iff {bs : Bytes} {cs : List Char} :
    decodeChars bs = .ok cs ↔ bs = encodeChars cs := by
  constructor
  · intro h
    exact (encodeChars_of_decodeFrom h).symm
  · rintro rfl
    exact decodeFrom_encodeChars cs 0

/-! ## §4 ASCII stands for itself -/

/-- An ASCII character is one byte; the bytes of any other are above ASCII. -/
theorem utf8EncodeChar_ascii_or (c : Char) :
    (c.toNat < 0x80 ∧ String.utf8EncodeChar c = [UInt8.ofNat c.toNat]) ∨
      (0x80 ≤ c.toNat ∧ ∀ b ∈ String.utf8EncodeChar c, 0x80 ≤ b.toNat) := by
  rw [utf8EncodeChar_eq]
  by_cases h : c.toNat ≤ 0x7f
  · rw [if_pos h]
    exact .inl ⟨by omega, rfl⟩
  refine .inr ⟨by omega, ?_⟩
  rw [if_neg h]
  split
  · simp only [List.mem_cons, List.not_mem_nil, or_false, forall_eq_or_imp, forall_eq,
      UInt8.toNat_ofNat']
    omega
  split
  all_goals
    simp only [List.mem_cons, List.not_mem_nil, or_false, forall_eq_or_imp, forall_eq,
      UInt8.toNat_ofNat']
    omega

theorem toNat_ofNat_of_ascii {c : Char} (h : c.toNat < 0x80) :
    (UInt8.ofNat c.toNat).toNat = c.toNat := by
  rw [UInt8.toNat_ofNat']
  omega

/-- What holds of all bytes above ASCII holds of a written form when it holds of the text's ASCII
characters. -/
theorem forall_mem_encodeChars_iff {P : UInt8 → Prop} (habove : ∀ b : UInt8, 0x80 ≤ b.toNat → P b)
    {cs : List Char} :
    (∀ b ∈ encodeChars cs, P b) ↔ ∀ c ∈ cs, c.toNat < 0x80 → P (UInt8.ofNat c.toNat) := by
  simp only [encodeChars, List.mem_flatMap, forall_exists_index, and_imp]
  constructor
  · intro h c hc hlt
    rcases utf8EncodeChar_ascii_or c with ⟨-, heq⟩ | ⟨hge, -⟩
    · exact h _ c hc (heq ▸ List.mem_singleton.mpr rfl)
    · omega
  · intro h b c hc hb
    rcases utf8EncodeChar_ascii_or c with ⟨hlt, heq⟩ | ⟨-, hge⟩
    · rw [heq, List.mem_singleton] at hb
      exact hb ▸ h c hc hlt
    · exact habove b (hge b hb)

/-- ASCII bytes are the written form of their characters. -/
theorem encodeChars_map_ofNat {bs : Bytes} (h : ∀ b ∈ bs, b.toNat < 0x80) :
    encodeChars (bs.map fun b => Char.ofNat b.toNat) = bs := by
  induction bs with
  | nil => rfl
  | cons b bs ih =>
    rw [List.map_cons, encodeChars_cons, utf8EncodeChar_one (h b List.mem_cons_self),
      ih fun c hc => h c (List.mem_cons_of_mem b hc)]
    rfl

/-- An ASCII byte stands in a written form exactly when its character stands in the text. -/
theorem mem_encodeChars_of_ascii {c : Char} (hc : c.toNat < 0x80) {cs : List Char} :
    UInt8.ofNat c.toNat ∈ encodeChars cs ↔ c ∈ cs := by
  -- the bytes that are not this one: all those above ASCII are among them
  have habsent : (∀ b ∈ encodeChars cs, b ≠ UInt8.ofNat c.toNat) ↔
      ∀ d ∈ cs, d.toNat < 0x80 → UInt8.ofNat d.toNat ≠ UInt8.ofNat c.toNat := by
    refine forall_mem_encodeChars_iff ?_
    rintro b hb rfl
    rw [toNat_ofNat_of_ascii hc] at hb
    omega
  rw [← not_iff_not]
  constructor
  · intro hnot hmem
    exact habsent.mp (fun b hb heq => hnot (heq ▸ hb)) c hmem hc rfl
  · intro hnot hmem
    refine habsent.mpr (fun d hd hlt heq => hnot ?_) _ hmem rfl
    have hnat : d.toNat = c.toNat := by
      rw [← toNat_ofNat_of_ascii hlt, heq, toNat_ofNat_of_ascii hc]
    rwa [← Char.toNat_inj.mp hnat]

end BrokerRelay.Bytes
