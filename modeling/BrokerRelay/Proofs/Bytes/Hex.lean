import Mathlib.Tactic.Common
import BrokerRelay.Bytes
/-!
# Hexadecimal digits are read back

The digits of a byte string, in either case and also mixed, are read as that byte string, and nothing
else is (`ofHexChars?_eq_some_iff`). A digit is one of the characters from `0` to `f`, which is what
keeps it apart from separators and blanks.
-/

namespace BrokerRelay.Bytes

theorem bounds_of_hexDigit? {c : Char} {n : Nat} (h : hexDigit? c = some n) :
    0x30 ≤ c.toNat ∧ c.toNat ≤ 0x66 := by
  have hle : ∀ a b : Char, a ≤ b → a.toNat ≤ b.toNat := fun _ _ hab => hab
  unfold hexDigit? at h
  split at h
  · rename_i hc
    exact ⟨hle _ _ hc.1, Nat.le_trans (hle _ _ hc.2) (by decide)⟩
  split at h
  · rename_i hc
    exact ⟨Nat.le_trans (by decide) (hle _ _ hc.1), hle _ _ hc.2⟩
  split at h
  · rename_i hc
    exact ⟨Nat.le_trans (by decide) (hle _ _ hc.1), Nat.le_trans (hle _ _ hc.2) (by decide)⟩
  · cases h

/-- A character whose lower case is the digit of a value is read as that value. -/
theorem hexDigit?_of_toLower {c : Char} {n : Nat} (hn : n < 16) (h : c.toLower = hexDigit n) :
    hexDigit? c = some n := by
  by_cases hc : c.toNat < 0x80
  · have hascii : ∀ i : Fin 128, ∀ n : Fin 16, (Char.ofNat i).toLower = hexDigit n →
        hexDigit? (Char.ofNat i) = some n.val := by
      decide +kernel
    have hread := hascii ⟨c.toNat, hc⟩ ⟨n, hn⟩
    rw [Char.ofNat_toNat] at hread
    exact hread h
  · -- lower case changes nothing here, and a digit is ASCII
    have hdigit : ∀ n : Fin 16, (hexDigit n).toNat < 0x80 := by decide
    have hsame : c.toLower = c := dif_neg fun hupper => hc (Nat.lt_of_le_of_lt hupper.2 (by decide))
    rw [hsame] at h
    exact absurd (h ▸ hdigit ⟨n, hn⟩) hc

/-- The digits of a byte string are read back in either case. -/
theorem ofHexChars?_of_toLower {hex : List Char} {bs : Bytes}
    (h : hex.map Char.toLower = (toHex bs).toList) : ofHexChars? hex = some bs := by
  unfold toHex at h
  rw [String.toList_ofList] at h
  induction bs generalizing hex with
  | nil =>
    obtain rfl := List.map_eq_nil_iff.mp h
    rfl
  | cons b bs ih =>
    rw [List.flatMap_cons, List.cons_append, List.cons_append] at h
    obtain ⟨hi, tail, rfl, hhi, htail⟩ := List.map_eq_cons_iff.mp h
    obtain ⟨lo, rest, rfl, hlo, hrest⟩ := List.map_eq_cons_iff.mp htail
    have hb := b.toNat_lt
    have hvalue : b.toNat / 16 * 16 + b.toNat % 16 = b.toNat := Nat.div_add_mod' _ _
    unfold ofHexChars?
    rw [hexDigit?_of_toLower (by omega) hhi, hexDigit?_of_toLower (by omega) hlo, ih hrest]
    simp only [Option.bind_eq_bind, Option.bind_some, hvalue, UInt8.ofNat_toNat]
    rfl

/-- The characters of a byte string's digits lie between `0` and `f`. -/
theorem bounds_of_mem_hex {hex : List Char} {bs : Bytes} (h : ofHexChars? hex = some bs) {c : Char}
    (hc : c ∈ hex) : 0x30 ≤ c.toNat ∧ c.toNat ≤ 0x66 := by
  fun_induction ofHexChars? hex generalizing bs with
  | case1 => cases hc
  | case2 => cases h
  | case3 hi lo rest ih =>
    obtain ⟨m, hm, h⟩ := Option.bind_eq_some_iff.mp h
    obtain ⟨n, hn, h⟩ := Option.bind_eq_some_iff.mp h
    obtain ⟨more, hmore, -⟩ := Option.bind_eq_some_iff.mp h
    rcases List.mem_cons.mp hc with rfl | hc
    · exact bounds_of_hexDigit? hm
    rcases List.mem_cons.mp hc with rfl | hc
    · exact bounds_of_hexDigit? hn
    · exact ih hmore hc

/-- A character that is read as a value is the digit of that value, in either case. -/
theorem toLower_of_hexDigit? {c : Char} {n : Nat} (h : hexDigit? c = some n) :
    n < 16 ∧ c.toLower = hexDigit n := by
  have hall : ∀ i : Fin 0x67, ∀ n ∈ hexDigit? (Char.ofNat i),
      n < 16 ∧ (Char.ofNat i).toLower = hexDigit n := by
    decide +kernel
  have hread := hall ⟨c.toNat, Nat.lt_succ_of_le (bounds_of_hexDigit? h).2⟩ n
  rw [Char.ofNat_toNat] at hread
  exact hread h

/-- What is read as a byte string are its digits, in either case. -/
theorem toLower_of_ofHexChars? {hex : List Char} {bs : Bytes} (h : ofHexChars? hex = some bs) :
    hex.map Char.toLower = (toHex bs).toList := by
  unfold toHex
  rw [String.toList_ofList]
  fun_induction ofHexChars? hex generalizing bs with
  | case1 =>
    obtain rfl := Option.some.inj h
    rfl
  | case2 => cases h
  | case3 hi lo rest ih =>
    obtain ⟨m, hm, h⟩ := Option.bind_eq_some_iff.mp h
    obtain ⟨n, hn, h⟩ := Option.bind_eq_some_iff.mp h
    obtain ⟨more, hmore, h⟩ := Option.bind_eq_some_iff.mp h
    obtain rfl := Option.some.inj h
    obtain ⟨hmlt, hhi⟩ := toLower_of_hexDigit? hm
    obtain ⟨hnlt, hlo⟩ := toLower_of_hexDigit? hn
    have hvalue : (UInt8.ofNat (m * 16 + n)).toNat = m * 16 + n :=
      UInt8.toNat_ofNat_of_lt' (by simp [UInt8.size]; omega)
    have hdiv : (m * 16 + n) / 16 = m := by omega
    have hmod : (m * 16 + n) % 16 = n := by omega
    rw [List.map_cons, List.map_cons, hhi, hlo, ih hmore, List.flatMap_cons, hvalue, hdiv, hmod]
    rfl

/-- Digits are read as a byte string exactly if they are its digits, in either case. -/
theorem ofHexChars?_eq_some_iff {hex : List Char} {bs : Bytes} :
    ofHexChars? hex = some bs ↔ hex.map Char.toLower = (toHex bs).toList :=
  ⟨toLower_of_ofHexChars?, ofHexChars?_of_toLower⟩

end BrokerRelay.Bytes
