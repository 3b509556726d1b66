import BrokerRelay.Base64
import Mathlib.Tactic.Common
/-!
# Base64 is read back

Whatever bytes are written, reading the written symbols gives them back (`decode_encode`). The
written form consists of symbols and padding alone, all of them visible ASCII (`visible_of_mem_encode`),
so it can stand as a word in a line of text.

The reader treats the last group by itself: `decodeGroups_encode` follows the groups of the writer, and
the last one is read in the three shapes that the writer gives it.
-/

namespace BrokerRelay.Base64

/-! ## §1 Symbols -/

theorem value?_symbol {n : Nat} (h : n < 64) : value? (symbol n) = some n := by
  have hall : ∀ i : Fin 64, value? (symbol i) = some i.val := by decide
  exact hall ⟨n, h⟩

theorem symbol_ne_pad {n : Nat} (h : n < 64) : (symbol n == pad) = false := by
  have hall : ∀ i : Fin 64, (symbol i == pad) = false := by decide
  exact hall ⟨n, h⟩

theorem visible_symbol {n : Nat} (h : n < 64) : 0x20 < symbol n ∧ symbol n < 0x7f := by
  have hall : ∀ i : Fin 64, 0x20 < symbol i ∧ symbol i < 0x7f := by decide
  exact hall ⟨n, h⟩

/-- The four values of a group are put together to its three bytes. -/
theorem bytes_of_group (a b c : UInt8) :
    UInt8.ofNat (a.toNat / 4 * 4 + (a.toNat % 4 * 16 + b.toNat / 16) / 16) = a ∧
    UInt8.ofNat ((a.toNat % 4 * 16 + b.toNat / 16) % 16 * 16
      + (b.toNat % 16 * 4 + c.toNat / 64) / 4) = b ∧
    UInt8.ofNat ((b.toNat % 16 * 4 + c.toNat / 64) % 4 * 64 + c.toNat % 64) = c := by
  have hb := b.toNat_lt
  have hc := c.toNat_lt
  have hfirst : a.toNat / 4 * 4 + (a.toNat % 4 * 16 + b.toNat / 16) / 16 = a.toNat := by omega
  have hsecond : (a.toNat % 4 * 16 + b.toNat / 16) % 16 * 16
      + (b.toNat % 16 * 4 + c.toNat / 64) / 4 = b.toNat := by omega
  have hthird : (b.toNat % 16 * 4 + c.toNat / 64) % 4 * 64 + c.toNat % 64 = c.toNat := by omega
  rw [hfirst, hsecond, hthird, UInt8.ofNat_toNat, UInt8.ofNat_toNat, UInt8.ofNat_toNat]
  exact ⟨rfl, rfl, rfl⟩

theorem valueAt_symbol {index n : Nat} (h : n < 64) : valueAt index (symbol n) = .ok n := by
  unfold valueAt
  rw [value?_symbol h]

/-! ## §2 The last group -/

theorem scanLast_symbol {offset i n first : Nat} {values : List Nat} {last : UInt8} {bs : Bytes}
    (h : n < 64) :
    scanLast offset i ⟨values, last, 0, first⟩ (symbol n :: bs) =
      scanLast offset (i + 1) ⟨values ++ [n], symbol n, 0, first⟩ bs := by
  rw [scanLast]
  simp [symbol_ne_pad h, value?_symbol h]

theorem scanLast_pad {offset i first padding : Nat} {values : List Nat} {last : UInt8} {bs : Bytes}
    (h : 2 ≤ i) :
    scanLast offset i ⟨values, last, padding, first⟩ (pad :: bs) =
      scanLast offset (i + 1)
        ⟨values, last, padding + 1, if padding == 0 then i else first⟩ bs := by
  have hi : ¬ i < 2 := by omega
  rw [scanLast]
  simp [hi]

/-- A group that has been scanned is read when it is complete and its values are a number with only
zeros behind the bytes. -/
theorem decodeLast_of_scanLast (count size spare n : Nat) {offset padding first : Nat}
    {values : List Nat} {last : UInt8} {bs : Bytes}
    (hscan : scanLast offset 0 ⟨[], 0, 0, 0⟩ bs = .ok ⟨values, last, padding, first⟩)
    (hbs : bs ≠ []) (hlen : values.length = count) (hcount : 2 ≤ count)
    (hpadding : (padding + count) % 4 = 0) (hsize : count * 6 / 8 = size)
    (hspare : count * 6 - size * 8 = spare)
    (hvalue : values.foldl (fun n v => n * 64 + v) 0 = n * Nat.pow 2 spare) :
    decodeLast offset bs = .ok (Bytes.ofNatBE size n) := by
  -- none of the reader's four checks of a group fails
  have hempty : bs.isEmpty = false := by simpa using hbs
  have hlt : ¬ count < 2 := by omega
  have hpos : 0 < Nat.pow 2 spare := Nat.two_pow_pos spare
  unfold decodeLast
  rw [hscan]
  simp only [bind, Except.bind, hempty, hlen, hlt, hpadding, hsize, hspare, hvalue,
    Nat.mul_mod_left, Nat.mul_div_cancel _ hpos]
  rfl

/-! The three shapes of a last group, with the bytes that they stand for. -/

theorem decodeLast_one (offset : Nat) (a : UInt8) :
    decodeLast offset [symbol (a.toNat / 4), symbol (a.toNat % 4 * 16), pad, pad] = .ok [a] := by
  have ha := a.toNat_lt
  have hscan : scanLast offset 0 ⟨[], 0, 0, 0⟩
      [symbol (a.toNat / 4), symbol (a.toNat % 4 * 16), pad, pad] =
        .ok ⟨[a.toNat / 4, a.toNat % 4 * 16], symbol (a.toNat % 4 * 16), 2, 2⟩ := by
    rw [scanLast_symbol (by omega), scanLast_symbol (by omega), scanLast_pad (by omega),
      scanLast_pad (by omega)]
    rfl
  have hvalue : (0 * 64 + a.toNat / 4) * 64 + a.toNat % 4 * 16 = a.toNat * Nat.pow 2 4 := by
    simp only [Nat.pow_eq]
    omega
  rw [decodeLast_of_scanLast 2 1 4 a.toNat hscan (List.cons_ne_nil _ _) rfl (by decide) rfl rfl rfl
    hvalue]
  show Except.ok [UInt8.ofNat (a.toNat % 256)] = _
  rw [Nat.mod_eq_of_lt ha, UInt8.ofNat_toNat]

theorem decodeLast_two (offset : Nat) (a b : UInt8) :
    decodeLast offset [symbol (a.toNat / 4), symbol (a.toNat % 4 * 16 + b.toNat / 16),
      symbol (b.toNat % 16 * 4), pad] = .ok [a, b] := by
  have ha := a.toNat_lt
  have hb := b.toNat_lt
  have hscan : scanLast offset 0 ⟨[], 0, 0, 0⟩ [symbol (a.toNat / 4),
      symbol (a.toNat % 4 * 16 + b.toNat / 16), symbol (b.toNat % 16 * 4), pad] =
        .ok ⟨[a.toNat / 4, a.toNat % 4 * 16 + b.toNat / 16, b.toNat % 16 * 4],
          symbol (b.toNat % 16 * 4), 1, 3⟩ := by
    rw [scanLast_symbol (by omega), scanLast_symbol (by omega), scanLast_symbol (by omega),
      scanLast_pad (by omega)]
    rfl
  have hvalue : ((0 * 64 + a.toNat / 4) * 64 + (a.toNat % 4 * 16 + b.toNat / 16)) * 64
      + b.toNat % 16 * 4 = (a.toNat * 256 + b.toNat) * Nat.pow 2 2 := by
    simp only [Nat.pow_eq]
    omega
  rw [decodeLast_of_scanLast 3 2 2 (a.toNat * 256 + b.toNat) hscan (List.cons_ne_nil _ _) rfl
    (by decide) rfl rfl rfl hvalue]
  show Except.ok [UInt8.ofNat ((a.toNat * 256 + b.toNat) / 256 % 256),
    UInt8.ofNat ((a.toNat * 256 + b.toNat) % 256)] = _
  have hfirst : (a.toNat * 256 + b.toNat) / 256 % 256 = a.toNat := by omega
  have hsecond : (a.toNat * 256 + b.toNat) % 256 = b.toNat := by omega
  rw [hfirst, hsecond, UInt8.ofNat_toNat, UInt8.ofNat_toNat]

theorem decodeLast_three (offset : Nat) (a b c : UInt8) :
    decodeLast offset [symbol (a.toNat / 4), symbol (a.toNat % 4 * 16 + b.toNat / 16),
      symbol (b.toNat % 16 * 4 + c.toNat / 64), symbol (c.toNat % 64)] = .ok [a, b, c] := by
  have ha := a.toNat_lt
  have hb := b.toNat_lt
  have hc := c.toNat_lt
  have hscan : scanLast offset 0 ⟨[], 0, 0, 0⟩ [symbol (a.toNat / 4),
      symbol (a.toNat % 4 * 16 + b.toNat / 16), symbol (b.toNat % 16 * 4 + c.toNat / 64),
      symbol (c.toNat % 64)] =
        .ok ⟨[a.toNat / 4, a.toNat % 4 * 16 + b.toNat / 16, b.toNat % 16 * 4 + c.toNat / 64,
          c.toNat % 64], symbol (c.toNat % 64), 0, 0⟩ := by
    rw [scanLast_symbol (by omega), scanLast_symbol (by omega), scanLast_symbol (by omega),
      scanLast_symbol (by omega)]
    rfl
  have hvalue : (((0 * 64 + a.toNat / 4) * 64 + (a.toNat % 4 * 16 + b.toNat / 16)) * 64
      + (b.toNat % 16 * 4 + c.toNat / 64)) * 64 + c.toNat % 64
        = (a.toNat * 65536 + b.toNat * 256 + c.toNat) * Nat.pow 2 0 := by
    simp only [Nat.pow_eq]
    omega
  rw [decodeLast_of_scanLast 4 3 0 (a.toNat * 65536 + b.toNat * 256 + c.toNat) hscan
    (List.cons_ne_nil _ _) rfl (by decide) rfl rfl rfl hvalue]
  show Except.ok [UInt8.ofNat ((a.toNat * 65536 + b.toNat * 256 + c.toNat) / 256 / 256 % 256),
    UInt8.ofNat ((a.toNat * 65536 + b.toNat * 256 + c.toNat) / 256 % 256),
    UInt8.ofNat ((a.toNat * 65536 + b.toNat * 256 + c.toNat) % 256)] = _
  have hfirst : (a.toNat * 65536 + b.toNat * 256 + c.toNat) / 256 / 256 % 256 = a.toNat := by omega
  have hsecond : (a.toNat * 65536 + b.toNat * 256 + c.toNat) / 256 % 256 = b.toNat := by omega
  have hthird : (a.toNat * 65536 + b.toNat * 256 + c.toNat) % 256 = c.toNat := by omega
  rw [hfirst, hsecond, hthird, UInt8.ofNat_toNat, UInt8.ofNat_toNat, UInt8.ofNat_toNat]

/-! ## §3 All groups -/

/-- A group that another symbol follows is three bytes. -/
theorem decodeGroups_cons {offset : Nat} (a b c : UInt8) {more rest : Bytes} (hmore : more ≠ [])
    (h : decodeGroups (offset + 4) more = .ok rest) :
    decodeGroups offset (symbol (a.toNat / 4) :: symbol (a.toNat % 4 * 16 + b.toNat / 16) ::
      symbol (b.toNat % 16 * 4 + c.toNat / 64) :: symbol (c.toNat % 64) :: more) =
        .ok (a :: b :: c :: rest) := by
  have ha := a.toNat_lt
  have hb := b.toNat_lt
  have hc := c.toNat_lt
  obtain ⟨e, more, rfl⟩ := List.exists_cons_of_ne_nil hmore
  obtain ⟨hfirst, hsecond, hthird⟩ := bytes_of_group a b c
  rw [decodeGroups, valueAt_symbol (by omega), valueAt_symbol (by omega), valueAt_symbol (by omega),
    valueAt_symbol (by omega), h]
  simp only [bind, Except.bind, hfirst, hsecond, hthird]
  rfl

/-- What is written of some bytes starts with a symbol. -/
theorem encode_eq_cons {bs : Bytes} (h : bs ≠ []) :
    ∃ n < 64, ∃ more, encode bs = symbol n :: more := by
  obtain ⟨a, bs, rfl⟩ := List.exists_cons_of_ne_nil h
  have ha := a.toNat_lt
  refine ⟨a.toNat / 4, by omega, ?_⟩
  match bs with
  | [] => exact ⟨_, rfl⟩
  | [_] => exact ⟨_, rfl⟩
  | _ :: _ :: _ => exact ⟨_, rfl⟩

theorem encode_ne_nil {bs : Bytes} (h : bs ≠ []) : encode bs ≠ [] := by
  obtain ⟨n, -, more, heq⟩ := encode_eq_cons h
  rw [heq]
  exact List.cons_ne_nil _ _

theorem decodeGroups_encode (bs : Bytes) (offset : Nat) :
    decodeGroups offset (encode bs) = .ok bs := by
  fun_induction encode bs generalizing offset with
  | case1 => rfl
  | case2 a => exact decodeLast_one offset a
  | case3 a b => exact decodeLast_two offset a b
  | case4 a b c rest ih =>
    -- four symbols are the last group only if nothing follows them
    cases rest with
    | nil => exact decodeLast_three offset a b c
    | cons d rest => exact decodeGroups_cons a b c (encode_ne_nil (List.cons_ne_nil _ _)) (ih _)

theorem length_encode_mod (bs : Bytes) : (encode bs).length % 4 = 0 := by
  fun_induction encode bs with
  | case1 => rfl
  | case2 => simp
  | case3 => simp
  | case4 a b c rest ih =>
    simp only [List.length_cons]
    omega

/-- **What is written is read back.** -/
theorem decode_encode (bs : Bytes) : decode (encode bs) = .ok bs := by
  unfold decode
  split
  · have hlen := length_encode_mod bs
    rw [hlen]
    exact decodeGroups_encode bs 0
  · rename_i hnone
    have hnil : encode bs = [] := List.getLast?_eq_none_iff.mp hnone
    by_cases hbs : bs = []
    · rw [hbs]
    · exact absurd hnil (encode_ne_nil hbs)

/-- What is written are symbols and padding. -/
theorem symbol_or_pad_of_mem_encode {bs : Bytes} {b : UInt8} (h : b ∈ encode bs) :
    (∃ n < 64, b = symbol n) ∨ b = pad := by
  fun_induction encode bs with
  | case1 => cases h
  | case2 a =>
    have ha := a.toNat_lt
    simp only [List.mem_cons, List.not_mem_nil, or_false] at h
    rcases h with rfl | rfl | rfl | rfl
    · exact .inl ⟨_, by omega, rfl⟩
    · exact .inl ⟨_, by omega, rfl⟩
    · exact .inr rfl
    · exact .inr rfl
  | case3 a c =>
    have ha := a.toNat_lt
    have hc := c.toNat_lt
    simp only [List.mem_cons, List.not_mem_nil, or_false] at h
    rcases h with rfl | rfl | rfl | rfl
    · exact .inl ⟨_, by omega, rfl⟩
    · exact .inl ⟨_, by omega, rfl⟩
    · exact .inl ⟨_, by omega, rfl⟩
    · exact .inr rfl
  | case4 a c d rest ih =>
    have ha := a.toNat_lt
    have hc := c.toNat_lt
    have hd := d.toNat_lt
    simp only [List.mem_cons] at h
    rcases h with rfl | rfl | rfl | rfl | h
    · exact .inl ⟨_, by omega, rfl⟩
    · exact .inl ⟨_, by omega, rfl⟩
    · exact .inl ⟨_, by omega, rfl⟩
    · exact .inl ⟨_, by omega, rfl⟩
    · exact ih h

/-- What is written is visible. -/
theorem visible_of_mem_encode {bs : Bytes} {b : UInt8} (h : b ∈ encode bs) : 0x20 < b ∧ b < 0x7f := by
  rcases symbol_or_pad_of_mem_encode h with ⟨n, hn, rfl⟩ | rfl
  · exact visible_symbol hn
  · decide

/-- No symbol is a dash, so what is written holds no mark of a text around it. -/
theorem dash_not_mem_encode {bs : Bytes} : 45 ∉ encode bs := by
  have hall : ∀ i : Fin 64, 45 ≠ symbol i := by decide
  intro h
  rcases symbol_or_pad_of_mem_encode h with ⟨n, hn, heq⟩ | heq
  · exact hall ⟨n, hn⟩ heq
  · exact absurd heq (by decide)

end BrokerRelay.Base64
