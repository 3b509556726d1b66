import BrokerRelay.Pem.Encrypted
import BrokerRelay.Proofs.Bytes.Number
/-!
# DER sequences

A DER sequence is a tag, a length field and a body of the length that the field states. `LengthField`
gives the two forms of the field by what is written, and `derLength?` reads exactly these
(`derLength?_eq_some_iff`). What is read does not depend on what follows, so the length of a sequence is
fixed by its front: no sequence goes on as another one (`isDerSequence_append`). This is what catches a
wrong password whose decryption happens to be padded well.

The length is accumulated byte by byte, shifting and filling in bits. At most four bytes are accumulated, so
a word of 32 bits holds every number on the way (`accumulate_le`).
-/

namespace BrokerRelay.Pem

/-! ## §1 Numbers in length fields -/

/-- The number that some bytes are accumulated to: each one shifts those before it by its eight bits. -/
def accumulate (digits : Bytes) : Nat := digits.foldl (fun n b => n <<< 8 ||| b.toNat) 0

theorem shiftLeft_or_toNat (n : Nat) (b : UInt8) : n <<< 8 ||| b.toNat = n * 256 + b.toNat := by
  have hb : b.toNat < 2 ^ 8 := b.toNat_lt
  rw [← Nat.shiftLeft_add_eq_or_of_lt hb, Nat.shiftLeft_eq]

/-- No bits meet when a byte is filled in, so accumulating is reading a number. -/
theorem accumulate_eq (digits : Bytes) : accumulate digits = Bytes.toNatBE digits := by
  unfold accumulate Bytes.toNatBE
  simp only [shiftLeft_or_toNat]

theorem accumulate_le {digits : Bytes} (h : digits.length ≤ 4) : accumulate digits ≤ 2 ^ 32 - 1 := by
  have hlt : Bytes.toNatBE digits < 256 ^ digits.length := Bytes.toNatBE_lt digits
  have hpow : 256 ^ digits.length ≤ 256 ^ 4 := Nat.pow_le_pow_right (by omega) h
  rw [accumulate_eq]
  omega

/-! ## §2 Length fields -/

/-- A length field and the length that it states. A length below 0x80 is a byte of its own; in the other form
the first byte tells how many bytes, one to four, hold the length. -/
inductive LengthField : Bytes → Nat → Prop
  | short {b : UInt8} : b.toNat < 0x80 → LengthField [b] b.toNat
  | long {digits : Bytes} : 1 ≤ digits.length → digits.length ≤ 4 →
      LengthField (UInt8.ofNat (0x80 + digits.length) :: digits) (Bytes.toNatBE digits)

variable {bs rest d : Bytes} {n : Nat}

theorem toNat_longForm {count : Nat} (h : count ≤ 4) :
    (UInt8.ofNat (0x80 + count)).toNat = 0x80 + count := by
  rw [UInt8.toNat_ofNat']
  omega

/-- In the long form the length is read from as many bytes as the first one says. -/
theorem derLength?_long {count : Nat} (hpos : 1 ≤ count) (hle : count ≤ 4) (hcount : count ≤ bs.length) :
    derLength? (UInt8.ofNat (0x80 + count) :: bs) = some (accumulate (bs.take count), bs.drop count) := by
  have hfirst : ¬UInt8.ofNat (0x80 + count) < 0x80 := by
    rw [UInt8.lt_iff_toNat_lt, toNat_longForm hle]
    exact Nat.not_lt.mpr (Nat.le_add_right ..)
  have hsub : (UInt8.ofNat (0x80 + count)).toNat - 0x80 = count := by
    rw [toNat_longForm hle]
    omega
  have hread : ¬(count = 0 ∨ 4 < count ∨ bs.length < count) := by omega
  simp only [derLength?, if_neg hfirst, hsub, if_neg hread, accumulate_eq]

theorem exists_lengthField_of_derLength? (h : derLength? bs = some (n, rest)) :
    ∃ field, LengthField field n ∧ bs = field ++ rest := by
  cases bs with
  | nil => cases h
  | cons first tail =>
    by_cases hshort : first < 0x80
    · -- the byte is the length
      simp only [derLength?, if_pos hshort, Option.some.injEq, Prod.mk.injEq] at h
      obtain ⟨rfl, rfl⟩ := h
      exact ⟨[first], .short (UInt8.lt_iff_toNat_lt.mp hshort), rfl⟩
    · by_cases hbad : first.toNat - 0x80 = 0 ∨ 4 < first.toNat - 0x80 ∨ tail.length < first.toNat - 0x80
      · simp [derLength?, if_neg hshort, if_pos hbad] at h
      · -- the byte counts the bytes of the length
        obtain ⟨count, hcount⟩ : ∃ count, first.toNat = 0x80 + count :=
          Nat.exists_eq_add_of_le (Nat.not_lt.mp fun hlt => hshort (UInt8.lt_iff_toNat_lt.mpr hlt))
        obtain rfl : first = UInt8.ofNat (0x80 + count) := by rw [← hcount, UInt8.ofNat_toNat]
        rw [derLength?_long (by omega) (by omega) (by omega), accumulate_eq, Option.some.injEq,
          Prod.mk.injEq] at h
        obtain ⟨rfl, rfl⟩ := h
        have hlen : (tail.take count).length = count := List.length_take_of_le (by omega)
        refine ⟨UInt8.ofNat (0x80 + count) :: tail.take count, ?_, ?_⟩
        · have hfield := @LengthField.long (tail.take count) (by omega) (by omega)
          rwa [hlen] at hfield
        · rw [List.cons_append, List.take_append_drop]

/-- **A length is read exactly from a length field**, whatever follows it. -/
theorem derLength?_eq_some_iff :
    derLength? bs = some (n, rest) ↔ ∃ field, LengthField field n ∧ bs = field ++ rest := by
  constructor
  · exact exists_lengthField_of_derLength?
  · rintro ⟨field, hfield, rfl⟩
    cases hfield with
    | short hb => exact if_pos (UInt8.lt_iff_toNat_lt.mpr hb)
    | @long digits hpos hle =>
      rw [List.cons_append, derLength?_long hpos hle (by simp), List.take_left, List.drop_left,
        accumulate_eq]

/-! ## §3 Sequences -/

/-- The bytes are a tag, a length field and a body of the length that the field states. -/
def IsSequence (d : Bytes) : Prop :=
  ∃ field body, d = 0x30 :: (field ++ body) ∧ LengthField field body.length

theorem isDerSequence_cons :
    isDerSequence (0x30 :: bs) ↔ ∃ body, derLength? bs = some (body.length, body) := by
  simp only [isDerSequence]
  cases derLength? bs with
  | none => simp
  | some read =>
    obtain ⟨n, body⟩ := read
    simp only [beq_iff_eq, Option.some.injEq, Prod.mk.injEq]
    constructor
    · rintro rfl
      exact ⟨body, rfl, rfl⟩
    · rintro ⟨_, rfl, rfl⟩
      rfl

theorem exists_of_isDerSequence (h : isDerSequence d) : ∃ bs, d = 0x30 :: bs := by
  unfold isDerSequence at h
  split at h
  · exact ⟨_, rfl⟩
  · cases h

theorem isDerSequence_iff : isDerSequence d ↔ IsSequence d := by
  constructor
  · intro h
    obtain ⟨bs, rfl⟩ := exists_of_isDerSequence h
    obtain ⟨body, hread⟩ := isDerSequence_cons.mp h
    obtain ⟨field, hfield, rfl⟩ := derLength?_eq_some_iff.mp hread
    exact ⟨field, body, rfl, hfield⟩
  · rintro ⟨field, body, rfl, hfield⟩
    exact isDerSequence_cons.mpr ⟨body, derLength?_eq_some_iff.mpr ⟨field, hfield, rfl⟩⟩

/-- A sequence does not go on as another one. -/
theorem isDerSequence_append (h : isDerSequence d) {more : Bytes} (hmore : more ≠ []) :
    isDerSequence (d ++ more) = false := by
  obtain ⟨bs, rfl⟩ := exists_of_isDerSequence h
  obtain ⟨body, hread⟩ := isDerSequence_cons.mp h
  obtain ⟨field, hfield, rfl⟩ := derLength?_eq_some_iff.mp hread
  -- the same field is read in front of the longer body
  have hlonger : derLength? (field ++ body ++ more) = some (body.length, body ++ more) :=
    derLength?_eq_some_iff.mpr ⟨field, hfield, List.append_assoc ..⟩
  have hlen : body.length ≠ (body ++ more).length := by
    rw [List.length_append]
    have := List.length_pos_iff.mpr hmore
    omega
  simp only [List.cons_append, isDerSequence, hlonger, beq_eq_false_iff_ne]
  exact hlen

/-- **What is recognised is one complete sequence.** For all bytes:

* they are recognised if and only if they are a tag, a length field and a body of the length that it states;
* if they are, then neither with anything appended nor with anything cut off their end;
* in the long form the length is accumulated from one to four bytes, and the numbers on the way fit into
  32 bits. -/
theorem one_sequence_recognised (d : Bytes) :
    (isDerSequence d = true ↔ IsSequence d) ∧
    (isDerSequence d = true → ∀ s, s ≠ [] →
      isDerSequence (d ++ s) = false ∧ ∀ front, d = front ++ s → isDerSequence front = false) ∧
    ∀ (count : Nat) (rest : Bytes), 1 ≤ count → count ≤ 4 → count ≤ rest.length →
      derLength? (UInt8.ofNat (0x80 + count) :: rest) =
          some (accumulate (rest.take count), rest.drop count) ∧
        ∀ i, accumulate ((rest.take count).take i) ≤ 2 ^ 32 - 1 := by
  refine ⟨isDerSequence_iff, fun h s hs => ⟨isDerSequence_append h hs, ?_⟩, ?_⟩
  · rintro front rfl
    rw [Bool.eq_false_iff]
    intro hfront
    exact absurd h (Bool.eq_false_iff.mp (isDerSequence_append hfront hs))
  · intro count rest hpos hle hcount
    refine ⟨derLength?_long hpos hle hcount, fun i => accumulate_le ?_⟩
    rw [List.take_take, List.length_take]
    omega

/-- A body of 256 bytes under a length field of the long form: the whole is recognised, with a byte more or a
byte less it is not, and four bytes of ones are accumulated to the greatest length that there is. -/
theorem one_sequence_recognised_long :
    isDerSequence (0x30 :: 0x82 :: 0x01 :: 0x00 :: List.replicate 256 0x05) = true ∧
    isDerSequence (0x30 :: 0x82 :: 0x01 :: 0x00 :: List.replicate 256 0x05 ++ [0x05]) = false ∧
    isDerSequence (0x30 :: 0x82 :: 0x01 :: 0x00 :: List.replicate 255 0x05) = false ∧
    accumulate (List.replicate 4 0xff) = 2 ^ 32 - 1 ∧
    accumulate (([0xff, 0xff, 0xff, 0xff, 0x00].take 4).take 4) ≤ 2 ^ 32 - 1 := by
  have hwhole := one_sequence_recognised (0x30 :: 0x82 :: 0x01 :: 0x00 :: List.replicate 256 0x05)
  have hfield : LengthField [0x82, 0x01, 0x00] 256 := @LengthField.long [0x01, 0x00] (by decide) (by decide)
  have hyes : isDerSequence (0x30 :: 0x82 :: 0x01 :: 0x00 :: List.replicate 256 0x05) = true := by
    refine hwhole.1.mpr ⟨[0x82, 0x01, 0x00], List.replicate 256 0x05, rfl, ?_⟩
    rw [List.length_replicate]
    exact hfield
  obtain ⟨hmore, hless⟩ := hwhole.2.1 hyes [0x05] (List.cons_ne_nil _ _)
  refine ⟨hyes, hmore, hless _ ?_, by decide, ?_⟩
  · simp only [List.cons_append, ← List.replicate_succ']
  · exact (hwhole.2.2 4 [0xff, 0xff, 0xff, 0xff, 0x00] (by decide) (by decide) (by decide)).2 4

end BrokerRelay.Pem
