import BrokerRelay.Pem.Block
import Mathlib.Data.List.Chain
import Mathlib.Data.List.Infix
import Mathlib.Tactic.Common
/-!
# Looking for the marks of a block

`seek` compares byte by byte and never goes back: a byte that does not fit starts the search anew behind
it. For a mark that is one byte repeated, which the five dashes and an empty line are, that finds the
first occurrence (`cut?_replicate_eq_some_iff`). For any mark it steps over a text that cannot start one:
a text without the first byte of the mark (`seek_skip`), and for a mark with two equal bytes at its start
a text in which no two of them meet (`seek_skip_isolated`).
-/

namespace BrokerRelay.Pem

variable {w b : UInt8} {marker awaited read text rest before after : Bytes}

/-! ## §1 Steps of the search -/

theorem seek_cons_eq (marker awaited read rest : Bytes) :
    seek marker (w :: awaited) read (w :: rest) = seek marker awaited (w :: read) rest := by
  rw [seek, if_pos rfl]

theorem seek_cons_ne (marker awaited read rest : Bytes) (h : b ≠ w) :
    seek marker (w :: awaited) read (b :: rest) = seek marker marker (b :: read) rest := by
  rw [seek, if_neg h]

/-- What is awaited is found when it comes next. -/
theorem seek_append (marker awaited read rest : Bytes) :
    seek marker awaited read (awaited ++ rest) =
      some (((awaited.reverse ++ read).drop marker.length).reverse, rest) := by
  induction awaited generalizing read with
  | nil => rw [List.nil_append, seek.eq_1]; rfl
  | cons w awaited ih =>
    rw [List.cons_append, seek_cons_eq, ih (w :: read), List.reverse_cons, List.append_assoc]
    rfl

/-- A mark that comes next is found, and what was read before it stands before it. -/
theorem seek_marker (marker read rest : Bytes) :
    seek marker marker read (marker ++ rest) = some (read.reverse, rest) := by
  rw [seek_append, List.drop_left' (List.length_reverse)]

/-- A text without the first byte of the mark is stepped over. -/
theorem seek_skip (h : w ∉ text) :
    seek (w :: marker) (w :: marker) read (text ++ rest) =
      seek (w :: marker) (w :: marker) (text.reverse ++ read) rest := by
  induction text generalizing read with
  | nil => rfl
  | cons b text ih =>
    have hb : b ≠ w := fun hb => h (hb ▸ List.mem_cons_self)
    have htext : w ∉ text := fun hmem => h (List.mem_cons_of_mem b hmem)
    rw [List.cons_append, seek_cons_ne _ _ _ _ hb, ih htext, List.reverse_cons, List.append_assoc]
    rfl

/-- A law of neighbours that every first one keeps by itself holds along a text. -/
theorem isChain_of_forall_mem {R : UInt8 → UInt8 → Prop} (h : ∀ a ∈ text, ∀ b, R a b) :
    text.IsChain R := by
  induction text with
  | nil => exact .nil
  | cons a text ih =>
    refine List.isChain_cons.mpr ⟨fun b _ => h a List.mem_cons_self b, ?_⟩
    exact ih fun a' ha' => h a' (List.mem_cons_of_mem a ha')

/-- No two bytes next to each other are both `w`. -/
def Isolated (w : UInt8) (text : Bytes) : Prop := text.IsChain fun a b => ¬(a = w ∧ b = w)

instance (w : UInt8) (text : Bytes) : Decidable (Isolated w text) :=
  inferInstanceAs (Decidable (text.IsChain fun a b => ¬(a = w ∧ b = w)))

theorem head?_ne_of_not_mem (h : w ∉ text) : text.head? ≠ some w :=
  fun hw => h (List.mem_of_head? hw)

theorem getLast?_ne_of_not_mem (h : w ∉ text) : text.getLast? ≠ some w :=
  fun hw => h (List.mem_of_getLast? hw)

theorem isolated_of_not_mem (h : w ∉ text) : Isolated w text := by
  apply isChain_of_forall_mem
  rintro a ha b ⟨rfl, -⟩
  exact h ha

/-- Two texts can be joined where the first does not end, or the second does not start, with `w`. -/
theorem Isolated.append {text' : Bytes} (h : Isolated w text) (h' : Isolated w text')
    (hmeet : text.getLast? ≠ some w ∨ text'.head? ≠ some w) : Isolated w (text ++ text') := by
  refine List.isChain_append.mpr ⟨h, h', ?_⟩
  rintro a ha b hb ⟨rfl, rfl⟩
  rcases hmeet with hlast | hhead
  · exact hlast ha
  · exact hhead hb

/-- Where they stand alone no two of them are in a row. -/
theorem Isolated.not_infix (h : Isolated w text) : ¬ [w, w] <:+: text := by
  intro hinfix
  have hpair : Isolated w [w, w] := List.IsChain.infix h hinfix
  exact (List.isChain_cons.mp hpair).1 w rfl ⟨rfl, rfl⟩

/-- A text in which the byte that the mark starts with, twice, stands alone is stepped over. -/
theorem seek_skip_isolated (marker : Bytes) {text : Bytes} (read rest : Bytes)
    (h : Isolated w text) (hlast : text.getLast? ≠ some w) :
    seek (w :: w :: marker) (w :: w :: marker) read (text ++ rest) =
      seek (w :: w :: marker) (w :: w :: marker) (text.reverse ++ read) rest := by
  match text with
  | [] => rfl
  | [b] =>
    have hb : b ≠ w := by simpa using hlast
    exact seek_cons_ne _ _ _ _ hb
  | b :: c :: text =>
    have htail : Isolated w (c :: text) := (List.isChain_cons.mp h).2
    have hlast' : (c :: text).getLast? ≠ some w := by simpa using hlast
    by_cases hb : b = w
    · -- the byte behind it does not fit, so two bytes are stepped over at once
      have hc : c ≠ w := fun hc => (List.isChain_cons.mp h).1 c rfl ⟨hb, hc⟩
      have hrest : Isolated w text := (List.isChain_cons.mp htail).2
      have hlast'' : text.getLast? ≠ some w := by
        cases text with
        | nil => simp
        | cons d text => simpa using hlast'
      rw [hb, List.cons_append, List.cons_append, seek_cons_eq, seek_cons_ne _ _ _ _ hc,
        seek_skip_isolated marker _ _ hrest hlast'']
      simp
    · rw [List.cons_append, seek_cons_ne _ _ _ _ hb, seek_skip_isolated marker _ _ htail hlast']
      simp
termination_by text.length

/-- What is found occurs: of the mark, `awaited` is still to come and the rest was just read. -/
theorem infix_of_seek {found : Bytes × Bytes} {seen : Bytes} (hmarker : marker = seen ++ awaited)
    (hseen : seen <:+ read.reverse) (h : seek marker awaited read text = some found) :
    marker <:+: read.reverse ++ text := by
  induction text generalizing awaited read seen with
  | nil =>
    cases awaited with
    | nil =>
      rw [hmarker, List.append_nil, List.append_nil]
      exact hseen.isInfix
    | cons w awaited => simp [seek] at h
  | cons b text ih =>
    have hassoc : read.reverse ++ b :: text = (b :: read).reverse ++ text := by simp
    cases awaited with
    | nil =>
      rw [hmarker, List.append_nil]
      exact hseen.isInfix.trans (List.prefix_append _ _).isInfix
    | cons w awaited =>
      rw [hassoc]
      by_cases hb : b = w
      · subst hb
        rw [seek_cons_eq] at h
        have hnext : marker = (seen ++ [b]) ++ awaited := by simp [hmarker]
        refine ih hnext ?_ h
        rw [List.reverse_cons]
        exact (List.suffix_append_inj_of_length_eq rfl).mpr ⟨hseen, rfl⟩
      · rw [seek_cons_ne _ _ _ _ hb] at h
        exact ih (List.nil_append marker).symm List.nil_suffix h

/-- A mark that occurs nowhere is not found. -/
theorem cut?_eq_none (h : ¬ marker <:+: text) : cut? marker text = none := by
  unfold cut?
  cases hseek : seek marker marker [] text with
  | none => rfl
  | some found =>
    exact absurd (infix_of_seek (List.nil_append marker).symm List.nil_suffix hseek) h

/-- What is found is found as well where more follows. -/
theorem seek_append_right (more : Bytes) (h : seek marker awaited read text = some (before, after)) :
    seek marker awaited read (text ++ more) = some (before, after ++ more) := by
  have hfound : ∀ {read text : Bytes}, seek marker [] read text = some (before, after) →
      seek marker [] read (text ++ more) = some (before, after ++ more) := by
    intro read text h
    rw [seek.eq_1] at h ⊢
    cases h
    rfl
  induction text generalizing awaited read with
  | nil =>
    cases awaited with
    | nil => exact hfound h
    | cons w awaited => simp [seek] at h
  | cons b text ih =>
    cases awaited with
    | nil => exact hfound h
    | cons w awaited =>
      rw [List.cons_append]
      by_cases hb : b = w
      · subst hb
        rw [seek_cons_eq] at h ⊢
        exact ih h
      · rw [seek_cons_ne _ _ _ _ hb] at h ⊢
        exact ih h

theorem cut?_append_right (more : Bytes) (h : cut? marker text = some (before, after)) :
    cut? marker (text ++ more) = some (before, after ++ more) :=
  seek_append_right more h

/-- Behind a text without the mark the search starts anew, if the text ends with a byte that the mark does
not hold: no part of the mark can be read already. -/
theorem seek_skip_not_found (hb : b ∉ marker) (hawaited : awaited <:+ marker)
    (h : seek marker awaited read (text ++ [b]) = none) :
    seek marker awaited read (text ++ b :: rest) =
      seek marker marker (b :: text.reverse ++ read) rest := by
  induction text generalizing awaited read with
  | nil =>
    cases awaited with
    | nil => simp [seek] at h
    | cons w awaited =>
      have hne : b ≠ w := fun heq => hb (hawaited.subset (heq ▸ List.mem_cons_self))
      exact seek_cons_ne _ _ _ _ hne
  | cons c text ih =>
    have hassoc : b :: (c :: text).reverse ++ read = b :: text.reverse ++ c :: read := by simp
    rw [hassoc]
    rw [List.cons_append] at h ⊢
    cases awaited with
    | nil => simp [seek] at h
    | cons w awaited =>
      by_cases hc : c = w
      · subst hc
        rw [seek_cons_eq] at h ⊢
        exact ih ((List.suffix_cons c awaited).trans hawaited) h
      · rw [seek_cons_ne _ _ _ _ hc] at h ⊢
        exact ih List.suffix_rfl h

/-- A mark is found behind a text that holds none and does not end inside of one. -/
theorem cut?_append_left (hfree : ¬ marker <:+: text) (hlast : ∀ b ∈ text.getLast?, b ∉ marker)
    (rest : Bytes) : cut? marker (text ++ (marker ++ rest)) = some (text, rest) := by
  have hnone : cut? marker text = none := cut?_eq_none hfree
  rcases List.eq_nil_or_concat' text with rfl | ⟨init, b, rfl⟩
  · exact seek_marker marker [] rest
  · have hb : b ∉ marker := hlast b (by simp)
    unfold cut? at hnone ⊢
    rw [List.append_assoc, List.singleton_append, seek_skip_not_found hb List.suffix_rfl hnone,
      seek_marker]
    simp

/-! ## §2 Marks of one byte repeated -/

theorem not_prefix_replicate {n k : Nat} (hk : k < n) (hb : b ≠ w) :
    ¬ List.replicate n w <+: List.replicate k w ++ b :: text := by
  induction k generalizing n with
  | zero =>
    obtain ⟨n, rfl⟩ := Nat.exists_eq_succ_of_ne_zero (Nat.ne_of_gt hk)
    intro h
    exact hb (List.cons_prefix_cons.mp h).1.symm
  | succ k ih =>
    obtain ⟨n, rfl⟩ := Nat.exists_eq_succ_of_ne_zero (Nat.ne_of_gt (Nat.zero_lt_of_lt hk))
    intro h
    exact ih (Nat.lt_of_succ_lt_succ hk) (List.cons_prefix_cons.mp h).2

/-- Behind fewer than `n` of them and another byte, `n` in a row are in the rest. -/
theorem infix_replicate_iff {n k : Nat} (hk : k < n) (hb : b ≠ w) :
    List.replicate n w <:+: List.replicate k w ++ b :: text ↔ List.replicate n w <:+: text := by
  induction k with
  | zero =>
    rw [List.replicate_zero, List.nil_append, List.infix_cons_iff]
    exact or_iff_right (not_prefix_replicate (k := 0) hk hb)
  | succ k ih =>
    rw [List.replicate_succ, List.cons_append, List.infix_cons_iff, ih (by omega)]
    exact or_iff_right (not_prefix_replicate hk hb)

theorem replicate_sub {n k : Nat} (hk : k < n) (w : UInt8) :
    List.replicate (n - k) w = w :: List.replicate (n - (k + 1)) w := by
  rw [← List.replicate_succ]
  congr 1
  omega

/-- With `k` of them just read, the search ends at the `n` in a row behind `before` if there are none
earlier. -/
theorem seek_replicate_append {n k : Nat} (hk : k < n) (read after : Bytes)
    (h : ¬ List.replicate n w <:+: List.replicate k w ++ before ++ List.replicate (n - 1) w) :
    seek (List.replicate n w) (List.replicate (n - k) w) read
        (before ++ (List.replicate n w ++ after)) =
      some ((before.reverse ++ read).reverse, after) := by
  induction before generalizing read k with
  | nil =>
    -- one that has just been read would make the mark end earlier
    obtain rfl : k = 0 := by
      by_contra hne
      apply h
      refine ⟨[], List.replicate (k - 1) w, ?_⟩
      rw [List.nil_append, List.append_nil, ← List.replicate_add, ← List.replicate_add]
      congr 1
      omega
    exact seek_marker _ _ _
  | cons b before ih =>
    rw [replicate_sub hk w, List.cons_append]
    by_cases hb : b = w
    · subst hb
      have hassoc : List.replicate k b ++ b :: before = List.replicate (k + 1) b ++ before := by
        rw [List.replicate_succ', List.append_assoc]
        rfl
      rw [hassoc] at h
      have hk' : k + 1 < n := by
        by_contra hge
        apply h
        obtain rfl : n = k + 1 := by omega
        rw [List.append_assoc]
        exact (List.prefix_append _ _).isInfix
      rw [seek_cons_eq, ih hk' _ h]
      simp
    · rw [List.append_assoc, List.cons_append, infix_replicate_iff hk hb] at h
      have hzero := ih (k := 0) (Nat.zero_lt_of_lt hk) (b :: read) (by simpa using h)
      rw [Nat.sub_zero] at hzero
      rw [seek_cons_ne _ _ _ _ hb, hzero]
      simp

/-- With `k` of them just read, what the search reads ends with `n` in a row, and holds none earlier. -/
theorem of_seek_replicate {n k : Nat} (hn : 0 < n) (hk : k ≤ n)
    (h : seek (List.replicate n w) (List.replicate (n - k) w) read text = some (before, after)) :
    ∃ taken whole, text = taken ++ after ∧ before = ((taken.reverse ++ read).drop n).reverse ∧
      List.replicate k w ++ taken = whole ++ List.replicate n w ∧
      ¬ List.replicate n w <:+: whole ++ List.replicate (n - 1) w := by
  have hshort : ¬ List.replicate n w <:+: List.replicate (n - 1) w := by
    intro hinfix
    have hlen := hinfix.length_le
    rw [List.length_replicate, List.length_replicate] at hlen
    omega
  have hfound : ∀ {read text before after : Bytes},
      seek (List.replicate n w) [] read text = some (before, after) →
        ∃ taken whole, text = taken ++ after ∧ before = ((taken.reverse ++ read).drop n).reverse ∧
          List.replicate n w ++ taken = whole ++ List.replicate n w ∧
          ¬ List.replicate n w <:+: whole ++ List.replicate (n - 1) w := by
    intro read text before after h
    rw [seek.eq_1, List.length_replicate] at h
    cases h
    exact ⟨[], [], rfl, rfl, by simp, hshort⟩
  induction text generalizing read k with
  | nil =>
    by_cases hlt : k < n
    · rw [replicate_sub hlt w] at h
      simp [seek] at h
    · obtain rfl : k = n := by omega
      rw [Nat.sub_self] at h
      exact hfound h
  | cons b text ih =>
    by_cases hlt : k < n
    · rw [replicate_sub hlt w] at h
      by_cases hb : b = w
      · subst hb
        rw [seek_cons_eq] at h
        obtain ⟨taken, whole, rfl, hbefore, hwhole, hfree⟩ := ih (by omega) h
        refine ⟨b :: taken, whole, rfl, ?_, ?_, hfree⟩
        · simpa using hbefore
        · rw [← hwhole, List.replicate_succ', List.append_assoc]
          rfl
      · rw [seek_cons_ne _ _ _ _ hb] at h
        obtain ⟨taken, whole, rfl, hbefore, hwhole, hfree⟩ := ih (k := 0) (Nat.zero_le n) h
        refine ⟨b :: taken, List.replicate k w ++ b :: whole, rfl, ?_, ?_, ?_⟩
        · simpa using hbefore
        · rw [List.replicate_zero, List.nil_append] at hwhole
          rw [hwhole]
          simp
        · rw [List.append_assoc, List.cons_append, infix_replicate_iff hlt hb]
          exact hfree
    · obtain rfl : k = n := by omega
      rw [Nat.sub_self] at h
      exact hfound h

/-- **A mark of one byte repeated is found where it first occurs**: it stands behind `before`, and not
earlier, also not with bytes of `before` in it. -/
theorem cut?_replicate_eq_some_iff {n : Nat} (hn : 0 < n) :
    cut? (List.replicate n w) text = some (before, after) ↔
      text = before ++ (List.replicate n w ++ after) ∧
        ¬ List.replicate n w <:+: before ++ List.replicate (n - 1) w := by
  unfold cut?
  constructor
  · intro h
    obtain ⟨taken, whole, rfl, hbefore, hwhole, hfree⟩ :=
      of_seek_replicate (k := 0) hn (Nat.zero_le n) h
    rw [List.replicate_zero, List.nil_append] at hwhole
    obtain rfl : before = whole := by
      rw [hbefore, hwhole, List.append_nil, List.reverse_append,
        List.drop_left' (by simp), List.reverse_reverse]
    rw [hwhole, List.append_assoc]
    exact ⟨rfl, hfree⟩
  · rintro ⟨rfl, hfree⟩
    have hfound := seek_replicate_append (k := 0) hn [] after (by simpa using hfree)
    rw [Nat.sub_zero] at hfound
    rw [hfound, List.append_nil, List.reverse_reverse]

end BrokerRelay.Pem
