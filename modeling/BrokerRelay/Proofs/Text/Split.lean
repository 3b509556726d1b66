import BrokerRelay.Text.Blank
import BrokerRelay.Text.Split
import Mathlib.Data.List.Basic
import Mathlib.Data.List.TakeWhile
import Mathlib.Tactic.Common
/-!
# Where text is cut

The first part of a text cut at a separator, and the first line of a text, each characterised by how
the text is put together from it. The parts behind the first are those of the text behind the first
separator (`splitAt_append`), so this is all that a reader of two fields needs. A text cut at its last
separator is put together from the two sides (`cutLast?_eq_some_iff`). A text of two lines is read as
those lines (`lines_append`), and one without blanks is left whole by trimming.
-/

namespace BrokerRelay.Text

/-! ## §1 Cutting at a separator -/

theorem splitAt_of_not_mem {sep : Char} {cs : List Char} (h : sep ∉ cs) : splitAt sep cs = [cs] := by
  induction cs with
  | nil => rfl
  | cons c cs ih =>
    have hc : c ≠ sep := fun hc => h (hc ▸ List.mem_cons_self)
    have hcs : sep ∉ cs := fun hmem => h (List.mem_cons_of_mem c hmem)
    rw [splitAt, if_neg hc, ih hcs]

/-- A part without the separator is cut off, and the cutting goes on behind the separator. -/
theorem splitAt_append {sep : Char} {part : List Char} (h : sep ∉ part) (rest : List Char) :
    splitAt sep (part ++ sep :: rest) = part :: splitAt sep rest := by
  induction part with
  | nil => rw [List.nil_append, splitAt, if_pos rfl]
  | cons c part ih =>
    have hc : c ≠ sep := fun hc => h (hc ▸ List.mem_cons_self)
    have hpart : sep ∉ part := fun hmem => h (List.mem_cons_of_mem c hmem)
    rw [List.cons_append, splitAt, if_neg hc, ih hpart]

/-- A text has the separator nowhere, or a first time. -/
theorem not_mem_or_eq_append (sep : Char) (cs : List Char) :
    sep ∉ cs ∨ ∃ part rest, sep ∉ part ∧ cs = part ++ sep :: rest := by
  by_cases hmem : sep ∈ cs
  · obtain ⟨part, rest, heq, hpart⟩ := List.eq_append_cons_of_mem hmem
    exact .inr ⟨part, rest, hpart, heq⟩
  · exact .inl hmem

theorem splitAt_ne_nil (sep : Char) (cs : List Char) : splitAt sep cs ≠ [] := by
  rcases not_mem_or_eq_append sep cs with h | ⟨part, rest, h, rfl⟩
  · rw [splitAt_of_not_mem h]
    exact List.cons_ne_nil _ _
  · rw [splitAt_append h]
    exact List.cons_ne_nil _ _

/-- The first part is the text up to the first separator, or all of it. -/
theorem headD_splitAt_eq_iff {sep : Char} {cs part : List Char} :
    (splitAt sep cs).headD [] = part ↔
      sep ∉ part ∧ (cs = part ∨ ∃ rest, cs = part ++ sep :: rest) := by
  constructor
  · rintro rfl
    rcases not_mem_or_eq_append sep cs with h | ⟨part, rest, h, rfl⟩
    · rw [splitAt_of_not_mem h]
      exact ⟨h, .inl rfl⟩
    · rw [splitAt_append h]
      exact ⟨h, .inr ⟨rest, rfl⟩⟩
  · rintro ⟨h, rfl | ⟨rest, rfl⟩⟩
    · rw [splitAt_of_not_mem h]
      rfl
    · rw [splitAt_append h]
      rfl

/-- What stands in front of the first separator is cut off. -/
theorem cutFirst?_append {sep : Char} {part : List Char} (h : sep ∉ part) (rest : List Char) :
    cutFirst? sep (part ++ sep :: rest) = some (part, rest) := by
  induction part with
  | nil => rw [List.nil_append, cutFirst?, if_pos rfl]
  | cons c part ih =>
    have hc : c ≠ sep := fun hc => h (hc ▸ List.mem_cons_self)
    have hpart : sep ∉ part := fun hmem => h (List.mem_cons_of_mem c hmem)
    rw [List.cons_append, cutFirst?, if_neg hc, ih hpart]
    rfl

theorem cutFirst?_of_not_mem {sep : Char} {cs : List Char} (h : sep ∉ cs) : cutFirst? sep cs = none := by
  induction cs with
  | nil => rfl
  | cons c cs ih =>
    have hc : c ≠ sep := fun hc => h (hc ▸ List.mem_cons_self)
    have hcs : sep ∉ cs := fun hmem => h (List.mem_cons_of_mem c hmem)
    rw [cutFirst?, if_neg hc, ih hcs]
    rfl

/-- Cutting loses nothing but separators. -/
theorem exists_mem_splitAt {sep c : Char} {cs : List Char} (hc : c ∈ cs) (hne : c ≠ sep) :
    ∃ part ∈ splitAt sep cs, c ∈ part := by
  induction cs with
  | nil => cases hc
  | cons d cs ih =>
    unfold splitAt
    by_cases hd : d = sep
    · rw [if_pos hd]
      have hmem : c ∈ cs := (List.mem_cons.mp hc).resolve_left fun heq => hne (heq.trans hd)
      obtain ⟨part, hpart, hmem⟩ := ih hmem
      exact ⟨part, List.mem_cons_of_mem _ hpart, hmem⟩
    · rw [if_neg hd]
      rcases List.mem_cons.mp hc with rfl | hmem
      · -- the first character goes to the front of the first part
        cases splitAt sep cs with
        | nil => exact ⟨[c], List.mem_cons_self, List.mem_cons_self⟩
        | cons part parts => exact ⟨c :: part, List.mem_cons_self, List.mem_cons_self⟩
      · obtain ⟨part, hpart, hmem⟩ := ih hmem
        cases hparts : splitAt sep cs with
        | nil => exact absurd hparts (splitAt_ne_nil sep cs)
        | cons first parts =>
          rw [hparts] at hpart
          rcases List.mem_cons.mp hpart with rfl | hpart
          · exact ⟨d :: part, List.mem_cons_self, List.mem_cons_of_mem d hmem⟩
          · exact ⟨part, List.mem_cons_of_mem _ hpart, hmem⟩

theorem cutLast?_eq_none_iff {sep : Char} {cs : List Char} : cutLast? sep cs = none ↔ sep ∉ cs := by
  induction cs with
  | nil => simp [cutLast?]
  | cons c cs ih =>
    unfold cutLast?
    cases hcut : cutLast? sep cs with
    | some parts =>
      have hmem : sep ∈ cs := by
        by_contra hnot
        rw [ih.mpr hnot] at hcut
        cases hcut
      simp [hmem]
    | none =>
      have hnot := ih.mp hcut
      by_cases hc : c = sep
      · simp [hc]
      · simp [hc, hnot, Ne.symm hc]

/-- A text is cut at its last separator, behind which there is none. -/
theorem cutLast?_eq_some_iff {sep : Char} {cs before after : List Char} :
    cutLast? sep cs = some (before, after) ↔ cs = before ++ sep :: after ∧ sep ∉ after := by
  constructor
  · intro h
    induction cs generalizing before with
    | nil => cases h
    | cons c cs ih =>
      unfold cutLast? at h
      cases hcut : cutLast? sep cs with
      | some parts =>
        rw [hcut] at h
        cases h
        obtain ⟨rfl, hafter⟩ := ih hcut
        exact ⟨rfl, hafter⟩
      | none =>
        simp only [hcut] at h
        split at h
        · next hc =>
          cases h
          rw [hc]
          exact ⟨rfl, cutLast?_eq_none_iff.mp hcut⟩
        · cases h
  · rintro ⟨rfl, hafter⟩
    induction before with
    | nil =>
      rw [List.nil_append, cutLast?, cutLast?_eq_none_iff.mpr hafter]
      exact if_pos rfl
    | cons c before ih => rw [List.cons_append, cutLast?, ih]

/-! ## §2 The first line -/

/-- The first line of a text that has a line ending: what stands before its first LF, or before the
CR that stands there. -/
inductive FirstLine : List Char → List Char → Prop
  | crlf {line : List Char} (rest : List Char) : '\n' ∉ line →
      FirstLine (line ++ '\r' :: '\n' :: rest) line
  | lf {line : List Char} (rest : List Char) : '\n' ∉ line → line.getLast? ≠ some '\r' →
      FirstLine (line ++ '\n' :: rest) line

theorem withoutCr_append (line : List Char) : withoutCr (line ++ ['\r']) = line := by
  simp [withoutCr]

theorem withoutCr_of_getLast?_ne {line : List Char} (h : line.getLast? ≠ some '\r') :
    withoutCr line = line := if_neg h

/-- What stands before the first LF is the first line, without its CR. -/
theorem headD_lines_append {before : List Char} (h : '\n' ∉ before) (rest : List Char) :
    (lines (before ++ '\n' :: rest)).headD [] = withoutCr before := by
  unfold lines
  rw [splitAt_append h]
  -- the last part is one of those behind the LF
  have hlast := List.dropLast_append_getLast (splitAt_ne_nil '\n' rest)
  rw [← hlast, List.reverse_cons, List.reverse_append]
  simp

/-- The first line of a text with a line ending is the one that the text is put together from. -/
theorem headD_lines_eq_iff {cs line : List Char} (hmem : '\n' ∈ cs) :
    (lines cs).headD [] = line ↔ FirstLine cs line := by
  constructor
  · rintro rfl
    obtain ⟨before, rest, rfl, hbefore⟩ := List.eq_append_cons_of_mem hmem
    rw [headD_lines_append hbefore]
    by_cases hcr : before.getLast? = some '\r'
    · obtain ⟨line, rfl⟩ := List.getLast?_eq_some_iff.mp hcr
      rw [withoutCr_append, List.append_assoc]
      exact .crlf rest fun h => hbefore (List.mem_append_left _ h)
    · rw [withoutCr_of_getLast?_ne hcr]
      exact .lf rest hbefore hcr
  · rintro (⟨rest, hline⟩ | ⟨rest, hline, hcr⟩)
    · have hbefore : '\n' ∉ line ++ ['\r'] := by simpa using hline
      have hlines := headD_lines_append hbefore rest
      rwa [withoutCr_append, List.append_assoc] at hlines
    · rw [headD_lines_append hline, withoutCr_of_getLast?_ne hcr]

/-! ## §3 Two lines -/

/-- A text of two lines, the second one without an ending. -/
theorem lines_append {first last : List Char} (hfirst : '\n' ∉ first) (hlast : '\n' ∉ last)
    (hne : last ≠ []) : lines (first ++ '\n' :: last) = [withoutCr first, last] := by
  unfold lines
  rw [splitAt_append hfirst, splitAt_of_not_mem hlast]
  simp [hne]

/-! ## §4 Blanks at the ends -/

/-- A text without blanks has none at its ends. -/
theorem trimChars_of_not_blank {cs : List Char} (h : ∀ c ∈ cs, isBlank c = false) :
    trimChars cs = cs := by
  have hdrop : ∀ ds : List Char, (∀ c ∈ ds, isBlank c = false) → dropBlank ds = ds := by
    intro ds hds
    cases ds with
    | nil => rfl
    | cons d ds => exact List.dropWhile_cons_of_neg (by simp [hds d List.mem_cons_self])
  unfold trimChars
  rw [hdrop cs h, hdrop cs.reverse (fun c hc => h c (List.mem_reverse.mp hc)), List.reverse_reverse]

theorem trimChars_cons_blank {c : Char} (h : isBlank c) (cs : List Char) :
    trimChars (c :: cs) = trimChars cs := by
  unfold trimChars dropBlank
  rw [List.dropWhile_cons_of_pos h]

/-- Blanks in front of a text are trimmed. -/
theorem trimChars_blank_append {blank : List Char} (h : ∀ c ∈ blank, isBlank c = true)
    (cs : List Char) : trimChars (blank ++ cs) = trimChars cs := by
  unfold trimChars dropBlank
  rw [List.dropWhile_append_of_pos h]

/-- Blanks behind a text are trimmed. -/
theorem trimChars_append_blank {blank : List Char} (h : ∀ c ∈ blank, isBlank c = true)
    (cs : List Char) : trimChars (cs ++ blank) = trimChars cs := by
  unfold trimChars dropBlank
  rw [List.dropWhile_append]
  split
  · next hempty =>
    -- the text has blanks only, and so has what follows it
    rw [List.isEmpty_iff.mp hempty, List.dropWhile_eq_nil_iff.mpr h]
  · rw [List.reverse_append, List.dropWhile_append_of_pos fun c hc => h c (List.mem_reverse.mp hc)]

/-- Only blanks are trimmed. -/
theorem exists_eq_append_trimChars (cs : List Char) : ∃ left right : List Char,
    cs = left ++ trimChars cs ++ right ∧ (∀ c ∈ left, isBlank c = true) ∧
      ∀ c ∈ right, isBlank c = true := by
  refine ⟨cs.takeWhile isBlank, ((dropBlank cs).reverse.takeWhile isBlank).reverse, ?_,
    fun _ hc => List.mem_takeWhile_imp hc, fun _ hc => List.mem_takeWhile_imp (List.mem_reverse.mp hc)⟩
  unfold trimChars dropBlank
  rw [List.append_assoc, ← List.reverse_append, List.takeWhile_append_dropWhile,
    List.reverse_reverse, List.takeWhile_append_dropWhile]

end BrokerRelay.Text
