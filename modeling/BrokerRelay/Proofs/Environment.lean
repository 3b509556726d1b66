import BrokerRelay.Environment
import Mathlib.Data.List.Basic
import Mathlib.Tactic.Common
/-!
# Expansion is one pass

What decides how a text is expanded is where its references are, and a reference starts with the only dollar
sign in it. So a text can be cut before any dollar sign and its parts expanded by themselves
(`expandChars_append_dollar`): nothing that stands before a reference can reach into it, whatever dollar signs
and braces there are. A value that is put in is never looked at again.

`OnePass` states this as two laws on all texts. They leave nothing open: expansion is the only function with
these laws (`onePass_iff_eq_expand`).
-/

namespace BrokerRelay.Environment

/-! ## §1 References -/

/-- A variable name: a letter or an underscore, and then letters, digits and underscores. -/
def Names (name : List Char) : Prop :=
  ∃ c cs, name = c :: cs ∧ (c.isAlpha = true ∨ c = '_') ∧ ∀ d ∈ cs, d.isAlphanum = true ∨ d = '_'

theorem isNameChar_iff {c : Char} : isNameChar c = true ↔ c.isAlphanum = true ∨ c = '_' := by
  simp [isNameChar]

theorem isName_iff {name : List Char} : isName name = true ↔ Names name := by
  cases name with
  | nil => exact iff_of_false nofun nofun
  | cons c cs => simp [isName, Names, isNameChar_iff]

/-- A name consists of characters of names. -/
theorem Names.isNameChar {name : List Char} (h : Names name) : ∀ c ∈ name, isNameChar c = true := by
  obtain ⟨first, rest, rfl, hfirst, hrest⟩ := h
  intro c hc
  rw [isNameChar_iff]
  rcases List.mem_cons.mp hc with rfl | hc
  · exact hfirst.imp_left fun halpha => by simp [Char.isAlphanum, halpha]
  · exact hrest c hc

/-- A reference to a variable. -/
def reference (name : List Char) : List Char := '$' :: '\x7b' :: (name ++ ['\x7d'])

/-- A text starts with a reference exactly if it is put together from one. -/
theorem reference?_eq_some_iff {cs name rest : List Char} :
    reference? cs = some (name, rest) ↔ Names name ∧ cs = reference name ++ rest := by
  constructor
  · intro h
    unfold reference? at h
    split at h
    · next tail =>
      split at h
      · next after hafter =>
        split at h
        · next hname =>
          cases h
          have htail := List.takeWhile_append_dropWhile (p := Environment.isNameChar) (l := tail)
          rw [hafter] at htail
          refine ⟨isName_iff.mp hname, ?_⟩
          simp [reference, htail]
        · cases h
      · cases h
    · cases h
  · rintro ⟨hname, rfl⟩
    have htake : (name ++ '\x7d' :: rest).takeWhile Environment.isNameChar = name := by
      rw [List.takeWhile_append_of_pos hname.isNameChar]
      simp [Environment.isNameChar, Char.isAlphanum]
    have hdrop : (name ++ '\x7d' :: rest).dropWhile Environment.isNameChar = '\x7d' :: rest := by
      rw [List.dropWhile_append_of_pos hname.isNameChar]
      simp [Environment.isNameChar, Char.isAlphanum]
    simp [reference, reference?, htake, hdrop, isName_iff.mpr hname]

/-- The only dollar sign of a reference is its first character. -/
theorem dollar_not_mem_reference {name : List Char} (h : Names name) :
    '$' ∉ '\x7b' :: (name ++ ['\x7d']) := by
  intro hmem
  have hname : '$' ∉ name := fun hmem => absurd (h.isNameChar '$' hmem) (by decide)
  simp [hname] at hmem

/-- A reference does not depend on what follows it. -/
theorem reference?_append {cs name rest : List Char} (h : reference? cs = some (name, rest))
    (more : List Char) : reference? (cs ++ more) = some (name, rest ++ more) := by
  obtain ⟨hname, rfl⟩ := reference?_eq_some_iff.mp h
  rw [List.append_assoc]
  exact reference?_eq_some_iff.mpr ⟨hname, rfl⟩

/-- Where no reference starts, none does when a dollar sign has been put behind the text. -/
theorem reference?_append_dollar {c : Char} {cs : List Char} (h : reference? (c :: cs) = none)
    (more : List Char) : reference? (c :: cs ++ '$' :: more) = none := by
  cases hfound : reference? (c :: cs ++ '$' :: more) with
  | none => rfl
  | some found =>
    obtain ⟨name, rest⟩ := found
    obtain ⟨hname, heq⟩ := reference?_eq_some_iff.mp hfound
    -- a reference that ends before the dollar sign was there already
    have hbefore : ∀ after, c :: cs ≠ reference name ++ after := by
      intro after hafter
      cases h.symm.trans (reference?_eq_some_iff.mpr ⟨hname, hafter⟩)
    rcases List.append_eq_append_iff.mp heq with ⟨part, hpart, hmore⟩ | ⟨after, hafter, -⟩
    · cases part with
      | nil => exact absurd (by simpa using hpart.symm) (hbefore [])
      | cons d part =>
        -- the dollar sign is in the reference, but not in front
        obtain rfl := (List.cons.inj hmore).1
        have htail := (List.cons.inj hpart).2
        refine absurd ?_ (dollar_not_mem_reference hname)
        rw [htail]
        exact List.mem_append_right cs List.mem_cons_self
    · exact absurd hafter (hbefore after)

/-! ## §2 Expanding -/

variable {env : Environment}

theorem expandChars_of_reference {cs name rest : List Char} (h : reference? cs = some (name, rest)) :
    env.expandChars cs = (env.getD (String.ofList name)).toList ++ env.expandChars rest := by
  rw [expandChars]
  split
  · next heq =>
    cases h.symm.trans heq
    rfl
  · next heq => cases h.symm.trans heq

theorem expandChars_nil : env.expandChars [] = [] := by
  rw [expandChars]
  rfl

theorem expandChars_cons {c : Char} {cs : List Char} (h : reference? (c :: cs) = none) :
    env.expandChars (c :: cs) = c :: env.expandChars cs := by
  rw [expandChars]
  split
  · next heq => cases h.symm.trans heq
  · rfl

/-- **Texts can be cut before dollar signs.** -/
theorem expandChars_append_dollar (cs more : List Char) :
    env.expandChars (cs ++ '$' :: more) = env.expandChars cs ++ env.expandChars ('$' :: more) := by
  induction cs using expandChars.induct with
  | case1 cs name rest h ih =>
    rw [expandChars_of_reference h, expandChars_of_reference (reference?_append h _), ih, List.append_assoc]
  | case2 _ => rw [expandChars_nil, List.nil_append, List.nil_append]
  | case3 c cs h ih =>
    calc env.expandChars (c :: (cs ++ '$' :: more))
      _ = c :: env.expandChars (cs ++ '$' :: more) := expandChars_cons (reference?_append_dollar h more)
      _ = c :: env.expandChars cs ++ env.expandChars ('$' :: more) := by rw [ih, List.cons_append]
      _ = env.expandChars (c :: cs) ++ env.expandChars ('$' :: more) := by rw [expandChars_cons h]

/-- A reference is replaced by the value, whatever stands around it. -/
theorem expandChars_append_reference {name : List Char} (h : Names name) (before after : List Char) :
    env.expandChars (before ++ reference name ++ after) =
      env.expandChars before ++ (env.getD (String.ofList name)).toList ++ env.expandChars after := by
  have hfound : reference? (reference name ++ after) = some (name, after) :=
    reference?_eq_some_iff.mpr ⟨h, rfl⟩
  rw [List.append_assoc, List.append_assoc, ← expandChars_of_reference hfound]
  exact expandChars_append_dollar before _

/-- A text without references is left as it is. -/
theorem expandChars_of_no_reference {cs : List Char}
    (h : ∀ before name after, Names name → cs ≠ before ++ reference name ++ after) :
    env.expandChars cs = cs := by
  induction cs with
  | nil => exact expandChars_nil
  | cons c cs ih =>
    have hfront : reference? (c :: cs) = none := by
      cases hfound : reference? (c :: cs) with
      | none => rfl
      | some found =>
        obtain ⟨hname, heq⟩ := reference?_eq_some_iff.mp hfound
        exact absurd heq (h [] _ _ hname)
    rw [expandChars_cons hfront, ih fun before name after hname heq => ?_]
    exact h (c :: before) name after hname (congrArg (c :: ·) heq)

/-! ## §3 One pass -/

/-- A reference to a variable, as text. -/
def referenceTo (name : String) : String := "$\x7b" ++ name ++ "\x7d"

theorem toList_referenceTo (name : String) : (referenceTo name).toList = reference name.toList := by
  simp [referenceTo, reference]

theorem toList_expand (s : String) : (env.expand s).toList = env.expandChars s.toList :=
  String.toList_ofList

/-- The laws of an expansion that goes over a text once: what stands before a reference and what stands
behind it are expanded by themselves and the value between them is left as it is, and so is a text without
references. -/
structure OnePass (env : Environment) (f : String → String) : Prop where
  reference (before name after : String) : Names name.toList →
    f (before ++ referenceTo name ++ after) = f before ++ (env.get? name).getD "" ++ f after
  literal (s : String) :
    (∀ before name after, Names name.toList → s ≠ before ++ referenceTo name ++ after) → f s = s

theorem onePass_expand (env : Environment) : OnePass env env.expand where
  reference before name after hname := by
    apply String.ext
    simp only [toList_expand, String.toList_append, toList_referenceTo,
      expandChars_append_reference hname, String.ofList_toList, getD]
  literal s hs := by
    apply String.ext
    rw [toList_expand]
    refine expandChars_of_no_reference fun before name after hname heq => ?_
    refine hs (.ofList before) (.ofList name) (.ofList after) (by simpa using hname) (String.ext ?_)
    simpa only [String.toList_append, toList_referenceTo, String.toList_ofList] using heq

/-- The parts around a reference are shorter than the text. -/
theorem length_lt_of_referenceTo (before name after : String) :
    before.length < (before ++ referenceTo name ++ after).length ∧
      after.length < (before ++ referenceTo name ++ after).length := by
  have hpos : 0 < (referenceTo name).length := by
    rw [← String.length_toList, toList_referenceTo]
    exact Nat.succ_pos _
  simp only [String.length_append]
  omega

/-- Two functions with the laws of one pass agree on every text. -/
theorem OnePass.unique {f g : String → String} (hf : OnePass env f) (hg : OnePass env g) (s : String) :
    f s = g s := by
  induction hlength : s.length using Nat.strongRecOn generalizing s with
  | ind n ih =>
    subst hlength
    by_cases href : ∃ before name after, Names name.toList ∧ s = before ++ referenceTo name ++ after
    · obtain ⟨before, name, after, hname, rfl⟩ := href
      obtain ⟨hbefore, hafter⟩ := length_lt_of_referenceTo before name after
      rw [hf.reference _ _ _ hname, hg.reference _ _ _ hname, ih _ hbefore before rfl,
        ih _ hafter after rfl]
    · have hnone : ∀ before name after, Names name.toList → s ≠ before ++ referenceTo name ++ after :=
        fun before name after hname heq => href ⟨before, name, after, hname, heq⟩
      rw [hf.literal s hnone, hg.literal s hnone]

/-- **Expansion is the one pass over a text.** For every environment, expansion has the laws of `OnePass`
for all texts and all names, and no other function has them. -/
theorem onePass_iff_eq_expand (env : Environment) (f : String → String) :
    OnePass env f ↔ f = env.expand := by
  constructor
  · intro hf
    exact funext (hf.unique (onePass_expand env))
  · rintro rfl
    exact onePass_expand env

/-- Without a closing brace there is no reference. -/
theorem ne_append_referenceTo {s : String} (h : '\x7d' ∉ s.toList) (before name after : String) :
    s ≠ before ++ referenceTo name ++ after := by
  rintro rfl
  simp [toList_referenceTo, Environment.reference] at h

/-- An environment with a value that is a reference to itself. -/
def selfReferring : Environment := ⟨[("A", "$\x7bA\x7d")]⟩

/-- The value is put in as it is, an unset variable has none, and a reference without an end is left. -/
theorem onePass_iff_eq_expand_selfReferring :
    selfReferring.expand "$$\x7bA\x7d$\x7bB\x7d$\x7bA" = "$$\x7bA\x7d$\x7bA" := by
  have hpass := (onePass_iff_eq_expand selfReferring selfReferring.expand).mpr rfl
  have hopen : ∀ s : String, '\x7d' ∉ s.toList → selfReferring.expand s = s := fun s hs =>
    hpass.literal s fun before name after _ => ne_append_referenceTo hs before name after
  calc selfReferring.expand "$$\x7bA\x7d$\x7bB\x7d$\x7bA"
    _ = selfReferring.expand ("$" ++ referenceTo "A" ++ ("" ++ referenceTo "B" ++ "$\x7bA")) := rfl
    _ = selfReferring.expand "$" ++ "$\x7bA\x7d" ++
        (selfReferring.expand "" ++ "" ++ selfReferring.expand "$\x7bA") := by
      rw [hpass.reference _ _ _ ⟨'A', [], rfl, .inl rfl, nofun⟩,
        hpass.reference _ _ _ ⟨'B', [], rfl, .inl rfl, nofun⟩]
      rfl
    _ = "$" ++ "$\x7bA\x7d" ++ ("" ++ "" ++ "$\x7bA") := by
      rw [hopen "$" (by decide), hopen "" (by decide), hopen "$\x7bA" (by decide)]
    _ = "$$\x7bA\x7d$\x7bA" := rfl

end BrokerRelay.Environment
