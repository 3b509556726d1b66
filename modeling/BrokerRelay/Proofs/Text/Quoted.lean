import BrokerRelay.Proofs.Bytes.Hex
import BrokerRelay.Proofs.Text.Split
import BrokerRelay.Text.Quoted
/-!
# What a written form tells

A written form of a value is unambiguous when two values have one form only if nothing that the form
is meant to show differs between them. `Tells text shown` says so for a writer `text` and a relation
`shown` between values, and says it with any text behind the form, so that forms can be put together:
the next part of a record begins at the same place in both.

* a quoted text is read back one character at a time (`unescape_quotedChar`), so its closing quote is
  found whatever it says (`tells_quoted`, `tells_quotedPath`);
* a number ends where its digits end, which asks that no digit follows (`tells_number`);
* optional values, lists and records tell what their parts tell (`Tells.optional`,
  `tells_quotedList`, `Tells.record`).
-/

namespace BrokerRelay.Text

/-! ## §1 Quoted characters are read back -/

/-- The number that hexadecimal digits write. -/
def hexNumber (ds : List Char) : Nat :=
  ds.foldl (fun n d => 16 * n + (Bytes.hexDigit? d).getD 0) 0

/-- The character that a mark behind a backslash stands for. -/
def escaped (mark : Char) : Char :=
  if mark = '0' then '\x00'
  else if mark = 't' then '\t'
  else if mark = 'r' then '\r'
  else if mark = 'n' then '\n'
  else mark

/-- Reads one character of quoted text; at the closing quote there is none. -/
def unescape : List Char → Option (Char × List Char)
  | '\\' :: 'u' :: _ :: r =>
    (cutFirst? '\x7d' r).map fun (ds, rest) => (Char.ofNat (hexNumber ds), rest)
  | '\\' :: mark :: r => some (escaped mark, r)
  | c :: r => if c = '"' then none else some (c, r)
  | [] => none

theorem hexDigit?_digitChar {d : Nat} (h : d < 16) : Bytes.hexDigit? (Nat.digitChar d) = some d :=
  (by decide : ∀ d : Fin 16, Bytes.hexDigit? (Nat.digitChar d) = some d.val) ⟨d, h⟩

theorem hexNumber_append (ds : List Char) (d : Char) :
    hexNumber (ds ++ [d]) = 16 * hexNumber ds + (Bytes.hexDigit? d).getD 0 := by
  simp [hexNumber]

theorem hexNumber_toDigits (n : Nat) : hexNumber (Nat.toDigits 16 n) = n := by
  induction n using Nat.strongRecOn with
  | ind n ih =>
    rw [Nat.toDigits_eq_if (by decide)]
    split
    · next h => simp [hexNumber, hexDigit?_digitChar h]
    · rw [hexNumber_append, ih (n / 16) (by omega), hexDigit?_digitChar (by omega)]
      exact Nat.div_add_mod n 16

theorem hexDigit?_of_mem_toDigits {n : Nat} {c : Char} (h : c ∈ Nat.toDigits 16 n) :
    ∃ d, Bytes.hexDigit? c = some d := by
  induction n using Nat.strongRecOn with
  | ind n ih =>
    rw [Nat.toDigits_eq_if (by decide)] at h
    split at h
    · next hn => exact ⟨n, List.mem_singleton.mp h ▸ hexDigit?_digitChar hn⟩
    · rcases List.mem_append.mp h with hinit | hlast
      · exact ih (n / 16) (by omega) hinit
      · exact ⟨n % 16, List.mem_singleton.mp hlast ▸ hexDigit?_digitChar (by omega)⟩

/-- The escape of a code point ends at its brace, which is no digit. -/
theorem unescape_codePointEscape (c : Char) (r : List Char) :
    unescape (codePointEscape c ++ r) = some (c, r) := by
  have hbrace : '\x7d' ∉ Nat.toDigits 16 c.toNat := fun hmem => by
    obtain ⟨d, hd⟩ := hexDigit?_of_mem_toDigits hmem
    exact absurd (hd.symm.trans (by decide : Bytes.hexDigit? '\x7d' = none)) (by simp)
  have hcut := cutFirst?_append hbrace r
  have hform : codePointEscape c ++ r
      = '\\' :: 'u' :: '\x7b' :: (Nat.toDigits 16 c.toNat ++ '\x7d' :: r) := by
    simp [codePointEscape]
  have hnumber : Char.ofNat (hexNumber (Nat.toDigits 16 c.toNat)) = c := by
    rw [hexNumber_toDigits, Char.ofNat_toNat]
  rw [hform, unescape, hcut, Option.map_some]
  exact congrArg (fun c => some (c, r)) hnumber

theorem unescape_plain {c : Char} (hquote : c ≠ '"') (hslash : c ≠ '\\') (r : List Char) :
    unescape (c :: r) = some (c, r) := by
  unfold unescape
  split
  · next heq => exact absurd (List.cons.inj heq).1 hslash
  · next heq => exact absurd (List.cons.inj heq).1 hslash
  · next heq =>
    obtain ⟨rfl, rfl⟩ := List.cons.inj heq
    rw [if_neg hquote]
  · next heq => cases heq

/-- A quoted character is read back, whatever follows. -/
theorem unescape_quotedChar (c : Char) (r : List Char) :
    unescape (quotedChar c ++ r) = some (c, r) := by
  unfold quotedChar
  split_ifs with h0 ht hr hn hquote hslash
  -- the named escapes; then a character that extends, one that is printable, and any other
  · rw [h0]; rfl
  · rw [ht]; rfl
  · rw [hr]; rfl
  · rw [hn]; rfl
  · rw [hquote]; rfl
  · rw [hslash]; rfl
  · exact unescape_codePointEscape c r
  · exact unescape_plain hquote hslash r
  · exact unescape_codePointEscape c r

/-- In a path the single quote is escaped as well, and is read back all the same. -/
theorem unescape_pathChar (c : Char) (r : List Char) :
    unescape ((if c = '\'' then ['\\', '\''] else quotedChar c) ++ r) = some (c, r) := by
  split_ifs with h
  · rw [h]; rfl
  · exact unescape_quotedChar c r

/-- Two texts whose escapes are read back and that are closed by a quote are one text. -/
theorem escaped_append_inj {escape : Char → List Char}
    (h : ∀ c r, unescape (escape c ++ r) = some (c, r)) (cs cs' r r' : List Char) :
    cs.flatMap escape ++ '"' :: r = cs'.flatMap escape ++ '"' :: r' ↔ cs = cs' ∧ r = r' := by
  refine ⟨fun heq => ?_, by rintro ⟨rfl, rfl⟩; rfl⟩
  have hclosed : ∀ r, unescape ('"' :: r) = none := fun r => rfl
  -- both sides are read one character at a time, until one of them is closed
  induction cs generalizing cs' with
  | nil =>
    cases cs' with
    | nil => exact ⟨rfl, (List.cons.inj heq).2⟩
    | cons c' cs' =>
      have hread := congrArg unescape heq
      rw [List.flatMap_cons, List.append_assoc, h, List.flatMap_nil, List.nil_append,
        hclosed] at hread
      cases hread
  | cons c cs ih =>
    have hread := congrArg unescape heq
    rw [List.flatMap_cons, List.append_assoc, h] at hread
    cases cs' with
    | nil => cases hread
    | cons c' cs' =>
      rw [List.flatMap_cons, List.append_assoc, h, Option.some.injEq, Prod.mk.injEq] at hread
      obtain ⟨rfl, htail⟩ := hread
      obtain ⟨rfl, hr⟩ := ih cs' htail
      exact ⟨rfl, hr⟩

/-! ## §2 Writers that tell -/

/-- No digit follows. -/
def Stops (r : List Char) : Prop := ∀ c ∈ r.head?, c.isDigit = false

@[simp] theorem stops_nil : Stops [] := by simp [Stops]

@[simp] theorem stops_cons {c : Char} {r : List Char} : Stops (c :: r) ↔ c.isDigit = false := by
  simp [Stops]

variable {α β : Type}

/-- Two values have one form just when `shown` relates them; the form ends at the same place in both,
whatever follows it. Only a digit may not follow: a number has no mark at its end. -/
def Tells (text : α → String) (shown : α → α → Prop) : Prop :=
  ∀ a a' r r', Stops r → Stops r' →
    ((text a).toList ++ r = (text a').toList ++ r' ↔ shown a a' ∧ r = r')

namespace Tells

variable {text : α → String} {shown : α → α → Prop}

theorem text_eq_iff (h : Tells text shown) (a a' : α) : text a = text a' ↔ shown a a' := by
  have hform := h a a' [] [] stops_nil stops_nil
  simpa [String.toList_inj] using hform

theorem congr {shown' : α → α → Prop} (h : Tells text shown)
    (hiff : ∀ a a', shown a a' ↔ shown' a a') : Tells text shown' := fun a a' r r' hr hr' => by
  rw [h a a' r r' hr hr', hiff]

/-- A part of a value tells of the value what it tells of the part. -/
theorem comp (h : Tells text shown) (get : β → α) :
    Tells (fun b => text (get b)) fun b b' => shown (get b) (get b') :=
  fun b b' => h (get b) (get b')

end Tells

/-- A text that is always the same tells nothing. -/
theorem tells_constant (s : String) : Tells (fun _ : α => s) fun _ _ => True := by
  intro _ _ r r' _ _
  rw [List.append_cancel_left_eq, true_and]

theorem tells_quoted : Tells quoted Eq := fun s s' r r' _ _ => by
  have hinj := escaped_append_inj unescape_quotedChar s.toList s'.toList r r'
  simpa [quoted, String.toList_inj] using hinj

theorem tells_quotedPath : Tells quotedPath Eq := fun s s' r r' _ _ => by
  have hinj := escaped_append_inj unescape_pathChar s.toList s'.toList r r'
  simpa [quotedPath, String.toList_inj] using hinj

theorem tells_truth : Tells truth Eq := fun b b' r r' _ _ => by
  cases b <;> cases b' <;> simp [truth]

/-- The digits of a number are what stands in front of the first character that is none. -/
theorem takeWhile_toDigits_append (n : Nat) {r : List Char} (h : Stops r) :
    (Nat.toDigits 10 n ++ r).takeWhile Char.isDigit = Nat.toDigits 10 n := by
  have hdigits : ∀ c ∈ Nat.toDigits 10 n, c.isDigit := fun c hc =>
    Nat.isDigit_of_mem_toDigits (by decide) (by decide) hc
  have hrest : r.takeWhile Char.isDigit = [] := by
    cases r with
    | nil => rfl
    | cons c r => rw [List.takeWhile_cons, stops_cons.mp h]; rfl
  rw [List.takeWhile_append_of_pos hdigits, hrest, List.append_nil]

theorem tells_number : Tells (fun n : Nat => toString n) Eq := fun n n' r r' hr hr' => by
  simp only [Nat.toString_eq_ofList_toDigits, String.toList_ofList]
  refine ⟨fun heq => ?_, by rintro ⟨rfl, rfl⟩; rfl⟩
  have hdigits : Nat.toDigits 10 n = Nat.toDigits 10 n' := by
    rw [← takeWhile_toDigits_append n hr, heq, takeWhile_toDigits_append n' hr']
  have hnumber : n = n' := by
    rw [← Nat.ofDigitChars_ten_toDigits (n := n), hdigits, Nat.ofDigitChars_ten_toDigits]
  exact ⟨hnumber, List.append_cancel_left (hdigits ▸ heq)⟩

/-! ## §3 Writers of composed values -/

/-- An optional value tells whether it is there, and then what its form tells. -/
theorem Tells.optional {text : α → String} {f : α → β} (h : Tells text fun a a' => f a = f a') :
    Tells (fun o : Option α => Text.optional (o.map text)) fun o o' => o.map f = o'.map f :=
  fun o o' r r' _ _ => by
  cases o with
  | none => cases o' <;> simp [Text.optional]
  | some a =>
    cases o' with
    | none => simp [Text.optional]
    | some a' =>
      have hform := h a a' (')' :: r) (')' :: r') (by simp) (by simp)
      simpa [Text.optional] using hform

/-- Items behind another one, each after a separator. -/
def following (items : List String) : List Char :=
  items.flatMap fun item => ',' :: ' ' :: item.toList

theorem following_cons (item : String) (items : List String) (r : List Char) :
    following (item :: items) ++ r = ',' :: ' ' :: (item.toList ++ (following items ++ r)) := by
  simp [following]

theorem toList_intercalate_cons (item : String) (items : List String) :
    (", ".intercalate (item :: items)).toList = item.toList ++ following items := by
  rw [String.toList_intercalate]
  induction items generalizing item with
  | nil => simp [following]
  | cons next items ih =>
    rw [List.map_cons, List.map_cons, List.intercalate_cons_cons, ← List.map_cons, ih next]
    simp [following]

/-- An item ends where the next one is separated from it. -/
theorem stops_following (items : List String) {r : List Char} (h : Stops r) :
    Stops (following items ++ r) := by
  cases items with
  | nil => exact h
  | cons item items =>
    rw [following_cons]
    exact stops_cons.mpr (by decide)

/-- A quoted item ends where the items behind it begin, whichever these are. -/
theorem quoted_following_append_inj (s s' : String) (l l' : List String) (r r' : List Char) :
    (quoted s).toList ++ (following (l.map quoted) ++ ']' :: r)
        = (quoted s').toList ++ (following (l'.map quoted) ++ ']' :: r')
      ↔ s = s' ∧ following (l.map quoted) ++ ']' :: r = following (l'.map quoted) ++ ']' :: r' := by
  have hbracket : ∀ r, Stops (']' :: r) := fun r => stops_cons.mpr (by decide)
  exact tells_quoted s s' _ _ (stops_following _ (hbracket r)) (stops_following _ (hbracket r'))

/-- Quoted items behind another one, up to the closing bracket. -/
theorem following_quoted_append_inj (l l' : List String) (r r' : List Char) :
    following (l.map quoted) ++ ']' :: r = following (l'.map quoted) ++ ']' :: r'
      ↔ l = l' ∧ r = r' := by
  induction l generalizing l' with
  | nil => cases l' <;> simp [following]
  | cons s l ih =>
    cases l' with
    | nil => simp [following]
    | cons s' l' =>
      rw [List.map_cons, List.map_cons, following_cons, following_cons, List.cons.injEq,
        List.cons.injEq, quoted_following_append_inj, List.cons.injEq]
      simp only [ih l', true_and, and_assoc]

theorem toList_quotedList_cons (s : String) (l : List String) (r : List Char) :
    (quotedList (s :: l)).toList ++ r
      = '[' :: ((quoted s).toList ++ (following (l.map quoted) ++ ']' :: r)) := by
  rw [quotedList, bracketed, List.map_cons, String.toList_append, String.toList_append,
    toList_intercalate_cons]
  simp

theorem tells_quotedList : Tells quotedList Eq := fun l l' r r' _ _ => by
  -- an empty list is told by its second character, which is no quote
  cases l with
  | nil => cases l' <;> simp [quotedList, bracketed, quoted]
  | cons s l =>
    cases l' with
    | nil => simp [quotedList, bracketed, quoted]
    | cons s' l' =>
      rw [toList_quotedList_cons, toList_quotedList_cons, List.cons.injEq,
        quoted_following_append_inj, following_quoted_append_inj, List.cons.injEq]
      simp only [true_and, and_assoc]

/-- A field of a record: its key, how its value is written, and what that shows of the record. -/
structure RecordField (α : Type) where
  key : String
  text : α → String
  shown : α → α → Prop
  tells : Tells text shown

namespace RecordField

/-- The field that writes one part of a record. -/
def of {text : β → String} {shown : β → β → Prop} (key : String) (part : α → β)
    (h : Tells text shown) : RecordField α :=
  ⟨key, fun a => text (part a), fun a a' => shown (part a) (part a'), h.comp part⟩

/-- The key and the written value. -/
def entry (a : α) (f : RecordField α) : String × String := (f.key, f.text a)

/-- The field as it stands in the form of the record. -/
def line (a : α) (f : RecordField α) : String := f.key ++ ": " ++ f.text a

theorem line_append_inj (f : RecordField α) (a a' : α) {r r' : List Char} (hr : Stops r)
    (hr' : Stops r') :
    (f.line a).toList ++ r = (f.line a').toList ++ r' ↔ f.shown a a' ∧ r = r' := by
  rw [← f.tells a a' r r' hr hr']
  simp [line]

/-- The fields behind the first one. -/
theorem following_line_append_inj (fields : List (RecordField α)) (a a' : α) {r r' : List Char}
    (hr : Stops r) (hr' : Stops r') :
    following (fields.map (line a)) ++ r = following (fields.map (line a')) ++ r'
      ↔ (∀ f ∈ fields, f.shown a a') ∧ r = r' := by
  induction fields with
  | nil => simp [following]
  | cons f fields ih =>
    rw [List.map_cons, List.map_cons, following_cons, following_cons, List.cons.injEq,
      List.cons.injEq, f.line_append_inj a a' (stops_following _ hr) (stops_following _ hr'), ih,
      List.forall_mem_cons]
    simp only [true_and, and_assoc]

end RecordField

/-- What stands behind the last field of a record. -/
def recordEnd (complete : Bool) : List Char :=
  if complete then " \x7d".toList else ", .. \x7d".toList

theorem stops_recordEnd (complete : Bool) {r : List Char} : Stops (recordEnd complete ++ r) := by
  cases complete <;> exact stops_cons.mpr (by decide)

/-- A record is put together from the lines of its fields. -/
theorem record_entries (name : String) (a : α) (fields : List (RecordField α)) (complete : Bool) :
    record name (fields.map (RecordField.entry a)) complete =
      name ++ " \x7b " ++ ", ".intercalate (if complete then fields.map (RecordField.line a)
        else fields.map (RecordField.line a) ++ [".."]) ++ " \x7d" := by
  unfold record
  rw [List.map_map]
  rfl

theorem toList_record (name : String) (a : α) (f : RecordField α) (fields : List (RecordField α))
    (complete : Bool) (r : List Char) :
    (record name ((f :: fields).map (RecordField.entry a)) complete).toList ++ r
      = name.toList ++ (" \x7b ".toList ++ ((f.line a).toList
          ++ (following (fields.map (RecordField.line a)) ++ (recordEnd complete ++ r)))) := by
  rw [record_entries, List.map_cons]
  cases complete with
  | true =>
    simp only [if_true, String.toList_append, toList_intercalate_cons, List.append_assoc]
    rfl
  | false =>
    simp only [Bool.false_eq_true, if_false, List.cons_append, String.toList_append,
      toList_intercalate_cons, List.append_assoc]
    simp [following, recordEnd]

/-- A record tells what its fields tell. -/
theorem Tells.record (name : String) (fields : List (RecordField α)) (complete : Bool) :
    Tells (fun a => Text.record name (fields.map (RecordField.entry a)) complete) fun a a' =>
      ∀ f ∈ fields, f.shown a a' := by
  cases fields with
  | nil => exact (tells_constant (Text.record name [] complete)).congr fun a a' => by simp
  | cons f fields =>
    intro a a' r r' hr hr'
    rw [toList_record, toList_record, List.append_cancel_left_eq, List.append_cancel_left_eq,
      f.line_append_inj a a' (stops_following _ (stops_recordEnd complete))
        (stops_following _ (stops_recordEnd complete)),
      RecordField.following_line_append_inj fields a a' (stops_recordEnd complete)
        (stops_recordEnd complete), List.append_cancel_left_eq]
    simp only [List.forall_mem_cons, and_assoc]

end BrokerRelay.Text
