import BrokerRelay.Proofs.Text.Split
import BrokerRelay.Tls.CipherSuite
import Mathlib.Data.List.Forall2
import Mathlib.Data.List.Nodup
/-!
# Selecting by name

A table gives names to numbers, no two entries having the same name or the same number, and no name having
white space at its ends (`WellFormed`). So a text selects at most one number, that of the name which it holds
between white space (`selects_iff`), and the number tells the name back (`name?_eq_some_iff`).

A list of texts is resolved one by one and in order, and the first text that selects nothing is the failure,
whatever follows it. `Resolves` states this of any table, and `names_resolved` that suites and curves are
resolved so.
-/

namespace BrokerRelay

/-! ## §1 White space around a name -/

/-- A text holds a name between white space, of which there may be none. -/
def Text.Holds (text name : String) : Prop :=
  ∃ left right : List Char, text.toList = left ++ name.toList ++ right ∧
    (∀ c ∈ left, Text.isBlank c = true) ∧ ∀ c ∈ right, Text.isBlank c = true

/-- A name without white space at its ends is held by the texts that are trimmed to it. -/
theorem Text.trim_eq_iff {text name : String} (h : Text.trim name = name) :
    Text.trim text = name ↔ Text.Holds text name := by
  have hchars : ∀ s : String, (Text.trim s).toList = Text.trimChars s.toList :=
    fun s => String.toList_ofList
  constructor
  · rintro rfl
    obtain ⟨left, right, heq, hblank⟩ := Text.exists_eq_append_trimChars text.toList
    exact ⟨left, right, by rwa [hchars], hblank⟩
  · rintro ⟨left, right, heq, hleft, hright⟩
    have htrim := congrArg Text.trimChars heq
    rw [List.append_assoc, trimChars_blank_append hleft, trimChars_append_blank hright, ← hchars,
      ← hchars, h] at htrim
    exact String.ext htrim

namespace Tls

/-! ## §2 Tables -/

namespace NameTable

variable {table : NameTable} {name text : String} {id : UInt16}

/-- The names tell the entries apart, and so do the numbers; names have no white space at their ends. -/
structure WellFormed (table : NameTable) : Prop where
  names : (table.map Prod.fst).Nodup
  ids : (table.map Prod.snd).Nodup
  trimmed : ∀ entry ∈ table, Text.trim entry.1 = entry.1

/-- A text selects the number of the name that it holds between white space. -/
def Selects (table : NameTable) (text : String) (id : UInt16) : Prop :=
  ∃ name, (name, id) ∈ table ∧ Text.Holds text name

theorem id?_eq_some_iff (h : table.WellFormed) : table.id? name = some id ↔ (name, id) ∈ table := by
  unfold id?
  cases hfound : table.lookup name with
  | none =>
    rw [List.lookup_eq_none_iff] at hfound
    exact iff_of_false nofun fun hentry => by simpa using hfound _ hentry
  | some found =>
    have hmem : (name, found) ∈ table := by
      obtain ⟨before, after, rfl, -⟩ := List.lookup_eq_some_iff.mp hfound
      exact List.mem_append_right before List.mem_cons_self
    constructor
    · rintro ⟨⟩
      exact hmem
    · intro hentry
      have hsame := List.inj_on_of_nodup_map h.names hmem hentry rfl
      rw [(Prod.mk.inj hsame).2]

theorem name?_eq_some_iff (h : table.WellFormed) : table.name? id = some name ↔ (name, id) ∈ table := by
  unfold name?
  rw [Option.map_eq_some_iff]
  constructor
  · rintro ⟨entry, hfound, rfl⟩
    have hid := List.find?_some hfound
    exact eq_of_beq hid ▸ List.mem_of_find?_eq_some hfound
  · intro hentry
    cases hfound : table.find? (·.2 == id) with
    | none => exact absurd (beq_self_eq_true id) (List.find?_eq_none.mp hfound _ hentry)
    | some found =>
      have hid := List.find?_some hfound
      have hmem := List.mem_of_find?_eq_some hfound
      have hsame := List.inj_on_of_nodup_map h.ids hmem hentry (eq_of_beq hid)
      exact ⟨found, rfl, congrArg Prod.fst hsame⟩

/-- A text selects what its trimmed form is the name of. -/
theorem selects_iff (h : table.WellFormed) :
    table.Selects text id ↔ table.id? (Text.trim text) = some id := by
  rw [id?_eq_some_iff h]
  constructor
  · rintro ⟨name, hentry, hholds⟩
    rwa [(Text.trim_eq_iff (h.trimmed _ hentry)).mpr hholds]
  · intro hentry
    exact ⟨_, hentry, (Text.trim_eq_iff (h.trimmed _ hentry)).mp rfl⟩

/-- The number that a text selects tells its trimmed form back. -/
theorem Selects.name? (hselects : table.Selects text id) (h : table.WellFormed) :
    table.name? id = some (Text.trim text) := by
  rw [name?_eq_some_iff h, ← id?_eq_some_iff h]
  exact (selects_iff h).mp hselects

/-- Texts are resolved one by one and in order. -/
theorem resolve_eq_ok_iff (h : table.WellFormed) {texts : List String} {ids : List UInt16} :
    table.resolve texts = .ok ids ↔ List.Forall₂ table.Selects texts ids := by
  induction texts generalizing ids with
  | nil => simp [resolve, eq_comm]
  | cons text texts ih =>
    rw [List.forall₂_cons_left_iff, resolve]
    simp only [selects_iff h, ← ih]
    cases hid : table.id? (Text.trim text) with
    | none => simp
    | some id => cases table.resolve texts <;> simp [Except.map, eq_comm]

/-- The first text that selects nothing is the failure, whatever follows it. -/
theorem resolve_append_cons (h : table.WellFormed) {before : List String}
    (hbefore : ∀ t ∈ before, ∃ id, table.Selects t id) (htext : ¬∃ id, table.Selects text id)
    (after : List String) : table.resolve (before ++ text :: after) = .error text := by
  induction before with
  | nil =>
    have hid : table.id? (Text.trim text) = none := by
      rw [Option.eq_none_iff_forall_ne_some]
      exact fun id hid => htext ⟨id, (selects_iff h).mpr hid⟩
    rw [List.nil_append, resolve, hid]
  | cons t before ih =>
    obtain ⟨id, hid⟩ := hbefore t List.mem_cons_self
    rw [List.cons_append, resolve, (selects_iff h).mp hid,
      ih fun t ht => hbefore t (List.mem_cons_of_mem _ ht)]
    rfl

/-- A list is resolved exactly if each of its texts selects something. -/
theorem exists_resolve_iff (h : table.WellFormed) {texts : List String} :
    (∃ ids, table.resolve texts = .ok ids) ↔ ∀ text ∈ texts, ∃ id, table.Selects text id := by
  simp only [resolve_eq_ok_iff h]
  constructor
  · rintro ⟨ids, hids⟩
    induction hids with
    | nil => exact nofun
    | cons hselects _ ih => exact List.forall_mem_cons.mpr ⟨⟨_, hselects⟩, ih⟩
  · intro hall
    induction texts with
    | nil => exact ⟨[], .nil⟩
    | cons text texts ih =>
      obtain ⟨⟨id, hid⟩, htexts⟩ := List.forall_mem_cons.mp hall
      obtain ⟨ids, hids⟩ := ih htexts
      exact ⟨id :: ids, .cons hid hids⟩

end NameTable

/-! ## §3 Selections -/

section Selections

variable {α : Type} {table : NameTable} {resolve : List String → Except ConfigFailure (List α)}
  {id : α → UInt16} {name? : α → Option String} {defaults : List α} {unknown : String → ConfigFailure}

/-- Texts are resolved strictly, by the table and in order, and an empty list to the default selection. -/
structure Resolves (table : NameTable) (resolve : List String → Except ConfigFailure (List α))
    (id : α → UInt16) (name? : α → Option String) (defaults : List α)
    (unknown : String → ConfigFailure) : Prop where
  /-- A list is accepted exactly if each of its texts holds a name of the table. -/
  accepted_iff (texts : List String) :
    (∃ xs, resolve texts = .ok xs) ↔ ∀ text ∈ texts, ∃ i, table.Selects text i
  /-- Each text gives one member, in order: that of the name it holds, which the member tells back. -/
  selected (texts : List String) (xs : List α) : texts ≠ [] → resolve texts = .ok xs →
    List.Forall₂ (fun text x => table.Selects text (id x) ∧ name? x = some (Text.trim text)) texts xs
  /-- No text gives the default selection. -/
  default_of_nil : resolve [] = .ok defaults
  /-- The first text that holds no name is the failure, as it was written and whatever follows it. -/
  refused (before : List String) (text : String) (after : List String) :
    (∀ t ∈ before, ∃ i, table.Selects t i) → (¬∃ i, table.Selects text i) →
    resolve (before ++ text :: after) = .error (unknown text)

/-- What a selection is, by the numbers that a table resolves it to. -/
def selection (mk : UInt16 → α) (defaults : List α) (unknown : String → ConfigFailure) :
    Except String (List UInt16) → Except ConfigFailure (List α)
  | .error text => .error (unknown text)
  | .ok [] => .ok defaults
  | .ok ids => .ok (ids.map mk)

/-- Numbers that there are become the members with these numbers. -/
theorem selection_ok {mk : UInt16 → α} {ids : List UInt16} (h : ids ≠ []) :
    selection mk defaults unknown (.ok ids) = .ok (ids.map mk) := by
  cases ids with
  | nil => exact absurd rfl h
  | cons i ids => rfl

theorem exists_selection_iff {mk : UInt16 → α} {r : Except String (List UInt16)} :
    (∃ xs, selection mk defaults unknown r = .ok xs) ↔ ∃ ids, r = .ok ids := by
  rcases r with text | _ | ⟨i, ids⟩
  · exact iff_of_false nofun nofun
  · exact iff_of_true ⟨_, rfl⟩ ⟨_, rfl⟩
  · exact iff_of_true ⟨_, rfl⟩ ⟨_, rfl⟩

/-- What selects by a table resolves strictly. -/
theorem resolves_of_selection (h : table.WellFormed) (mk : UInt16 → α) (hid : ∀ i, id (mk i) = i)
    (hname : ∀ x, name? x = table.name? (id x))
    (hresolve : ∀ texts, resolve texts = selection mk defaults unknown (table.resolve texts)) :
    Resolves table resolve id name? defaults unknown where
  accepted_iff texts := by
    rw [hresolve, exists_selection_iff, NameTable.exists_resolve_iff h]
  selected texts xs hne hxs := by
    rw [hresolve] at hxs
    obtain ⟨ids, hids⟩ := exists_selection_iff.mp ⟨xs, hxs⟩
    have hselects := (NameTable.resolve_eq_ok_iff h).mp hids
    have hne' : ids ≠ [] := by
      rintro rfl
      exact hne (List.forall₂_nil_right_iff.mp hselects)
    rw [hids, selection_ok hne'] at hxs
    obtain rfl := Except.ok.inj hxs
    rw [List.forall₂_map_right_iff]
    refine hselects.imp fun text i hi => ?_
    rw [hname, hid]
    exact ⟨hi, hi.name? h⟩
  default_of_nil := hresolve []
  refused before text after hbefore htext := by
    rw [hresolve, NameTable.resolve_append_cons h hbefore htext]
    rfl

end Selections

theorem CipherSuite.wellFormed_table : CipherSuite.table.WellFormed :=
  ⟨by decide, by decide, by decide +kernel⟩

theorem Curve.wellFormed_table : Curve.table.WellFormed :=
  ⟨by decide, by decide, by decide +kernel⟩

/-- **Suites and curves are selected strictly and in order.** For every list of texts, a list is accepted
exactly if each text, without the white space at its ends, is a name of the table in the case of the table;
then it gives the suites or the curves of these names, one for each text and in order, or the default
selection if it is empty. Else the first text that is no name is the failure. -/
theorem names_resolved :
    Resolves CipherSuite.table CipherSuite.resolve CipherSuite.id CipherSuite.name? CipherSuite.defaults
      .unknownCipherSuite ∧
    Resolves Curve.table Curve.resolve Curve.id Curve.name? Curve.defaults .unknownCurve :=
  ⟨resolves_of_selection CipherSuite.wellFormed_table .mk (fun _ => rfl) (fun _ => rfl) fun _ => rfl,
    resolves_of_selection Curve.wellFormed_table .mk (fun _ => rfl) (fun _ => rfl) fun _ => rfl⟩

/-- A name in another case is the failure, and not the unknown one after it; a name that is repeated is
selected again. -/
theorem names_resolved_up_to_case :
    CipherSuite.resolve [" RSA-AES128-CBC-SHA\n", "rsa-aes128-cbc-sha", "RSA"] =
      .error (.unknownCipherSuite "rsa-aes128-cbc-sha") ∧
    ∃ xs, Curve.resolve ["P384 ", "X25519", "P384"] = .ok xs ∧
      xs.map Curve.name? = [some "P384", some "X25519", some "P384"] := by
  obtain ⟨hsuites, hcurves⟩ := names_resolved
  constructor
  · refine hsuites.refused [_] _ [_] ?_ ?_
    · rw [List.forall_mem_singleton]
      exact ⟨0x2f, (NameTable.selects_iff CipherSuite.wellFormed_table).mpr (by decide +kernel)⟩
    · rintro ⟨i, hi⟩
      rw [NameTable.selects_iff CipherSuite.wellFormed_table,
        show CipherSuite.table.id? (Text.trim "rsa-aes128-cbc-sha") = none by decide +kernel] at hi
      cases hi
  · have hknown : ∀ text ∈ ["P384 ", "X25519", "P384"], ∃ i, Curve.table.Selects text i := by
      simp only [NameTable.selects_iff Curve.wellFormed_table, ← Option.isSome_iff_exists]
      decide +kernel
    obtain ⟨xs, hxs⟩ := (hcurves.accepted_iff _).mpr hknown
    refine ⟨xs, hxs, ?_⟩
    obtain _ | ⟨⟨-, hfirst⟩, _ | ⟨⟨-, hsecond⟩, _ | ⟨⟨-, hthird⟩, _ | _⟩⟩⟩ :=
      hcurves.selected _ _ (List.cons_ne_nil _ _) hxs
    simp only [List.map_cons, List.map_nil, hfirst, hsecond, hthird]
    decide +kernel

end Tls

end BrokerRelay
