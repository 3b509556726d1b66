import BrokerRelay.Proofs.Pem.Scan
import BrokerRelay.Proofs.Tls.Trust
/-!
# What is taken from the sections of a file

Certificates and private keys are taken from the same row of sections under opposite rules: a malformed
section ends the search for a key and is only warned of among certificates. `items_taken` says for every
text which section decides the search, and which certificates and warnings there are.

A file is read one section after the other. Each step consumes a line at least, also when it comes to a
malformed section, and goes on behind it (`nextSection?`); so both ways of reading end, and they come to what
the row of all sections comes to (`seekPrivateKey_eq`, `gatherCertificates_eq`).
-/

namespace BrokerRelay

/-! ## §1 One section after the other -/

namespace Pem

/-- Reads lines up to the end of the next section, `current` being open: the section, and the lines that are
left. -/
def nextSection? : Option OpenSection → List Bytes → Option (Section × List Bytes)
  | none, [] => none
  | some s, [] => some (unclosed s.label, [])
  | current, line :: rest =>
    match after? beginMark line with
    | some tail =>
      match beginLabel? tail with
      | some label => nextSection? (some ⟨label, (current.map OpenSection.body).getD []⟩) rest
      | none => some (illegalStart line, rest)
    | none =>
      match current with
      | none => nextSection? none rest
      | some s =>
        if endsSection s.label line then
          match s.close with
          | some whole => some (whole, rest)
          | none => nextSection? none rest
        else nextSection? (some ⟨s.label, s.body ++ line⟩) rest

variable {current : Option OpenSection} {ls rest : List Bytes} {s : Section}

/-- The sections of some lines are the next one and those of the lines that it leaves. -/
theorem sections_eq_next (current : Option OpenSection) (ls : List Bytes) :
    sections current ls = match nextSection? current ls with
      | none => []
      | some (s, rest) => s :: sections none rest := by
  fun_induction nextSection? current ls with
  | case1 => rfl
  | case2 s => rfl
  | case3 current line rest tail htail label hlabel ih => rw [sections_begin current htail hlabel, ih]
  | case4 current line rest tail htail hlabel => cases current <;> simp only [sections, htail, hlabel]
  | case5 line rest hplain ih => rw [sections_outside hplain, ih]
  | case6 line rest hplain s hends whole hclose => rw [sections_end hplain hends, hclose]; rfl
  | case7 line rest hplain s hends hclose ih => rw [sections_end hplain hends, hclose, ← ih]; rfl
  | case8 line rest hplain s hends ih => rw [sections_inside hplain hends, ih]

/-- No step gives lines back, and one that starts outside of a section takes a line at least. -/
theorem length_of_nextSection? (h : nextSection? current ls = some (s, rest)) :
    rest.length < ls.length ∨ current.isSome ∧ rest.length = ls.length := by
  fun_induction nextSection? current ls with
  | case1 => cases h
  | case2 s =>
    cases h
    exact .inr ⟨rfl, rfl⟩
  | case4 | case6 =>
    cases h
    exact .inl (Nat.lt_succ_self _)
  | case3 _ line more _ _ _ _ ih | case5 line more _ ih | case7 line more _ _ _ _ ih
  | case8 line more _ _ _ ih =>
    have hle : rest.length ≤ more.length := by
      rcases ih h with hlt | ⟨-, heq⟩ <;> omega
    rw [List.length_cons]
    omega

theorem length_lt_of_nextSection? (h : nextSection? none ls = some (s, rest)) : rest.length < ls.length := by
  rcases length_of_nextSection? h with hlt | ⟨hopen, -⟩
  · exact hlt
  · cases hopen

end Pem

namespace Tls

/-- Looks for a private key, one section after the other. -/
def seekPrivateKey (path : String) (ls : List Bytes) : Except TlsFailure KeyMaterial :=
  match _ : Pem.nextSection? none ls with
  | none => .error (.noPrivateKeys path)
  | some (.malformed reason, _) => .error (.key (.malformedPem (path ++ ": " ++ reason)))
  | some (.item kind contents, rest) =>
    match KeyForm.ofSection? kind with
    | some form => .ok ⟨form, contents⟩
    | none => seekPrivateKey path rest
termination_by ls.length
decreasing_by exact Pem.length_lt_of_nextSection? (by assumption)

/-- Gathers the certificates, one section after the other; malformed sections are logged. -/
def gatherCertificates {ε : Type} (path : String) (ls : List Bytes) : Logged ε (List Bytes) :=
  match _ : Pem.nextSection? none ls with
  | none => pure []
  | some (.malformed reason, rest) => do
    Logged.event (sectionSkipped path reason)
    gatherCertificates path rest
  | some (.item kind der, rest) =>
    if kind = .certificate then do
      let others ← gatherCertificates path rest
      pure (der :: others)
    else gatherCertificates path rest
termination_by ls.length
decreasing_by all_goals exact Pem.length_lt_of_nextSection? (by assumption)

/-- The search for a key comes to what the row of all sections comes to. -/
theorem seekPrivateKey_eq (path : String) (ls : List Bytes) :
    seekPrivateKey path ls = firstPrivateKey path (Pem.sections none ls) := by
  fun_induction seekPrivateKey path ls with
  | case1 ls hnext => rw [Pem.sections_eq_next, hnext]; rfl
  | case2 ls reason rest hnext => rw [Pem.sections_eq_next, hnext]; rfl
  | case3 ls kind contents rest hnext form hform =>
    rw [Pem.sections_eq_next, hnext]
    simp only [firstPrivateKey, hform]
  | case4 ls kind contents rest hnext hform ih =>
    rw [Pem.sections_eq_next, hnext]
    simp only [firstPrivateKey, hform, ih]

theorem gatherCertificates_eq {ε : Type} (path : String) (ls : List Bytes) :
    (gatherCertificates path ls : Logged ε (List Bytes)) =
      collectCertificates path (Pem.sections none ls) := by
  fun_induction gatherCertificates (ε := ε) path ls with
  | case1 ls hnext => rw [Pem.sections_eq_next, hnext]; rfl
  | case2 ls reason rest hnext ih => rw [Pem.sections_eq_next, hnext, ih]; rfl
  | case3 ls der rest hnext ih => rw [Pem.sections_eq_next, hnext, ih]; rfl
  | case4 ls kind der rest hnext hkind ih =>
    rw [Pem.sections_eq_next, hnext, ih]
    cases kind with
    | certificate => exact absurd rfl hkind
    | _ => rfl

end Tls

/-! ## §2 The section that decides the search for a key -/

namespace Pem.Section

/-- The section holds a private key, in one of the three forms that there are. -/
inductive HoldsKey : Section → Tls.KeyMaterial → Prop
  | rsa (der : Bytes) : HoldsKey (.item .rsaPrivateKey der) ⟨.rsa, der⟩
  | named (der : Bytes) : HoldsKey (.item .privateKey der) ⟨.named, der⟩
  | curve (der : Bytes) : HoldsKey (.item .ecPrivateKey der) ⟨.curve, der⟩

/-- The section is whole and holds something else than a private key. -/
def IsPassed (s : Section) : Prop := (∀ key, ¬s.HoldsKey key) ∧ ∀ reason, s ≠ .malformed reason

variable {s : Section} {path : String} {rest : List Section}

/-- Of a whole section the kind decides. -/
theorem isPassed_item_iff {kind : SectionKind} {der : Bytes} :
    (item kind der).IsPassed ↔ Tls.KeyForm.ofSection? kind = none := by
  cases kind with
  | rsaPrivateKey => exact iff_of_false (fun h => h.1 _ (.rsa der)) nofun
  | privateKey => exact iff_of_false (fun h => h.1 _ (.named der)) nofun
  | ecPrivateKey => exact iff_of_false (fun h => h.1 _ (.curve der)) nofun
  | _ => exact iff_of_true ⟨nofun, nofun⟩ rfl

instance : DecidablePred IsPassed
  | .malformed reason => .isFalse fun h => h.2 reason rfl
  | .item _ _ => decidable_of_iff _ isPassed_item_iff.symm

theorem isPassed_or (s : Section) :
    s.IsPassed ∨ (∃ key, s.HoldsKey key) ∨ ∃ reason, s = .malformed reason := by
  by_cases hkey : ∃ key, s.HoldsKey key
  · exact .inr (.inl hkey)
  · by_cases hmalformed : ∃ reason, s = .malformed reason
    · exact .inr (.inr hmalformed)
    · exact .inl ⟨fun key h => hkey ⟨key, h⟩, fun reason h => hmalformed ⟨reason, h⟩⟩

theorem HoldsKey.firstPrivateKey_cons {key : Tls.KeyMaterial} (h : s.HoldsKey key) :
    Tls.firstPrivateKey path (s :: rest) = .ok key := by
  cases h <;> rfl

theorem IsPassed.firstPrivateKey_cons (h : s.IsPassed) :
    Tls.firstPrivateKey path (s :: rest) = Tls.firstPrivateKey path rest := by
  cases s with
  | malformed reason => exact absurd rfl (h.2 reason)
  | item kind der => rw [Tls.firstPrivateKey, isPassed_item_iff.mp h]

end Pem.Section

namespace Tls

variable {path : String} {text : Bytes} {sections : List Pem.Section}

/-- What the search for a private key comes to: the first section that holds one or is malformed decides. -/
inductive Sought (path : String) : List Pem.Section → Except TlsFailure KeyMaterial → Prop
  | found {before after : List Pem.Section} {s : Pem.Section} {key : KeyMaterial} :
      (∀ b ∈ before, b.IsPassed) → s.HoldsKey key → Sought path (before ++ s :: after) (.ok key)
  | malformed {before after : List Pem.Section} {reason : String} : (∀ b ∈ before, b.IsPassed) →
      Sought path (before ++ .malformed reason :: after)
        (.error (.key (.malformedPem (path ++ ": " ++ reason))))
  | missing {sections : List Pem.Section} :
      (∀ s ∈ sections, s.IsPassed) → Sought path sections (.error (.noPrivateKeys path))

/-- A section that is passed over has no influence on the search. -/
theorem Sought.cons {s : Pem.Section} {r : Except TlsFailure KeyMaterial} (hs : s.IsPassed)
    (h : Sought path sections r) : Sought path (s :: sections) r := by
  cases h with
  | found hbefore hkey => exact .found (List.forall_mem_cons.mpr ⟨hs, hbefore⟩) hkey
  | malformed hbefore => exact .malformed (List.forall_mem_cons.mpr ⟨hs, hbefore⟩)
  | missing hall => exact .missing (List.forall_mem_cons.mpr ⟨hs, hall⟩)

theorem firstPrivateKey_append_of_passed {before : List Pem.Section} (h : ∀ b ∈ before, b.IsPassed)
    (rest : List Pem.Section) : firstPrivateKey path (before ++ rest) = firstPrivateKey path rest := by
  induction before with
  | nil => rfl
  | cons b before ih =>
    obtain ⟨hb, hbefore⟩ := List.forall_mem_cons.mp h
    rw [List.cons_append, hb.firstPrivateKey_cons, ih hbefore]

theorem sought_firstPrivateKey (path : String) (sections : List Pem.Section) :
    Sought path sections (firstPrivateKey path sections) := by
  induction sections with
  | nil => exact .missing nofun
  | cons s rest ih =>
    rcases s.isPassed_or with hpassed | ⟨key, hkey⟩ | ⟨reason, rfl⟩
    · rw [hpassed.firstPrivateKey_cons]
      exact ih.cons hpassed
    · rw [hkey.firstPrivateKey_cons]
      exact @Sought.found path [] rest s key nofun hkey
    · exact @Sought.malformed path [] rest reason nofun

/-- **The search comes to this and to nothing else.** -/
theorem firstPrivateKey_eq_iff {r : Except TlsFailure KeyMaterial} :
    firstPrivateKey path sections = r ↔ Sought path sections r := by
  constructor
  · rintro rfl
    exact sought_firstPrivateKey path sections
  · intro h
    cases h with
    | found hbefore hkey => rw [firstPrivateKey_append_of_passed hbefore, hkey.firstPrivateKey_cons]
    | malformed hbefore => rw [firstPrivateKey_append_of_passed hbefore]; rfl
    | missing hall =>
      have hnone : firstPrivateKey path (sections ++ []) = .error (.noPrivateKeys path) :=
        firstPrivateKey_append_of_passed hall []
      rwa [List.append_nil] at hnone

/-! ## §3 Certificates and warnings -/

/-- The warning about a section, if it is malformed. -/
def warning? (path : String) : Pem.Section → Option LogEvent
  | .malformed reason => some (sectionSkipped path reason)
  | .item _ _ => none

/-- Nothing is logged but a warning for each malformed section. -/
theorem grown_collectCertificates {ε : Type} (sections : List Pem.Section) (log : List LogEvent) :
    (collectCertificates path sections : Logged ε (List Bytes)).grown log =
      log ++ sections.filterMap (warning? path) := by
  induction sections generalizing log with
  | nil => exact (List.append_nil log).symm
  | cons s rest ih =>
    cases s with
    | malformed reason =>
      rw [collectCertificates, Logged.grown_bind, Logged.value_event, Logged.grown_event]
      exact (ih _).trans (List.append_assoc ..)
    | item kind der =>
      cases kind with
      | certificate =>
        rw [collectCertificates, Logged.grown_bind, value_collectCertificates]
        exact ih log
      | _ => exact ih log

/-- What is logged beyond the warnings is no warning. -/
theorem grave_grown_certificatesOf :
    ((certificatesOf path text).grown []).filter LogEvent.isGrave =
      (Pem.Section.scan text).filterMap (warning? path) := by
  have hwarnings : ((Pem.Section.scan text).filterMap (warning? path)).filter LogEvent.isGrave =
      (Pem.Section.scan text).filterMap (warning? path) := by
    refine List.filter_eq_self.mpr fun e he => ?_
    obtain ⟨s, -, hs⟩ := List.mem_filterMap.mp he
    cases s with
    | item kind der => cases hs
    | malformed reason =>
      cases hs
      rfl
  rw [certificatesOf, Logged.grown_bind, value_collectCertificates, grown_collectCertificates]
  cases (Pem.Section.scan text).filterMap Pem.Section.certificate? with
  | nil => exact hwarnings
  | cons der others =>
    -- behind the warnings stands the number of certificates, at a lower level
    refine (List.filter_append ..).trans ?_
    exact (List.append_nil _).trans hwarnings

/-- **Which items are taken from a text.** For every text, seen as its row of whole and malformed sections:

* both ways of taking items from it can go from one section to the next, and end;
* the search for a private key comes to the first section that holds one or is malformed: to its key, or to a
  failure that names the file; and to the failure that there is no key if there is no such section;
* all certificates are taken in their order, and there is a failure exactly if there is none;
* each malformed section is warned of once, and nothing else is. -/
theorem items_taken (path : String) (text : Bytes) :
    ((privateKeyOf path text).outcome.1 = seekPrivateKey path (Pem.lines text) ∧
      collectCertificates path (Pem.Section.scan text) =
        (gatherCertificates path (Pem.lines text) : Logged TlsFailure (List Bytes))) ∧
    (∀ r, (privateKeyOf path text).outcome.1 = r ↔ Sought path (Pem.Section.scan text) r) ∧
    (certificatesOf path text).outcome.1 =
      (if certificatesIn text = [] then .error (.noCertificates path) else .ok (certificatesIn text)) ∧
    (certificatesOf path text).outcome.2.filter LogEvent.isGrave =
      (Pem.Section.scan text).filterMap (warning? path) := by
  have hkey : (privateKeyOf path text).outcome.1 = firstPrivateKey path (Pem.Section.scan text) :=
    value_privateKeyOf
  refine ⟨⟨?_, ?_⟩, fun r => ?_, value_certificatesOf, grave_grown_certificatesOf⟩
  · rw [hkey, seekPrivateKey_eq]
    rfl
  · rw [gatherCertificates_eq]
    rfl
  · rw [hkey]
    exact firstPrivateKey_eq_iff

/-- Behind a malformed section a key is not reached. -/
example : firstPrivateKey "f" [.item .certificate [1], .malformed "bad", .item .privateKey [2]] =
    .error (.key (.malformedPem "f: bad")) := by
  decide +kernel

end Tls

end BrokerRelay
