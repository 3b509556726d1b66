import Mathlib.Data.List.Sublists
import BrokerRelay.Proofs.Tls.Parameters
/-!
# A provider holds what was asked for

A provider for a selection holds the suites of the newest protocol version, which cannot be selected,
and of the selection what the backend offers, in the order of the selection. What the backend lacks is
warned of, also when there is no provider in the end, and there is none exactly when the backend lacks
every selected curve. So nothing that a handshake could be weakened by gets in: an older suite or a
curve that was not selected is not there, and of two members the preferred one stays in front
(`restricted_holds_the_selection`).
-/

namespace BrokerRelay.Tls

/-! ## Names in warnings -/

/-- The label of a number: its name in the table, or `unknown` if it has none there. -/
def NameTable.Labels (table : NameTable) (id : UInt16) (label : String) : Prop :=
  (label, id) ∈ table ∨ (∀ name, (name, id) ∉ table) ∧ label = "unknown"

theorem NameTable.labels_name? (table : NameTable) (id : UInt16) :
    table.Labels id ((table.name? id).getD "unknown") := by
  unfold NameTable.name?
  cases hfind : table.find? (·.2 == id) with
  | none =>
    refine .inr ⟨fun name hmem => ?_, rfl⟩
    exact List.find?_eq_none.mp hfind _ hmem (beq_self_eq_true id)
  | some entry =>
    have hentry := List.find?_some hfind
    have hid : entry.2 = id := eq_of_beq hentry
    exact .inl (hid ▸ List.mem_of_find?_eq_some hfind)

/-! ## The selection -/

/-- A suite of the newest protocol version, told by its number. -/
def CipherSuite.isTls13 (s : CipherSuite) : Bool := s.id.toNat / 256 = 0x13

namespace Provider

variable {suites : List CipherSuite} {curves : List Curve}

/-- The suites that need no selection are those of the newest version, as the backend lists them. -/
theorem filter_isTls13_offeredSuites : offeredSuites.filter CipherSuite.isTls13 = fixedSuites := by
  decide

/-- A selected member is usable if the backend offers it. -/
theorem contains_eq_mem {α : Type} [DecidableEq α] (offered : List α) :
    offered.contains = fun x => decide (x ∈ offered) :=
  funext fun _ => List.contains_eq_mem ..

theorem isEmpty_filter_mem_iff {α : Type} [DecidableEq α] {offered xs : List α} :
    (xs.filter (· ∈ offered)).isEmpty ↔ ∀ x ∈ xs, x ∉ offered := by
  simp [List.isEmpty_iff, List.filter_eq_nil_iff]

theorem outcome_eq_error_iff {e : ConfigFailure} : (restricted suites curves).outcome.1 = .error e ↔
    (∀ c ∈ curves, c ∉ offeredCurves) ∧ e = .noUsableCurves (curves.map curveLabel) := by
  rw [Logged.outcome_fst, value_restricted, contains_eq_mem, ← isEmpty_filter_mem_iff]
  split
  · next hnone => simp only [hnone, true_and, Except.error.injEq, eq_comm]
  · next hsome => simp only [hsome, false_and, reduceCtorEq]

theorem outcome_eq_ok_iff {p : Provider} : (restricted suites curves).outcome.1 = .ok p ↔
    (∃ c ∈ curves, c ∈ offeredCurves) ∧
      p.suites = offeredSuites.filter CipherSuite.isTls13 ++ suites.filter (· ∈ offeredSuites) ∧
      p.curves = curves.filter (· ∈ offeredCurves) := by
  have hcurve : (∃ c ∈ curves, c ∈ offeredCurves) ↔
      ¬(curves.filter (· ∈ offeredCurves)).isEmpty := by
    rw [isEmpty_filter_mem_iff]
    simp only [not_forall, not_not, exists_prop]
  rw [Logged.outcome_fst, value_restricted, contains_eq_mem, contains_eq_mem, hcurve,
    filter_isTls13_offeredSuites]
  obtain ⟨psuites, pcurves⟩ := p
  split
  · next hnone => simp only [hnone, not_true_eq_false, false_and, reduceCtorEq]
  · next hsome =>
    simp only [hsome, Bool.false_eq_true, not_false_eq_true, true_and, Except.ok.injEq, mk.injEq,
      eq_comm]

/-- The warnings are those about the selection, whether there is a provider or not. -/
theorem warnings_of_outcome :
    (restricted suites curves).outcome.2.filter (·.level = .warn) =
      (suites.filter (· ∉ offeredSuites)).map suiteSkipped ++
        (curves.filter (· ∉ offeredCurves)).map curveSkipped := by
  have hwarn : (warnings suites curves).filter (·.level = .warn) = warnings suites curves := by
    refine List.filter_eq_self.mpr fun event hmem => decide_eq_true ?_
    rcases List.mem_append.mp hmem with hsuite | hcurve
    · obtain ⟨s, -, rfl⟩ := List.mem_map.mp hsuite
      rfl
    · obtain ⟨c, -, rfl⟩ := List.mem_map.mp hcurve
      rfl
  have hform : warnings suites curves = (suites.filter (· ∉ offeredSuites)).map suiteSkipped ++
      (curves.filter (· ∉ offeredCurves)).map curveSkipped := by
    simp [warnings]
  rw [Logged.outcome_snd, grown_restricted, List.nil_append, List.filter_append, hwarn, hform]
  -- that a provider was built is an event, but no warning
  cases (restricted suites curves).value [] <;> exact List.append_nil _

/-- **A provider holds the selection as far as it is offered.** There is no provider exactly when no
selected curve is offered, and the failure names all of them in order. Otherwise the provider holds
the suites of the newest version as the backend lists them, then the selected suites that are offered,
and the selected curves that are offered, each in the order of the selection. The warnings are one for
each selected suite that is not offered and then one for each such curve, in order and with its name.
So every suite of an older version and every curve was selected, and none has changed places. -/
theorem restricted_holds_the_selection (suites : List CipherSuite) (curves : List Curve) :
    (∀ e, (restricted suites curves).outcome.1 = .error e ↔
      (∀ c ∈ curves, c ∉ offeredCurves) ∧ e = .noUsableCurves (curves.map curveLabel)) ∧
    (∀ p, (restricted suites curves).outcome.1 = .ok p ↔
      (∃ c ∈ curves, c ∈ offeredCurves) ∧
        p.suites = offeredSuites.filter CipherSuite.isTls13 ++ suites.filter (· ∈ offeredSuites) ∧
        p.curves = curves.filter (· ∈ offeredCurves)) ∧
    (restricted suites curves).outcome.2.filter (·.level = .warn) =
      (suites.filter (· ∉ offeredSuites)).map suiteSkipped ++
        (curves.filter (· ∉ offeredCurves)).map curveSkipped ∧
    (∀ s, (suiteSkipped s).details = [("suite", suiteLabel s)] ∧
      CipherSuite.table.Labels s.id (suiteLabel s)) ∧
    (∀ c, (curveSkipped c).details = [("curve", curveLabel c)] ∧
      Curve.table.Labels c.id (curveLabel c)) ∧
    ∀ p, (restricted suites curves).outcome.1 = .ok p →
      (∀ s ∈ p.suites, s.isTls13 = false → s ∈ suites) ∧
        (p.suites.filter (!·.isTls13)).Sublist suites ∧ p.curves.Sublist curves := by
  refine ⟨fun _ => outcome_eq_error_iff, fun _ => outcome_eq_ok_iff, warnings_of_outcome,
    fun s => ⟨rfl, CipherSuite.table.labels_name? s.id⟩,
    fun c => ⟨rfl, Curve.table.labels_name? c.id⟩, fun p hp => ?_⟩
  obtain ⟨-, hsuites, hcurves⟩ := outcome_eq_ok_iff.mp hp
  have holder : (p.suites.filter (!·.isTls13)).Sublist suites := by
    have hfixed : (offeredSuites.filter CipherSuite.isTls13).filter (!·.isTls13) = [] := by decide
    rw [hsuites, List.filter_append, hfixed, List.nil_append]
    exact List.filter_sublist.trans List.filter_sublist
  refine ⟨fun s hmem hold => ?_, holder, hcurves ▸ List.filter_sublist⟩
  exact holder.subset (List.mem_filter.mpr ⟨hmem, by rw [hold]; rfl⟩)

/-- One suite of two is offered, one curve of three; the second curve has a name and the third has
none. -/
theorem restricted_holds_part_of_a_selection :
    let suites : List CipherSuite := [⟨0x000a⟩, ⟨0xc02f⟩]
    let curves : List Curve := [⟨0x001d⟩, ⟨0x0019⟩, ⟨0x6399⟩]
    let provider : Provider := ⟨fixedSuites ++ [⟨0xc02f⟩], [⟨0x001d⟩]⟩
    (restricted suites curves).outcome.1 = .ok provider ∧
      (restricted suites curves).outcome.2.filter (·.level = .warn) =
        [suiteSkipped ⟨0x000a⟩, curveSkipped ⟨0x0019⟩, curveSkipped ⟨0x6399⟩] ∧
      (∀ s ∈ provider.suites, s.isTls13 = false → s ∈ suites) ∧
      (provider.suites.filter (!·.isTls13)).Sublist suites ∧ provider.curves.Sublist curves :=
  ⟨by decide, (restricted_holds_the_selection _ _).2.2.1,
    (restricted_holds_the_selection _ _).2.2.2.2.2 _ (by decide)⟩

end Provider

end BrokerRelay.Tls
