import BrokerRelay.Proofs.Log
import BrokerRelay.Tls.Settings
/-!
# The parameters of a handshake

Building a provider logs what it leaves out. Its result and its log are computed here in one line
each, without steps: `value_restricted` and `warnings`. Resolving the parameters of one side of the
relay adds to its log exactly these warnings and the event that the provider was built.
-/

namespace BrokerRelay

namespace Tls

variable {log : List LogEvent}

namespace Provider

variable {ε α : Type} [BEq α] {offered : List α} {skipped : α → LogEvent}

/-- A selection keeps what is offered. -/
theorem value_select (xs : List α) :
    (select offered skipped xs : Logged ε (List α)).value log = .ok (xs.filter offered.contains) := by
  induction xs generalizing log with
  | nil => rfl
  | cons x xs ih =>
    unfold select
    by_cases hoffered : offered.contains x = true
    · rw [if_pos hoffered, Logged.value_bind, ih, List.filter_cons_of_pos hoffered]
      rfl
    · rw [if_neg hoffered, Logged.value_bind, Logged.value_event, List.filter_cons_of_neg hoffered]
      exact ih

/-- A selection warns of each member that is not offered, in order. -/
theorem grown_select (xs : List α) :
    (select offered skipped xs : Logged ε (List α)).grown log =
      log ++ (xs.filter (!offered.contains ·)).map skipped := by
  induction xs generalizing log with
  | nil => exact (List.append_nil log).symm
  | cons x xs ih =>
    unfold select
    by_cases hoffered : offered.contains x = true
    · rw [if_pos hoffered, Logged.grown_bind, value_select, List.filter_cons_of_neg (by simp [hoffered])]
      exact ih
    · rw [if_neg hoffered, Logged.grown_bind, Logged.value_event,
        List.filter_cons_of_pos (by simpa using hoffered)]
      show (select offered skipped xs : Logged ε (List α)).grown (log ++ [skipped x]) = _
      rw [ih, List.append_assoc]
      rfl

theorem select_appends {P : LogEvent → Prop} (xs : List α) (hskipped : ∀ x, P (skipped x)) :
    (select offered skipped xs : Logged ε (List α)).Appends P := by
  refine ⟨_, _, fun _ => value_select xs, fun _ => grown_select xs, fun event hmem => ?_⟩
  obtain ⟨x, -, rfl⟩ := List.mem_map.1 hmem
  exact hskipped x

/-- The warnings about a selection, suites first. -/
def warnings (suites : List CipherSuite) (curves : List Curve) : List LogEvent :=
  (suites.filter (!offeredSuites.contains ·)).map suiteSkipped ++
    (curves.filter (!offeredCurves.contains ·)).map curveSkipped

/-- A provider holds the fixed suites and what is offered of the selection, and there is none without
a curve. -/
theorem value_restricted (suites : List CipherSuite) (curves : List Curve) :
    (restricted suites curves).value log =
      if (curves.filter offeredCurves.contains).isEmpty then
        .error (.noUsableCurves (curves.map curveLabel))
      else .ok ⟨fixedSuites ++ suites.filter offeredSuites.contains,
        curves.filter offeredCurves.contains⟩ := by
  unfold restricted
  rw [Logged.value_bind, value_select]
  show Logged.value (_ >>= _) _ = _
  rw [Logged.value_bind, value_select]
  show Logged.value (if _ then _ else _) _ = _
  split <;> rfl

/-- Building a provider logs its warnings and, if there is a provider, that it was built. -/
theorem grown_restricted (suites : List CipherSuite) (curves : List Curve) :
    (restricted suites curves).grown log = log ++ warnings suites curves ++
      match (restricted suites curves).value log with
      | .ok provider => [provider.built]
      | .error _ => [] := by
  rw [value_restricted]
  unfold restricted warnings
  rw [Logged.grown_bind, value_select]
  show Logged.grown (_ >>= _) _ = _
  rw [Logged.grown_bind, value_select]
  show Logged.grown (if _ then _ else _) _ = _
  rw [grown_select, grown_select, ← List.append_assoc]
  by_cases hnone : (curves.filter offeredCurves.contains).isEmpty = true
  · rw [if_pos hnone, if_pos hnone, List.append_nil]
    rfl
  · rw [if_neg hnone, if_neg hnone]
    rfl

/-- All that a provider has to say comes from one source. -/
theorem restricted_appends (suites : List CipherSuite) (curves : List Curve) :
    (restricted suites curves).Appends (LogEvent.Says .ciphers) := by
  refine .bind (select_appends suites fun _ => rfl) fun usable => ?_
  refine .bind (select_appends curves fun _ => rfl) fun groups => ?_
  refine .ite (.bind (.throw _) fun _ => ?_) ?_
  · exact .bind (.event rfl) fun _ => .pure _
  · exact .bind (.event rfl) fun _ => .pure _

end Provider

namespace Parameters

/-- Resolving parameters says nothing in another name than the provider's. -/
theorem resolve_appends (suites curves : List String) :
    (resolve suites curves).Appends (LogEvent.Says .ciphers) := by
  refine .mapFailure _ (.bind (.ofExcept _) fun suites => .bind (.ofExcept _) fun curves => ?_)
  exact .bind (Provider.restricted_appends suites curves) fun _ => .pure _

/-- What resolved parameters have logged: the warnings about them, and that there is a provider. -/
theorem grown_resolve {suites curves : List String} {p : Parameters}
    (h : (resolve suites curves).value log = .ok p) :
    (resolve suites curves).grown log =
      log ++ Provider.warnings p.suites p.curves ++ [p.provider.built] := by
  unfold resolve at h ⊢
  rw [Logged.value_mapFailure, mapError_eq_ok_iff] at h
  simp only [Logged.value_bind_eq_ok_iff, Logged.value_ofExcept, Logged.grown_ofExcept,
    Logged.value_pure, Except.ok.injEq] at h
  obtain ⟨ss, hss, cs, hcs, provider, hprovider, rfl⟩ := h
  simp only [Logged.grown_mapFailure, Logged.grown_bind, Logged.value_ofExcept, hss, hcs,
    Logged.grown_ofExcept, hprovider, Logged.grown_pure]
  rw [Provider.grown_restricted, hprovider]

end Parameters

end Tls

end BrokerRelay
