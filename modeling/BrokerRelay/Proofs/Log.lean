import BrokerRelay.Log
import Mathlib.Tactic.Common
/-!
# What a computation that logs comes to

`Logged.value` is the result of a computation that starts with a given log. Loading and building are
rows of such computations, and what they come to is computed from the values of their parts: one lemma
for each way to put them together. Logging itself has no influence on the result.

`Logged.grown` is the log that such a computation leaves. Most computations only add to it, and what
they add does not depend on what was there; `Logged.Appends P` states this, with the kind `P` of the
events, and is kept by every way to put computations together. Where two computations share such
steps, `Logged.Echoes` states that one comes to what the other comes to and logs beyond it only in its
own name; it is put together from the shared steps in the same way.
-/

namespace BrokerRelay

/-- Renaming a failure has no influence on success. -/
theorem mapError_eq_ok_iff {ε ε' α : Type} {r : Except ε α} {f : ε → ε'} {a : α} :
    r.mapError f = .ok a ↔ r = .ok a := by
  cases r with
  | ok b => simp [Except.mapError]
  | error e => simp [Except.mapError]

/-- What succeeds has a value. -/
theorem exists_eq_ok_of_toBool {ε α : Type} {r : Except ε α} (h : r.toBool = true) : ∃ a, r = .ok a := by
  cases r with
  | ok a => exact ⟨a, rfl⟩
  | error e => cases h

namespace Logged

variable {ε ε' α β : Type}

/-- The result of a computation that starts with a log. -/
def value (x : Logged ε α) (log : List LogEvent) : Except ε α := (x.run.run log).1

/-- The log of a computation that starts with a log. -/
def grown (x : Logged ε α) (log : List LogEvent) : List LogEvent := (x.run.run log).2

theorem outcome_fst (x : Logged ε α) : x.outcome.1 = x.value [] := rfl

@[simp]
theorem value_pure (a : α) (log : List LogEvent) : (pure a : Logged ε α).value log = .ok a := rfl

@[simp]
theorem value_throw (e : ε) (log : List LogEvent) : (throw e : Logged ε α).value log = .error e := rfl

@[simp]
theorem value_event (event : LogEvent) (log : List LogEvent) :
    (Logged.event event : Logged ε Unit).value log = .ok () := rfl

@[simp]
theorem value_ofExcept (r : Except ε α) (log : List LogEvent) : (ofExcept r).value log = r := rfl

theorem ofExcept_ok_bind (a : α) (f : α → Logged ε β) : (ofExcept (.ok a) >>= f) = f a := rfl

theorem ofExcept_error_bind (e : ε) (f : α → Logged ε β) :
    (ofExcept (.error e) >>= f) = ofExcept (.error e) := rfl

theorem value_bind (x : Logged ε α) (f : α → Logged ε β) (log : List LogEvent) :
    (x >>= f).value log = x.value log >>= fun a => (f a).value (x.grown log) := by
  show ((ExceptT.bindCont (fun a => f a) (x log).1) (x log).2).1 = _
  unfold value grown
  show _ = (x log).1 >>= fun a => ((f a) (x log).2).1
  cases (x log).1 <;> rfl

/-- A row of two computations succeeds if both do. -/
@[simp]
theorem value_bind_eq_ok_iff {x : Logged ε α} {f : α → Logged ε β} {log : List LogEvent} {b : β} :
    (x >>= f).value log = .ok b ↔
      ∃ a, x.value log = .ok a ∧ (f a).value (x.grown log) = .ok b := by
  rw [value_bind]
  cases x.value log with
  | ok a => simp [bind, Except.bind]
  | error e => simp [bind, Except.bind]

theorem value_map_eq_ok_iff {f : α → β} {x : Logged ε α} {log : List LogEvent} {b : β} :
    (f <$> x).value log = .ok b ↔ ∃ a, x.value log = .ok a ∧ f a = b := by
  rw [← bind_pure_comp, value_bind_eq_ok_iff]
  simp only [value_pure, Except.ok.injEq]

/-- A check that throws lets a row go on only if it does not apply. -/
theorem value_guard_eq_ok_iff {c : Prop} [Decidable c] {e : ε} {f : β → Logged ε α}
    {x : Logged ε α} {log : List LogEvent} {a : α} :
    (if c then throw e >>= f else x).value log = .ok a ↔ ¬c ∧ x.value log = .ok a := by
  by_cases hc : c
  · simp [hc]
  · simp [hc]

/-! ## What a computation adds to the log -/

end Logged

/-- The event comes from a part of the program. -/
def LogEvent.Says (source : LogSource) (event : LogEvent) : Prop := event.source = source

instance (source : LogSource) : DecidablePred (LogEvent.Says source) := fun event =>
  inferInstanceAs (Decidable (event.source = source))

/-- The events of a log that come from a part of the program. -/
def eventsOf (source : LogSource) (log : List LogEvent) : List LogEvent :=
  log.filter fun event => event.Says source

theorem eventsOf_append (source : LogSource) (log more : List LogEvent) :
    eventsOf source (log ++ more) = eventsOf source log ++ eventsOf source more :=
  List.filter_append ..

/-- An event of another part of the program is left out. -/
theorem eventsOf_single {source : LogSource} {event : LogEvent} (hne : source ≠ event.source) :
    eventsOf source [event] = [] :=
  List.filter_cons_of_neg fun hsays => hne (of_decide_eq_true hsays).symm

/-- A log that a part of the program wrote alone holds its events. -/
theorem eventsOf_own {source : LogSource} {log : List LogEvent}
    (h : ∀ event ∈ log, event.Says source) : eventsOf source log = log := by
  refine List.filter_eq_self.2 fun event hmem => ?_
  exact decide_eq_true (h event hmem)

/-- A log that another part of the program wrote alone holds none of its events. -/
theorem eventsOf_other {source other : LogSource} {log : List LogEvent} (hne : source ≠ other)
    (h : ∀ event ∈ log, event.Says other) : eventsOf source log = [] := by
  refine List.filter_eq_nil_iff.2 fun event hmem hsays => ?_
  exact hne ((of_decide_eq_true hsays).symm.trans (h event hmem))

namespace Logged

theorem outcome_snd (x : Logged ε α) : x.outcome.2 = x.grown [] := rfl

@[simp]
theorem grown_pure (a : α) (log : List LogEvent) : (pure a : Logged ε α).grown log = log := rfl

@[simp]
theorem grown_throw (e : ε) (log : List LogEvent) : (throw e : Logged ε α).grown log = log := rfl

@[simp]
theorem grown_event (event : LogEvent) (log : List LogEvent) :
    (Logged.event event : Logged ε Unit).grown log = log ++ [event] := rfl

@[simp]
theorem grown_ofExcept (r : Except ε α) (log : List LogEvent) : (ofExcept r).grown log = log := rfl

/-- A row of two computations logs what its first does and, if that succeeds, what its second does. -/
theorem grown_bind (x : Logged ε α) (f : α → Logged ε β) (log : List LogEvent) :
    (x >>= f).grown log = match x.value log with
      | .ok a => (f a).grown (x.grown log)
      | .error _ => x.grown log := by
  show ((ExceptT.bindCont (fun a => f a) (x log).1) (x log).2).2 = _
  unfold value grown
  show _ = match (x log).1 with
    | .ok a => ((f a) (x log).2).2
    | .error _ => (x log).2
  cases (x log).1 <;> rfl

@[simp]
theorem value_mapFailure (f : ε → ε') (x : Logged ε α) (log : List LogEvent) :
    (x.mapFailure f).value log = (x.value log).mapError f := rfl

@[simp]
theorem grown_mapFailure (f : ε → ε') (x : Logged ε α) (log : List LogEvent) :
    (x.mapFailure f).grown log = x.grown log := rfl

/-- The computation does nothing to the log but add events of the kind `P`, and neither its result nor
these events depend on what was logged before. -/
def Appends (P : LogEvent → Prop) (x : Logged ε α) : Prop :=
  ∃ r events, (∀ log, x.value log = r) ∧ (∀ log, x.grown log = log ++ events) ∧
    ∀ event ∈ events, P event

namespace Appends

variable {P : LogEvent → Prop} {x : Logged ε α} {f : α → Logged ε β}

protected theorem pure (a : α) : (pure a : Logged ε α).Appends P :=
  ⟨.ok a, [], fun _ => rfl, fun log => (List.append_nil log).symm, nofun⟩

protected theorem throw (e : ε) : (throw e : Logged ε α).Appends P :=
  ⟨.error e, [], fun _ => rfl, fun log => (List.append_nil log).symm, nofun⟩

protected theorem ofExcept (r : Except ε α) : (ofExcept r).Appends P :=
  ⟨r, [], fun _ => rfl, fun log => (List.append_nil log).symm, nofun⟩

protected theorem event {event : LogEvent} (h : P event) :
    (Logged.event event : Logged ε Unit).Appends P := by
  refine ⟨.ok (), [event], fun _ => rfl, fun _ => rfl, fun event' hmem => ?_⟩
  rw [List.mem_singleton.1 hmem]
  exact h

protected theorem bind (hx : x.Appends P) (hf : ∀ a, (f a).Appends P) : (x >>= f).Appends P := by
  obtain ⟨r, events, hvalue, hgrown, hevents⟩ := hx
  cases r with
  | error e =>
    refine ⟨.error e, events, fun log => ?_, fun log => ?_, hevents⟩
    · rw [value_bind, hvalue]
      rfl
    · rw [grown_bind, hvalue]
      exact hgrown log
  | ok a =>
    obtain ⟨r, more, hvalue', hgrown', hmore⟩ := hf a
    refine ⟨r, events ++ more, fun log => ?_, fun log => ?_, ?_⟩
    · rw [value_bind, hvalue]
      exact hvalue' _
    · rw [grown_bind, hvalue]
      show (f a).grown (x.grown log) = _
      rw [hgrown', hgrown, List.append_assoc]
    · intro event hmem
      rcases List.mem_append.1 hmem with hfirst | hsecond
      · exact hevents event hfirst
      · exact hmore event hsecond

protected theorem ite {c : Prop} [Decidable c] {y : Logged ε α} (hx : x.Appends P)
    (hy : y.Appends P) : (if c then x else y).Appends P := by
  by_cases hc : c
  · rw [if_pos hc]
    exact hx
  · rw [if_neg hc]
    exact hy

protected theorem mapFailure (g : ε → ε') (hx : x.Appends P) : (x.mapFailure g).Appends P := by
  obtain ⟨r, events, hvalue, hgrown, hevents⟩ := hx
  refine ⟨r.mapError g, events, fun log => ?_, fun log => ?_, hevents⟩
  · rw [value_mapFailure, hvalue]
  · rw [grown_mapFailure, hgrown]

end Appends

/-! ## Two computations beside each other -/

/-- The second computation comes to what the first one comes to, in another form, and the logs differ
only in events of the source `own`. -/
def Echoes (own : LogSource) (form : α → β) (x : Logged ε α) (y : Logged ε β) : Prop :=
  ∀ log log', (∀ source, source ≠ own → eventsOf source log' = eventsOf source log) →
    y.value log' = (x.value log).map form ∧
      ∀ source, source ≠ own → eventsOf source (y.grown log') = eventsOf source (x.grown log)

namespace Echoes

variable {γ δ : Type} {own : LogSource} {form : α → β} {x : Logged ε α} {y : Logged ε β}

/-- A computation that only appends to the log is its own echo. -/
theorem of_appends {P : LogEvent → Prop} (h : x.Appends P) : Echoes own id x x := by
  obtain ⟨r, events, hvalue, hgrown, -⟩ := h
  intro log log' hlog
  refine ⟨?_, fun source hne => ?_⟩
  · rw [hvalue, hvalue]
    cases r <;> rfl
  · rw [hgrown, hgrown, eventsOf_append, eventsOf_append, hlog source hne]

protected theorem pure (a : α) : Echoes own form (pure a : Logged ε α) (pure (form a)) :=
  fun _ _ hlog => ⟨rfl, hlog⟩

protected theorem ofExcept (r : Except ε α) : Echoes own id (ofExcept r) (ofExcept r) :=
  of_appends (P := fun _ => True) (.ofExcept r)

/-- What follows an echo echoes what follows the original. -/
protected theorem bind {form' : γ → δ} {f : α → Logged ε γ} {g : β → Logged ε δ}
    (h : Echoes own form x y) (hfg : ∀ a, Echoes own form' (f a) (g (form a))) :
    Echoes own form' (x >>= f) (y >>= g) := by
  intro log log' hlog
  obtain ⟨hvalue, hgrown⟩ := h log log' hlog
  rw [value_bind, value_bind, grown_bind, grown_bind, hvalue]
  cases x.value log with
  | error e => exact ⟨rfl, hgrown⟩
  | ok a => exact hfg a _ _ hgrown

/-- An echo may say something in its own name first. -/
theorem event_bind {event : LogEvent} (hsource : event.source = own) (h : Echoes own form x y) :
    Echoes own form x (Logged.event event >>= fun _ => y) := by
  intro log log' hlog
  rw [value_bind, grown_bind]
  refine h log (log' ++ [event]) fun source hne => ?_
  rw [eventsOf_append, eventsOf_single (hsource ▸ hne), List.append_nil]
  exact hlog source hne

/-- Started without a log, an echo comes to the same and differs in its own events only. -/
theorem outcome (h : Echoes own form x y) :
    y.outcome.1 = x.outcome.1.map form ∧
      ∀ source, source ≠ own → eventsOf source y.outcome.2 = eventsOf source x.outcome.2 :=
  h [] [] fun _ _ => rfl

end Echoes

end Logged

end BrokerRelay
