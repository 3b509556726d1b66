import BrokerRelay.Relay.Listener
import BrokerRelay.Relay.Service
import Mathlib.Data.List.Induction
import Mathlib.Tactic.Common
/-!
# The transitions of a listener and of a service

`Listener.Transition` and `Service.Transition` say, one constructor for each kind of step, when the step
is possible and what it changes; `step_eq_some_iff` ties both to the functions that compute a step. Laws
of the machines are proved by cases on a transition and carried over runs by `run_induction`.
-/

namespace BrokerRelay.Relay

/-- What holds at the start and is kept by every step holds after every run; what is kept may speak
about the events so far. -/
theorem run_induction {σ ε : Type} {step : σ → ε → Option σ} {start : σ} {P : List ε → σ → Prop}
    (hstart : P [] start)
    (hstep : ∀ events s e s', events.foldlM step start = some s → P events s → step s e = some s' →
      P (events ++ [e]) s')
    {events : List ε} {s : σ} (h : events.foldlM step start = some s) : P events s := by
  induction events using List.reverseRecOn generalizing s with
  | nil =>
    obtain rfl : start = s := Option.some.inj h
    exact hstart
  | append_singleton events e ih =>
    rw [List.foldlM_append] at h
    obtain ⟨m, hm, hlast⟩ := Option.bind_eq_some_iff.mp h
    have hlast : step m e = some s := by simpa using hlast
    exact hstep events m e s hm (ih hm) hlast

namespace Listener

/-! ## §1 Listeners -/

/-- The steps of a listener. -/
inductive Transition (l : Listener) : ListenerEvent → Listener → Prop
  | run (h : l.phase = .idle ∨ l.phase = .stopped) : Transition l .run { l with phase := .binding }
  | bound (h : l.phase = .binding) : Transition l .bound { l with phase := .bound }
  | bindFailed (h : l.phase = .binding) : Transition l .bindFailed { l with phase := .idle }
  | subscribed (h : l.phase = .bound) :
      Transition l .subscribed { l with phase := .waiting, notified := false }
  | clientArrived (h : l.phase = .waiting) :
      Transition l .clientArrived { l with phase := .deciding l.active }
  | acceptFailed (h : l.phase = .waiting) : Transition l .acceptFailed l
  | rejected {read : UInt64} (h : l.phase = .deciding read) (hfull : l.limit ≤ read) :
      Transition l .decided { l with phase := .waiting }
  | admitted {read : UInt64} (h : l.phase = .deciding read) (hroom : read < l.limit) :
      Transition l .decided { l with phase := .counted, active := l.active + 1 }
  | spawned (h : l.phase = .counted) :
      Transition l .spawned { l with phase := .waiting, tasks := l.tasks ++ [⟨false, false⟩] }
  | taskEnded {index : Nat} {t : Task} (htask : l.tasks[index]? = some t) (hlive : t.ended = false) :
      Transition l (.taskEnded index)
        { l with tasks := l.tasks.set index { t with ended := true }, active := l.active - 1 }
  | shutdownSent : Transition l .shutdownSent l.notify
  | shutdownReceived (h : l.phase = .waiting) (hnotified : l.notified) :
      Transition l .shutdownReceived { l with phase := .stopped, notified := false }

variable {l l' : Listener} {e : ListenerEvent}

/-- A task that ends counts its client off. -/
theorem endTask_eq_some_iff {index : Nat} : l.endTask index = some l' ↔
    ∃ t, l.tasks[index]? = some t ∧ t.ended = false ∧
      l' = { l with tasks := l.tasks.set index { t with ended := true }, active := l.active - 1 } := by
  unfold endTask
  constructor
  · intro h
    split at h
    · rename_i t htask
      split at h
      · cases h
      · rename_i hlive
        exact ⟨t, htask, by simpa using hlive, (Option.some.inj h).symm⟩
    · cases h
  · rintro ⟨t, htask, hlive, rfl⟩
    simp [htask, hlive]

theorem transition_of_step (h : l.step e = some l') : Transition l e l' := by
  -- the event and the phase decide together, so each event looks for the phases that it is possible in
  obtain ⟨limit, phase, active, tasks, notified⟩ := l
  cases e with
  | run =>
    cases phase with
    | idle => exact Option.some.inj h ▸ .run (.inl rfl)
    | stopped => exact Option.some.inj h ▸ .run (.inr rfl)
    | _ => cases (h : none = some l')
  | bound =>
    cases phase with
    | binding => exact Option.some.inj h ▸ .bound rfl
    | _ => cases (h : none = some l')
  | bindFailed =>
    cases phase with
    | binding => exact Option.some.inj h ▸ .bindFailed rfl
    | _ => cases (h : none = some l')
  | subscribed =>
    cases phase with
    | bound => exact Option.some.inj h ▸ .subscribed rfl
    | _ => cases (h : none = some l')
  | clientArrived =>
    cases phase with
    | waiting => exact Option.some.inj h ▸ .clientArrived rfl
    | _ => cases (h : none = some l')
  | acceptFailed =>
    cases phase with
    | waiting => exact Option.some.inj h ▸ .acceptFailed rfl
    | _ => cases (h : none = some l')
  | decided =>
    cases phase with
    | deciding read =>
      by_cases hfull : limit ≤ read
      · have hstep := (if_pos hfull).symm.trans h
        exact Option.some.inj hstep ▸ .rejected rfl hfull
      · have hstep := (if_neg hfull).symm.trans h
        exact Option.some.inj hstep ▸ .admitted rfl (UInt64.not_le.mp hfull)
    | _ => cases (h : none = some l')
  | spawned =>
    cases phase with
    | counted => exact Option.some.inj h ▸ .spawned rfl
    | _ => cases (h : none = some l')
  | taskEnded index =>
    obtain ⟨t, htask, hlive, rfl⟩ := endTask_eq_some_iff.mp h
    exact .taskEnded htask hlive
  | shutdownSent => exact Option.some.inj h ▸ .shutdownSent
  | shutdownReceived =>
    cases phase with
    | waiting =>
      by_cases hnotified : notified
      · have hstep := (if_pos hnotified).symm.trans h
        exact Option.some.inj hstep ▸ .shutdownReceived rfl hnotified
      · have hstep := (if_neg hnotified).symm.trans h
        cases hstep
    | _ => cases (h : none = some l')

theorem step_of_transition (h : Transition l e l') : l.step e = some l' := by
  obtain ⟨limit, phase, active, tasks, notified⟩ := l
  cases h with
  | run h => rcases h with rfl | rfl <;> rfl
  | bound h => cases h; rfl
  | bindFailed h => cases h; rfl
  | subscribed h => cases h; rfl
  | clientArrived h => cases h; rfl
  | acceptFailed h => cases h; rfl
  | rejected h hfull => cases h; exact if_pos hfull
  | admitted h hroom => cases h; exact if_neg (UInt64.not_le.mpr hroom)
  | spawned h => cases h; rfl
  | taskEnded htask hlive => exact endTask_eq_some_iff.mpr ⟨_, htask, hlive, rfl⟩
  | shutdownSent => rfl
  | shutdownReceived h hnotified => cases h; exact if_pos hnotified

/-- A step of a listener is one of its transitions. -/
theorem step_eq_some_iff : l.step e = some l' ↔ Transition l e l' :=
  ⟨transition_of_step, step_of_transition⟩

end Listener

namespace Service

/-! ## §2 Services -/

/-- The steps of a service. -/
inductive Transition (s : Service) : ServiceEvent → Service → Prop
  | loop {e : ListenerEvent} {l : Listener} (hloop : e.ofLoop) (h : s.listener.Transition e l) :
      Transition s (.loop e) { s with listener := l }
  | spawned {l : Listener} (client : String) (h : s.listener.Transition .spawned l) :
      Transition s (.spawned client) ⟨l, s.connections ++ [.arrived client]⟩
  | connection {index : Nat} {e : ConnectionEvent} {c c' : Connection} {t : Task}
      (hconnection : s.connections[index]? = some c) (htask : s.listener.tasks[index]? = some t)
      (hallowed : e.allowed t.notified) (h : c.step e = some c') :
      Transition s (.connection index e) { s with connections := s.connections.set index c' }
  | countedOff {index : Nat} {c : Connection} {result : Except RelayFailure Traffic} {l : Listener}
      (hconnection : s.connections[index]? = some c) (hover : c.result? = some result)
      (h : s.listener.Transition (.taskEnded index) l) :
      Transition s (.countedOff index) { s with listener := l }

variable {s s' : Service} {e : ServiceEvent}

theorem transition_of_step (h : s.step e = some s') : Transition s e s' := by
  cases e with
  | loop e =>
    simp only [step] at h
    split at h
    · rename_i hloop
      obtain ⟨l, hl, rfl⟩ := Option.map_eq_some_iff.mp h
      exact .loop hloop (Listener.transition_of_step hl)
    · cases h
  | spawned client =>
    obtain ⟨l, hl, rfl⟩ := Option.map_eq_some_iff.mp h
    exact .spawned client (Listener.transition_of_step hl)
  | connection index e =>
    simp only [step, stepConnection] at h
    split at h
    · rename_i c t hconnection htask
      split at h
      · rename_i hallowed
        obtain ⟨c', hc, rfl⟩ := Option.map_eq_some_iff.mp h
        exact .connection hconnection htask hallowed hc
      · cases h
    · cases h
  | countedOff index =>
    simp only [step, countOff] at h
    split at h
    · rename_i result hresult
      obtain ⟨c, hconnection, hover⟩ := Option.bind_eq_some_iff.mp hresult
      obtain ⟨l, hl, rfl⟩ := Option.map_eq_some_iff.mp h
      exact .countedOff hconnection hover (Listener.transition_of_step hl)
    · cases h

theorem step_of_transition (h : Transition s e s') : s.step e = some s' := by
  cases h with
  | loop hloop h => simp [step, hloop, Listener.step_of_transition h]
  | spawned client h => simp [step, Listener.step_of_transition h]
  | connection hconnection htask hallowed h =>
    simp [step, stepConnection, hconnection, htask, hallowed, h]
  | countedOff hconnection hover h =>
    simp [step, countOff, hconnection, hover, Listener.step_of_transition h]

/-- A step of a service is one of its transitions. -/
theorem step_eq_some_iff : s.step e = some s' ↔ Transition s e s' :=
  ⟨transition_of_step, step_of_transition⟩

end Service

end BrokerRelay.Relay
