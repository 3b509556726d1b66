import BrokerRelay.Proofs.Relay.Accounting
/-!
# Who hears a shutdown

A shutdown reaches the subscriptions that exist when it is sent. This module says, for every run, what
that makes of the two kinds of subscribers.

* The accept loop subscribes after it has bound its address (`shutdown_heard_iff`): a shutdown waits for
  it exactly if one was sent since. One that was sent earlier in the same run, or before the run, is
  lost (`shutdown_lost_before_subscribing`).
* The task of a client subscribes when it starts (`connection_reached_iff`): a connection that outlives
  the accept loop is interrupted exactly if a shutdown was sent since. The loop may admit a client while
  a shutdown already waits for it, and that client is not reached (`connection_escapes_shutdown`).
-/

namespace BrokerRelay.Relay

/-! ## §1 The accept loop -/

namespace Listener

variable {l l' : Listener} {limit : UInt64} {e : ListenerEvent} {events : List ListenerEvent}

/-- A shutdown was sent, and no run of the listener has received one since. -/
def Owed (events : List ListenerEvent) : Prop :=
  ∃ earlier since, events = earlier ++ .shutdownSent :: since ∧ .shutdownReceived ∉ since

theorem owed_append_iff {earlier since : List ListenerEvent} (h : .shutdownReceived ∉ since) :
    Owed (earlier ++ since) ↔ Owed earlier ∨ .shutdownSent ∈ since := by
  constructor
  · rintro ⟨front, back, heq, hback⟩
    -- the shutdown that is owed was sent after the cut or before it
    rcases List.append_eq_append_iff.mp heq with ⟨middle, rfl, rfl⟩ | ⟨middle, rfl, hmiddle⟩
    · exact .inr (by simp)
    · cases middle with
      | nil =>
        refine .inr ?_
        rw [List.nil_append] at hmiddle
        rw [← hmiddle]
        exact List.mem_cons_self
      | cons first rest =>
        obtain ⟨rfl, rfl⟩ := List.cons.inj hmiddle
        exact .inl ⟨front, rest, rfl, fun hrest => hback (List.mem_append_left since hrest)⟩
  · rintro (⟨front, back, rfl, hback⟩ | hsent)
    · refine ⟨front, back ++ since, by simp, ?_⟩
      simp [hback, h]
    · obtain ⟨front, back, rfl⟩ := List.mem_iff_append.mp hsent
      refine ⟨earlier ++ front, back, by simp, ?_⟩
      exact fun hback => h (List.mem_append_right front (List.mem_cons_of_mem _ hback))

/-- After a step the accept loop has just subscribed and nothing waits for it, or it had subscribed
before and only a shutdown that is sent adds to what waits. -/
theorem Transition.subscribed_cases (ht : Transition l e l') (hloop : l'.subscribed = true) :
    (e = .subscribed ∧ l'.notified = false) ∨
      (l.subscribed = true ∧ e ≠ .subscribed ∧ e ≠ .shutdownReceived ∧
        (l'.notified = true ↔ l.notified = true ∨ e = .shutdownSent)) := by
  cases ht with
  | run | bound | bindFailed | shutdownReceived => cases hloop
  | subscribed => exact .inl ⟨rfl, rfl⟩
  | clientArrived h | acceptFailed h | rejected h | admitted h | spawned h =>
    exact .inr (by simp [Listener.subscribed, h])
  | taskEnded =>
    have hloop : l.subscribed = true := hloop
    exact .inr (by simp [hloop])
  | shutdownSent =>
    have hloop : l.subscribed = true := hloop
    exact .inr (by simp [hloop, notify])

/-- What an accept loop has been told: the events since it subscribed decide. -/
theorem split_at_subscription (h : (new limit).after events = some l) (hloop : l.subscribed = true) :
    ∃ earlier since, events = earlier ++ .subscribed :: since ∧ .subscribed ∉ since ∧
      .shutdownReceived ∉ since ∧ (l.notified = true ↔ .shutdownSent ∈ since) := by
  refine run_induction (P := fun events l => l.subscribed = true →
    ∃ earlier since, events = earlier ++ .subscribed :: since ∧ .subscribed ∉ since ∧
      .shutdownReceived ∉ since ∧ (l.notified = true ↔ .shutdownSent ∈ since)) ?_ ?_ h hloop
  · intro hloop
    cases hloop
  · intro events l e l' _ ih hstep hloop
    rcases (transition_of_step hstep).subscribed_cases hloop with
      ⟨rfl, hquiet⟩ | ⟨hbefore, hsubscribed, hreceived, htold⟩
    · -- a subscription that is new has heard nothing, whatever was sent before it
      exact ⟨events, [], rfl, by simp, by simp, by simp [hquiet]⟩
    · obtain ⟨earlier, since, rfl, hlast, hnone, hsent⟩ := ih hbefore
      refine ⟨earlier, since ++ [e], by simp, ?_, ?_, ?_⟩
      · simp [hlast, hsubscribed.symm]
      · simp [hnone, hreceived.symm]
      · rw [htold, hsent, List.mem_append, List.mem_singleton, eq_comm (a := e)]

/-- **What the accept loop hears.** Whenever the loop waits, the events split where it subscribed:

* a shutdown waits for it exactly if one was sent since then;
* so the shutdowns that no run has received are heard exactly if all of them that were sent before it
  subscribed are followed by another one, sent after it subscribed;
* one that waits can be received, which ends the run, and without one the run goes on. -/
theorem shutdown_heard_iff (limit : UInt64) (events : List ListenerEvent) (l : Listener)
    (h : (new limit).after events = some l) (hwaits : l.phase = .waiting) :
    ∃ earlier since, events = earlier ++ .subscribed :: since ∧ .subscribed ∉ since ∧
      (l.notified = true ↔ .shutdownSent ∈ since) ∧
      ((Owed events → l.notified = true) ↔ (Owed earlier → .shutdownSent ∈ since)) ∧
      (l.notified = true →
        l.step .shutdownReceived = some { l with phase := .stopped, notified := false }) ∧
      (l.notified = false → l.step .shutdownReceived = none) := by
  have hloop : l.subscribed = true := by simp [subscribed, hwaits]
  obtain ⟨earlier, since, rfl, hlast, hnone, hsent⟩ := split_at_subscription h hloop
  refine ⟨earlier, since, rfl, hlast, hsent, ?_, ?_, ?_⟩
  · rw [owed_append_iff (by simp [hnone]), hsent]
    simp only [List.mem_cons, reduceCtorEq, false_or]
    constructor
    · intro hheard howed
      exact hheard (.inl howed)
    · rintro hheard (howed | hsince)
      · exact hheard howed
      · exact hsince
  · exact fun hnotified => step_of_transition (.shutdownReceived hwaits hnotified)
  · intro hquiet
    refine Option.eq_none_iff_forall_ne_some.mpr fun l' hstep => ?_
    cases transition_of_step hstep with
    | shutdownReceived _ hnotified => simp [hquiet] at hnotified

/-- A second run that is shut down: the first one has received its shutdown, and the next one is sent
after the loop has subscribed again. -/
theorem shutdown_heard_in_second_run :
    let first : List ListenerEvent := start ++ stop
    let events := first ++ start ++ [.shutdownSent]
    (new 10).after events = some ⟨10, .waiting, 0, [], true⟩ ∧
      (⟨10, .waiting, 0, [], true⟩ : Listener).step .shutdownReceived =
        some ⟨10, .stopped, 0, [], false⟩ := by
  intro first events
  have hrun : (new 10).after events = some ⟨10, .waiting, 0, [], true⟩ := rfl
  obtain ⟨-, -, -, -, -, -, hstop, -⟩ := shutdown_heard_iff 10 events _ hrun rfl
  exact ⟨hrun, hstop rfl⟩

/-- A shutdown that is sent before the accept loop subscribes is lost: the loop waits, no run has
received the shutdown, and it cannot be received any more. -/
theorem shutdown_lost_before_subscribing :
    let events : List ListenerEvent := [.run, .shutdownSent, .bound, .subscribed]
    let waiting : Listener := ⟨10, .waiting, 0, [], false⟩
    (new 10).after events = some waiting ∧ Owed events ∧
      waiting.step .shutdownReceived = none := by
  refine ⟨rfl, ⟨[.run], [.bound, .subscribed], rfl, ?_⟩, rfl⟩
  decide

/-- An accept loop that was stopped, or that a shutdown waits for, was so before the step, unless the
step is that a shutdown is sent. -/
theorem Transition.stopped_cases (ht : Transition l e l')
    (h : l'.phase = .stopped ∨ l'.notified = true) :
    e = .shutdownSent ∨ l.phase = .stopped ∨ l.notified = true := by
  cases ht with
  | shutdownSent => exact .inl rfl
  | shutdownReceived _ hnotified => exact .inr (.inr hnotified)
  | acceptFailed => exact .inr h
  | taskEnded => exact .inr h
  | subscribed => rcases h with h | h <;> cases h
  | _ =>
    rcases h with h | h
    · cases h
    · exact .inr (.inr h)

/-! ## §2 Tasks -/

/-- A task that has not ended after a step has just started and nothing waits for it, or it was there
before and only a shutdown that is sent adds to what waits. -/
theorem Transition.task_cases (ht : Transition l e l') {index : Nat} {t' : Task}
    (htask : l'.tasks[index]? = some t') (hlive : t'.ended = false) :
    (e = .spawned ∧ index = l.tasks.length ∧ t'.notified = false) ∨
      ∃ t, l.tasks[index]? = some t ∧ t.ended = false ∧
        (t'.notified = true ↔ t.notified = true ∨ e = .shutdownSent) := by
  cases ht with
  | run | bound | bindFailed | subscribed | clientArrived | acceptFailed | rejected | admitted
  | shutdownReceived => exact .inr ⟨t', htask, hlive, by simp⟩
  | spawned =>
    rw [List.getElem?_append] at htask
    split at htask
    · exact .inr ⟨t', htask, hlive, by simp⟩
    · rename_i hindex
      rw [List.getElem?_singleton] at htask
      split at htask
      · obtain rfl := Option.some.inj htask
        exact .inl ⟨rfl, by omega, rfl⟩
      · cases htask
  | @taskEnded ended t _ _ =>
    rw [List.getElem?_set] at htask
    split at htask
    · -- the task that ended is not one that has not
      split at htask
      · obtain rfl := Option.some.inj htask
        cases hlive
      · cases htask
    · exact .inr ⟨t', htask, hlive, by simp⟩
  | shutdownSent =>
    simp only [notify, List.getElem?_map] at htask
    obtain ⟨t, ht, rfl⟩ := Option.map_eq_some_iff.mp htask
    by_cases hended : t.ended = true
    · simp [hended] at hlive
    · exact .inr ⟨t, ht, by simpa using hended, by simp [hended]⟩

/-- A task that has ended after a step has just ended, or had ended before. -/
theorem Transition.ended_cases (ht : Transition l e l') {index : Nat} {t' : Task}
    (htask : l'.tasks[index]? = some t') (hended : t'.ended = true) :
    e = .taskEnded index ∨ ∃ t, l.tasks[index]? = some t ∧ t.ended = true := by
  cases ht with
  | run | bound | bindFailed | subscribed | clientArrived | acceptFailed | rejected | admitted
  | shutdownReceived => exact .inr ⟨t', htask, hended⟩
  | spawned =>
    rw [List.getElem?_append] at htask
    split at htask
    · exact .inr ⟨t', htask, hended⟩
    · rw [List.getElem?_singleton] at htask
      split at htask
      · obtain rfl := Option.some.inj htask
        cases hended
      · cases htask
  | taskEnded =>
    rw [List.getElem?_set] at htask
    split at htask
    · rename_i heq
      exact .inl (by rw [heq])
    · exact .inr ⟨t', htask, hended⟩
  | shutdownSent =>
    simp only [notify, List.getElem?_map] at htask
    obtain ⟨t, ht, rfl⟩ := Option.map_eq_some_iff.mp htask
    by_cases hbefore : t.ended = true
    · exact .inr ⟨t, ht, hbefore⟩
    · simp [hbefore] at hended

/-- Only a start adds a task, and no step takes one away. -/
theorem Transition.length_tasks (ht : Transition l e l') :
    l'.tasks.length = l.tasks.length + if e = .spawned then 1 else 0 := by
  cases ht <;> simp [notify]

end Listener

/-- A connection that is over stays as it is. -/
theorem Connection.step_of_result {c : Connection} {result : Except RelayFailure Traffic}
    (h : c.result? = some result) (e : ConnectionEvent) : c.step e = none := by
  obtain ⟨client, stage, dials, toBroker, toClient⟩ := c
  rcases stage with _ | _ | _ | _
  · cases h
  · cases h
  · cases h
  · cases e <;> rfl

namespace Service

variable {limit : UInt64} {s s' : Service} {e : ServiceEvent} {events : List ServiceEvent}

/-! ## §3 Connections and their tasks -/

/-- Every client that was given a task has a connection, and a task that has ended has one that is
over. -/
structure Matched (events : List ServiceEvent) (s : Service) : Prop where
  tasks : s.listener.tasks.length = events.countP ServiceEvent.isSpawned
  connections : s.connections.length = events.countP ServiceEvent.isSpawned
  finished : ∀ (index : Nat) (t : Task), s.listener.tasks[index]? = some t → t.ended = true →
    ∃ (c : Connection) (result : Except RelayFailure Traffic),
      s.connections[index]? = some c ∧ c.result? = some result

theorem Matched.step (h : Matched events s) (ht : Transition s e s') : Matched (events ++ [e]) s' := by
  have htasks := h.tasks
  have hconnections := h.connections
  cases ht with
  | @loop e l hloop hl =>
    have hlength := hl.length_tasks
    have hspawned : e ≠ .spawned := by
      rintro rfl
      cases hloop
    refine ⟨?_, ?_, ?_⟩
    · simp [hlength, hspawned, htasks, ServiceEvent.isSpawned]
    · simp [hconnections, ServiceEvent.isSpawned]
    · intro index t htask hended
      rcases hl.ended_cases htask hended with rfl | ⟨t, htask, hended⟩
      · cases hloop
      · exact h.finished index t htask hended
  | spawned client hl =>
    have hlength := hl.length_tasks
    refine ⟨?_, ?_, ?_⟩
    · simp [hlength, htasks, ServiceEvent.isSpawned]
    · simp [hconnections, ServiceEvent.isSpawned]
    · intro index t htask hended
      rcases hl.ended_cases htask hended with heq | ⟨t, htask, hended⟩
      · cases heq
      · obtain ⟨c, result, hc, hresult⟩ := h.finished index t htask hended
        obtain ⟨hindex, -⟩ := List.getElem?_eq_some_iff.mp hc
        exact ⟨c, result, (List.getElem?_append_left hindex).trans hc, hresult⟩
  | @connection changed ce c c' t hconnection _ _ hstep =>
    refine ⟨?_, ?_, ?_⟩
    · simp [htasks, ServiceEvent.isSpawned]
    · simp [hconnections, ServiceEvent.isSpawned]
    · intro index t htask hended
      obtain ⟨finished, result, hfinished, hresult⟩ := h.finished index t htask hended
      refine ⟨finished, result, ?_, hresult⟩
      rw [List.getElem?_set]
      split
      · -- a connection that is over has no further step
        rename_i heq
        subst heq
        obtain rfl := Option.some.inj (hfinished.symm.trans hconnection)
        rw [Connection.step_of_result hresult] at hstep
        cases hstep
      · exact hfinished
  | @countedOff counted c result l hconnection hresult hl =>
    have hlength := hl.length_tasks
    refine ⟨?_, ?_, ?_⟩
    · simp [hlength, htasks, ServiceEvent.isSpawned]
    · simp [hconnections, ServiceEvent.isSpawned]
    · intro index t htask hended
      rcases hl.ended_cases htask hended with heq | ⟨t, htask, hended⟩
      · obtain rfl := ListenerEvent.taskEnded.inj heq
        exact ⟨c, result, hconnection, hresult⟩
      · exact h.finished index t htask hended

theorem matched_of_after (h : (new limit).after events = some s) : Matched events s := by
  refine run_induction (P := Matched) ⟨rfl, rfl, ?_⟩ ?_ h
  · intro index t htask
    cases htask
  · intro _ _ _ _ _ hs hstep
    exact hs.step (transition_of_step hstep)

/-- A connection that is not over has a task that has not ended. -/
theorem Matched.exists_live_task (h : Matched events s) {index : Nat} {c : Connection}
    (hconnection : s.connections[index]? = some c) (hopen : c.result? = none) :
    ∃ t, s.listener.tasks[index]? = some t ∧ t.ended = false := by
  obtain ⟨hindex, -⟩ := List.getElem?_eq_some_iff.mp hconnection
  have hbound : index < s.listener.tasks.length := by
    rw [h.tasks, ← h.connections]
    exact hindex
  refine ⟨s.listener.tasks[index], List.getElem?_eq_getElem hbound, ?_⟩
  by_contra hended
  obtain ⟨finished, result, hfinished, hresult⟩ :=
    h.finished index _ (List.getElem?_eq_getElem hbound) (by simpa using hended)
  obtain rfl := Option.some.inj (hfinished.symm.trans hconnection)
  rw [hopen] at hresult
  cases hresult

/-- A task that has not ended after a step has just started and nothing waits for it, or it was there
before and only a shutdown that is sent adds to what waits. -/
theorem Transition.task_cases (ht : Transition s e s') {index : Nat} {t' : Task}
    (htask : s'.listener.tasks[index]? = some t') (hlive : t'.ended = false) :
    (∃ client, e = .spawned client ∧ index = s.listener.tasks.length ∧ t'.notified = false) ∨
      ∃ t, s.listener.tasks[index]? = some t ∧ t.ended = false ∧
        (t'.notified = true ↔ t.notified = true ∨ e = .loop .shutdownSent) := by
  cases ht with
  | loop hloop hl =>
    rcases hl.task_cases htask hlive with ⟨rfl, -, -⟩ | ⟨t, ht, hbefore, htold⟩
    · cases hloop
    · exact .inr ⟨t, ht, hbefore, by simpa using htold⟩
  | spawned client hl =>
    rcases hl.task_cases htask hlive with ⟨-, hindex, hquiet⟩ | ⟨t, ht, hbefore, htold⟩
    · exact .inl ⟨client, rfl, hindex, hquiet⟩
    · exact .inr ⟨t, ht, hbefore, by simpa using htold⟩
  | connection => exact .inr ⟨t', htask, hlive, by simp⟩
  | countedOff _ _ hl =>
    rcases hl.task_cases htask hlive with ⟨heq, -, -⟩ | ⟨t, ht, hbefore, htold⟩
    · cases heq
    · exact .inr ⟨t, ht, hbefore, by simpa using htold⟩

theorem Transition.length_tasks_le (ht : Transition s e s') :
    s.listener.tasks.length ≤ s'.listener.tasks.length := by
  rcases ht.listener with heq | ⟨le, hl⟩
  · exact Nat.le_of_eq (by rw [heq])
  · rw [hl.length_tasks]
    exact Nat.le_add_right _ _

/-- What the task of a client has been told: the events since it started decide. -/
theorem split_at_admission (h : (new limit).after events = some s) {index : Nat} {t : Task}
    (htask : s.listener.tasks[index]? = some t) (hlive : t.ended = false) :
    ∃ earlier client since, events = earlier ++ .spawned client :: since ∧
      earlier.countP ServiceEvent.isSpawned = index ∧
      (t.notified = true ↔ .loop .shutdownSent ∈ since) := by
  refine run_induction (P := fun events s => ∀ index t, s.listener.tasks[index]? = some t →
    t.ended = false → ∃ earlier client since, events = earlier ++ .spawned client :: since ∧
      earlier.countP ServiceEvent.isSpawned = index ∧
      (t.notified = true ↔ .loop .shutdownSent ∈ since)) ?_ ?_ h index t htask hlive
  · intro index t htask
    cases htask
  · intro events s e s' hs ih hstep index t' htask hlive
    rcases (transition_of_step hstep).task_cases htask hlive with
      ⟨client, rfl, rfl, hquiet⟩ | ⟨t, htask, hlive, htold⟩
    · exact ⟨events, client, [], rfl, (matched_of_after hs).tasks.symm, by simp [hquiet]⟩
    · obtain ⟨earlier, client, since, rfl, hindex, hsent⟩ := ih index t htask hlive
      refine ⟨earlier, client, since ++ [e], by simp, hindex, ?_⟩
      rw [htold, hsent, List.mem_append, List.mem_singleton, eq_comm (a := e)]

/-- What waits for a task waits for it until it ends. -/
theorem notified_of_after {later : List ServiceEvent} {index : Nat} {t t' : Task}
    (h : s.after later = some s') (htask : s.listener.tasks[index]? = some t)
    (hnotified : t.notified = true) (htask' : s'.listener.tasks[index]? = some t')
    (hlive : t'.ended = false) : t'.notified = true := by
  obtain ⟨hindex, -⟩ := List.getElem?_eq_some_iff.mp htask
  refine (run_induction (P := fun _ s' => index < s'.listener.tasks.length ∧
    ∀ t', s'.listener.tasks[index]? = some t' → t'.ended = false → t'.notified = true)
    ⟨hindex, ?_⟩ ?_ h).2 t' htask' hlive
  · intro t' htask' _
    obtain rfl := Option.some.inj (htask.symm.trans htask')
    exact hnotified
  · rintro _ m e m' _ ⟨hbound, ih⟩ hstep
    -- the bound is part of the invariant: a task that starts later cannot have this index
    have ht := transition_of_step hstep
    refine ⟨Nat.lt_of_lt_of_le hbound ht.length_tasks_le, ?_⟩
    intro t' htask' hlive
    rcases ht.task_cases htask' hlive with ⟨-, -, rfl, -⟩ | ⟨t, htask, hbefore, htold⟩
    · exact absurd hbound (Nat.lt_irrefl _)
    · exact htold.mpr (.inl (ih t htask hbefore))

/-- An accept loop that was stopped, or is about to be, was sent a shutdown. -/
theorem sent_of_stopped (h : (new limit).after events = some s)
    (hstopped : s.listener.phase = .stopped ∨ s.listener.notified = true) :
    .loop .shutdownSent ∈ events := by
  refine run_induction (P := fun events s =>
    s.listener.phase = .stopped ∨ s.listener.notified = true → .loop .shutdownSent ∈ events)
    ?_ ?_ h hstopped
  · rintro (hstopped | hnotified)
    · cases hstopped
    · cases hnotified
  · intro events s e s' _ ih hstep hstopped
    cases transition_of_step hstep with
    | loop hloop hl =>
      rcases hl.stopped_cases hstopped with rfl | hbefore
      · simp
      · exact List.mem_append_left _ (ih hbefore)
    | spawned client hl =>
      rcases hl.stopped_cases hstopped with heq | hbefore
      · cases heq
      · exact List.mem_append_left _ (ih hbefore)
    | connection => exact List.mem_append_left _ (ih hstopped)
    | countedOff _ _ hl =>
      rcases hl.stopped_cases hstopped with heq | hbefore
      · cases heq
      · exact List.mem_append_left _ (ih hbefore)

/-- A shutdown that waits for the task of a relayed connection interrupts the relay. -/
theorem step_shutdown {index : Nat} {c : Connection} {t : Task}
    (hconnection : s.connections[index]? = some c) (htask : s.listener.tasks[index]? = some t)
    (hnotified : t.notified = true) (hrelaying : c.stage = .relaying) :
    s.step (.connection index .shutdown) =
      some { s with connections := s.connections.set index (c.failed .shutdown) } := by
  refine step_of_transition (.connection hconnection htask hnotified ?_)
  simp [Connection.step, hrelaying]

/-- Nothing interrupts a connection whose task no shutdown waits for. -/
theorem step_shutdown_of_quiet {index : Nat} {t : Task}
    (htask : s.listener.tasks[index]? = some t) (hquiet : t.notified = false) :
    s.step (.connection index .shutdown) = none := by
  refine Option.eq_none_iff_forall_ne_some.mpr fun s' hstep => ?_
  cases transition_of_step hstep with
  | connection _ htask' hallowed _ =>
    obtain rfl := Option.some.inj (htask.symm.trans htask')
    rw [ConnectionEvent.allowed, hquiet] at hallowed
    cases hallowed

/-! ## §4 The main statement -/

/-- **Which connections a shutdown reaches.** When a shutdown has ended the accept loop, the events
split for every connection that is not over where its task started:

* a shutdown waits for the task exactly if one was sent since then;
* if one waits, it interrupts the relay as soon as the connection is relayed, whatever happens until
  then;
* if none does, the shutdown that ended the loop was sent before the task started, and nothing
  interrupts the connection. -/
theorem connection_reached_iff (limit : UInt64) (events : List ServiceEvent) (s : Service)
    (h : (new limit).after events = some s) (hstopped : s.listener.phase = .stopped)
    (index : Nat) (c : Connection) (hconnection : s.connections[index]? = some c)
    (hopen : c.result? = none) :
    ∃ t earlier client since, s.listener.tasks[index]? = some t ∧
      events = earlier ++ .spawned client :: since ∧
      earlier.countP ServiceEvent.isSpawned = index ∧
      (t.notified = true ↔ .loop .shutdownSent ∈ since) ∧
      (t.notified = true → ∀ later s' c', s.after later = some s' →
        s'.connections[index]? = some c' → c'.stage = .relaying →
          s'.step (.connection index .shutdown) =
            some { s' with connections := s'.connections.set index (c'.failed .shutdown) }) ∧
      (t.notified = false → .loop .shutdownSent ∈ earlier ∧
        s.step (.connection index .shutdown) = none) := by
  obtain ⟨t, htask, hlive⟩ := (matched_of_after h).exists_live_task hconnection hopen
  obtain ⟨earlier, client, since, rfl, hindex, hsent⟩ := split_at_admission h htask hlive
  refine ⟨t, earlier, client, since, htask, rfl, hindex, hsent, ?_, ?_⟩
  · -- the task cannot have ended, as its connection has not, so what waits for it still waits
    intro hnotified later s' c' hlater hconnection' hrelaying
    have hrun : (new limit).after (earlier ++ .spawned client :: since ++ later) = some s' := by
      unfold after at h hlater ⊢
      rw [List.foldlM_append, h]
      exact hlater
    have hopen' : c'.result? = none := by simp [Connection.result?, hrelaying]
    obtain ⟨t', htask', hlive'⟩ := (matched_of_after hrun).exists_live_task hconnection' hopen'
    exact step_shutdown hconnection' htask'
      (notified_of_after hlater htask hnotified htask' hlive') hrelaying
  · -- some shutdown ended the loop, and none was sent since the task started
    intro hquiet
    have hmem := sent_of_stopped h (.inl hstopped)
    have hsince : .loop .shutdownSent ∉ since := by simp [← hsent, hquiet]
    exact ⟨by simpa [hsince] using hmem, step_shutdown_of_quiet htask hquiet⟩

/-- A client is admitted before the shutdown is sent: its dial ends after the accept loop has stopped,
and then its relay is interrupted. -/
theorem connection_reached_while_dialing :
    let client := "10.0.0.1:50000"
    let events : List ServiceEvent :=
      [.loop .run, .loop .bound, .loop .subscribed, .loop .clientArrived, .loop .decided,
        .spawned client, .connection 0 .accepted, .loop .shutdownSent, .loop .shutdownReceived]
    let dialing : Connection := ⟨client, .dialing, 1, .fresh, .fresh⟩
    let relaying : Connection := ⟨client, .relaying, 1, .fresh, .fresh⟩
    let listener : Listener := ⟨10, .stopped, 1, [⟨true, false⟩], false⟩
    (new 10).after events = some ⟨listener, [dialing]⟩ ∧
      (⟨listener, [relaying]⟩ : Service).step (.connection 0 .shutdown) =
        some ⟨listener, [relaying.failed .shutdown]⟩ := by
  intro client events dialing relaying listener
  have hrun : (new 10).after events = some ⟨listener, [dialing]⟩ := rfl
  obtain ⟨t, -, -, -, htask, -, -, -, hreached, -⟩ :=
    connection_reached_iff 10 events _ hrun rfl 0 dialing rfl rfl
  obtain rfl := Option.some.inj htask
  exact ⟨hrun, hreached rfl [.connection 0 .dialed] _ relaying rfl rfl rfl⟩

/-- A client that the accept loop admits while a shutdown already waits for the loop is not reached:
the loop stops, and the connection is relayed on with nothing that interrupts it. -/
theorem connection_escapes_shutdown :
    let client := "10.0.0.1:50000"
    let events : List ServiceEvent :=
      [.loop .run, .loop .bound, .loop .subscribed, .loop .shutdownSent, .loop .clientArrived,
        .loop .decided, .spawned client, .connection 0 .accepted, .loop .shutdownReceived,
        .connection 0 .dialed]
    let relaying : Connection := ⟨client, .relaying, 1, .fresh, .fresh⟩
    let escaped : Service := ⟨⟨10, .stopped, 1, [⟨false, false⟩], false⟩, [relaying]⟩
    (new 10).after events = some escaped ∧ relaying.result? = none ∧
      escaped.step (.connection 0 .shutdown) = none :=
  ⟨rfl, rfl, rfl⟩

end Service

end BrokerRelay.Relay
