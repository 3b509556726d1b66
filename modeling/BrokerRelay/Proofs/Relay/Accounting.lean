import BrokerRelay.Proofs.Relay.Transition
/-!
# The counter of clients

A listener admits a client in steps of its own (read the counter, compare, count), and tasks count
their clients off between any two of them. `Listener.Accounted` is what all of this keeps: the counter
is the number of clients that were counted and not counted off, it is within the limit, and while a
client is decided on it is not above what was read for that client, because no one but the accept
loop counts upwards.

Main statement (`clients_accounted`): in every state that a service reaches the counter is exact and
within the limit, no step wraps it, a client is turned away only if the counter was at the limit when
it was read for that client, every connection that is over can be counted off whatever its result, and
once all have been the counter is zero.
-/

namespace BrokerRelay.Relay

namespace Listener

variable {l l' : Listener} {limit : UInt64} {e : ListenerEvent}

/-! ## §1 The clients that count -/

/-- The client that has been counted and has no task yet. -/
def pending (l : Listener) : Nat := if l.phase = .counted then 1 else 0

/-- The clients that have been counted and not counted off. -/
def outstanding (l : Listener) : Nat := l.live.length + l.pending

/-- A task that counts its client off was one of those that had not ended. -/
theorem length_live_endTask {index : Nat} {t : Task} (active : UInt64)
    (htask : l.tasks[index]? = some t) (hlive : t.ended = false) :
    l.live.length =
      ({ l with tasks := l.tasks.set index { t with ended := true }, active := active } :
        Listener).live.length + 1 := by
  obtain ⟨hindex, rfl⟩ := List.getElem?_eq_some_iff.mp htask
  have hpos : 0 < l.tasks.countP (!·.ended) := by
    refine List.countP_pos_iff.mpr ⟨_, List.getElem_mem hindex, ?_⟩
    simp [hlive]
  unfold live
  rw [← List.countP_eq_length_filter, ← List.countP_eq_length_filter, List.countP_set hindex]
  simp [hlive]
  omega

/-- A task that has started has not ended. -/
theorem length_live_spawn {phase : Phase} :
    ({ l with phase := phase, tasks := l.tasks ++ [⟨false, false⟩] } : Listener).live.length =
      l.live.length + 1 := by
  simp [live]

/-- A shutdown ends no task by itself. -/
theorem length_live_notify : l.notify.live.length = l.live.length := by
  unfold live notify
  rw [← List.countP_eq_length_filter, ← List.countP_eq_length_filter, List.countP_map]
  congr 1
  funext t
  by_cases h : t.ended <;> simp [h]

/-! ## §2 What every step keeps -/

/-- The books of a listener: the counter is exact and within the limit, and not above what was read
for the client that is being decided on. -/
structure Accounted (limit : UInt64) (l : Listener) : Prop where
  limit_eq : l.limit = limit
  counter : l.active.toNat = l.outstanding
  bounded : l.active ≤ limit
  read_ge : ∀ read, l.phase = .deciding read → l.active ≤ read

theorem accounted_new : Accounted limit (.new limit) where
  limit_eq := rfl
  counter := rfl
  bounded := UInt64.zero_le
  read_ge := by simp [new]

/-- Counting a client does not wrap: it is done below the limit. -/
theorem toNat_active_admit (h : l.Accounted limit) {read : UInt64} (hphase : l.phase = .deciding read)
    (hroom : read < l.limit) : (l.active + 1).toNat = l.active.toNat + 1 := by
  have hread := UInt64.le_iff_toNat_le.mp (h.read_ge read hphase)
  have hlt := UInt64.lt_iff_toNat_lt.mp hroom
  have hmax := l.limit.toNat_lt
  rw [UInt64.toNat_add]
  show (l.active.toNat + 1) % 2 ^ 64 = _
  omega

/-- Counting a client off does not wrap: a task that has not ended is counted. -/
theorem toNat_active_endTask (h : l.Accounted limit) {index : Nat} {t : Task}
    (htask : l.tasks[index]? = some t) (hlive : t.ended = false) :
    (l.active - 1).toNat + 1 = l.active.toNat := by
  have hcounter := h.counter
  have hone := length_live_endTask l.active htask hlive
  have hle : 1 ≤ l.active := by
    apply UInt64.le_iff_toNat_le.mpr
    show 1 ≤ l.active.toNat
    unfold outstanding at hcounter
    omega
  have hpos : 1 ≤ l.active.toNat := UInt64.le_iff_toNat_le.mp hle
  rw [UInt64.toNat_sub_of_le _ _ hle]
  show l.active.toNat - 1 + 1 = l.active.toNat
  omega

/-- A step that leaves the counter, the tasks and the limit alone keeps the books, if no client is
decided on or waits for its task before and after it. -/
theorem Accounted.of_quiet (h : l.Accounted limit) {phase : Phase} (notified : Bool)
    (hbefore : l.pending = 0) (hafter : phase ≠ .counted) (hread : ∀ read, phase ≠ .deciding read) :
    Accounted limit { l with phase := phase, notified := notified } where
  limit_eq := h.limit_eq
  counter := by
    have hcounter := h.counter
    simp only [outstanding, hbefore] at hcounter
    simpa [outstanding, pending, hafter, live] using hcounter
  bounded := h.bounded
  read_ge := fun read hphase => absurd hphase (hread read)

/-- **Every step keeps the books.** -/
theorem Accounted.step (h : l.Accounted limit) (ht : Transition l e l') : l'.Accounted limit := by
  have hcounter := h.counter
  cases ht with
  | run hphase =>
    refine h.of_quiet l.notified ?_ (by simp) (by simp)
    rcases hphase with hphase | hphase <;> simp [pending, hphase]
  | bound hphase =>
    exact h.of_quiet l.notified (by simp [pending, hphase]) (by simp) (by simp)
  | bindFailed hphase =>
    exact h.of_quiet l.notified (by simp [pending, hphase]) (by simp) (by simp)
  | subscribed hphase => exact h.of_quiet _ (by simp [pending, hphase]) (by simp) (by simp)
  | acceptFailed hphase => exact h
  | shutdownReceived hphase hnotified =>
    exact h.of_quiet _ (by simp [pending, hphase]) (by simp) (by simp)
  | rejected hphase hfull =>
    exact h.of_quiet l.notified (by simp [pending, hphase]) (by simp) (by simp)
  | clientArrived hphase =>
    refine ⟨h.limit_eq, ?_, h.bounded, ?_⟩
    · simpa [outstanding, pending, hphase, live] using hcounter
    · -- what is read is the counter itself
      intro read hread
      obtain rfl := Phase.deciding.inj hread
      exact UInt64.le_refl _
  | @admitted read hphase hroom =>
    have hone := toNat_active_admit h hphase hroom
    have hread := UInt64.le_iff_toNat_le.mp (h.read_ge read hphase)
    have hlt := UInt64.lt_iff_toNat_lt.mp hroom
    refine ⟨h.limit_eq, ?_, ?_, by simp⟩
    · simp only [outstanding, pending, hphase, live, reduceCtorEq, if_false, if_true] at hcounter ⊢
      omega
    · apply UInt64.le_iff_toNat_le.mpr
      show (l.active + 1).toNat ≤ limit.toNat
      rw [← h.limit_eq]
      omega
  | spawned hphase =>
    refine ⟨h.limit_eq, ?_, h.bounded, by simp⟩
    simp only [outstanding, pending, hphase, if_true, length_live_spawn, reduceCtorEq,
      if_false] at hcounter ⊢
    omega
  | @taskEnded index t htask hlive =>
    have hone := toNat_active_endTask h htask hlive
    have hless := length_live_endTask (l.active - 1) htask hlive
    have hle : l.active - 1 ≤ l.active := UInt64.le_iff_toNat_le.mpr (by omega)
    refine ⟨h.limit_eq, ?_, UInt64.le_trans hle h.bounded, ?_⟩
    · simp only [outstanding, pending] at hcounter ⊢
      omega
    · intro read hread
      exact UInt64.le_trans hle (h.read_ge read hread)
  | shutdownSent =>
    refine ⟨h.limit_eq, ?_, h.bounded, h.read_ge⟩
    simp only [outstanding, length_live_notify]
    exact hcounter

end Listener

/-! ## §3 Services -/

/-- The event starts the decision on a client, or ends it. -/
def ServiceEvent.isDecision : ServiceEvent → Bool
  | .loop .clientArrived | .loop .decided => true
  | _ => false

/-- The event starts the task of a client. -/
def ServiceEvent.isSpawned : ServiceEvent → Bool
  | .spawned _ => true
  | _ => false

/-- The event is that a task counts its client off. -/
def ServiceEvent.isCountedOff : ServiceEvent → Bool
  | .countedOff _ => true
  | _ => false

namespace Service

variable {limit : UInt64} {s s' : Service} {e : ServiceEvent} {events : List ServiceEvent}

/-- A step of a service is one of its listener, or leaves the listener alone. -/
theorem Transition.listener (h : Transition s e s') :
    s'.listener = s.listener ∨ ∃ le, s.listener.Transition le s'.listener := by
  cases h with
  | loop _ h => exact .inr ⟨_, h⟩
  | spawned _ h => exact .inr ⟨_, h⟩
  | connection _ _ _ _ => exact .inl rfl
  | countedOff _ _ h => exact .inr ⟨_, h⟩

/-- The books are in order in every state that a service reaches. -/
theorem accounted_of_after (h : (new limit).after events = some s) : s.listener.Accounted limit := by
  refine run_induction (P := fun _ s => s.listener.Accounted limit) Listener.accounted_new ?_ h
  intro _ s e s' _ hs hstep
  rcases (transition_of_step hstep).listener with heq | ⟨le, hl⟩
  · rw [heq]
    exact hs
  · exact hs.step hl

/-- As many tasks have not ended as were started and have not counted their clients off. -/
theorem length_live_of_after (h : (new limit).after events = some s) :
    s.listener.live.length + events.countP ServiceEvent.isCountedOff =
      events.countP ServiceEvent.isSpawned := by
  refine run_induction (P := fun events s => s.listener.live.length +
    events.countP ServiceEvent.isCountedOff = events.countP ServiceEvent.isSpawned) rfl ?_ h
  intro events s e s' _ hs hstep
  rw [List.countP_append, List.countP_append]
  cases transition_of_step hstep with
  | @loop e l hloop hl =>
    have hlive : l.live.length = s.listener.live.length := by
      cases hl with
      | shutdownSent => exact Listener.length_live_notify
      | spawned => cases hloop
      | taskEnded => cases hloop
      | _ => rfl
    simpa [ServiceEvent.isSpawned, ServiceEvent.isCountedOff, hlive] using hs
  | spawned client hl =>
    cases hl with
    | spawned =>
      simp only [Listener.length_live_spawn, List.countP_singleton, ServiceEvent.isSpawned,
        ServiceEvent.isCountedOff]
      simp only [Bool.false_eq_true, if_false, if_true]
      omega
  | connection => simpa [ServiceEvent.isSpawned, ServiceEvent.isCountedOff] using hs
  | countedOff hconnection hover hl =>
    cases hl with
    | taskEnded htask hlive =>
      have hone := Listener.length_live_endTask (s.listener.active - 1) htask hlive
      simp only [List.countP_singleton, ServiceEvent.isSpawned, ServiceEvent.isCountedOff]
      simp only [Bool.false_eq_true, if_false, if_true]
      omega

/-- What was read for the client that is decided on is what the counter was when that client arrived,
and no other client has arrived since. -/
def ReadOnArrival (limit : UInt64) (events : List ServiceEvent) (read : UInt64) : Prop :=
  ∃ earlier later m, events = earlier ++ .loop .clientArrived :: later ∧
    (new limit).after earlier = some m ∧ m.listener.active = read ∧ ∀ e ∈ later, e.isDecision = false

theorem ReadOnArrival.append {read : UInt64} (h : ReadOnArrival limit events read)
    (he : e.isDecision = false) : ReadOnArrival limit (events ++ [e]) read := by
  obtain ⟨earlier, later, m, rfl, hm, hread, hlater⟩ := h
  refine ⟨earlier, later ++ [e], m, by simp, hm, hread, ?_⟩
  intro e' he'
  rcases List.mem_append.mp he' with he' | he'
  · exact hlater e' he'
  · rw [List.mem_singleton.mp he']
    exact he

theorem readOnArrival_of_after (h : (new limit).after events = some s) {read : UInt64}
    (hphase : s.listener.phase = .deciding read) : ReadOnArrival limit events read := by
  refine run_induction (P := fun events s => ∀ read, s.listener.phase = .deciding read →
    ReadOnArrival limit events read) ?_ ?_ h read hphase
  · intro read hphase
    cases hphase
  · intro events s e s' hs ih hstep read hphase
    cases transition_of_step hstep with
    | @loop e l hloop hl =>
      cases hl with
      | clientArrived _ =>
        obtain rfl := Phase.deciding.inj hphase
        exact ⟨events, [], s, rfl, hs, rfl, by simp⟩
      | shutdownSent => exact (ih read hphase).append rfl
      | acceptFailed hwaiting => simp [hwaiting] at hphase
      | taskEnded => cases hloop
      | _ => cases hphase
    | spawned client hl =>
      cases hl with
      | spawned => cases hphase
    | connection => exact (ih read hphase).append rfl
    | countedOff hconnection hover hl =>
      cases hl with
      | taskEnded => exact (ih read hphase).append rfl

/-! ## §4 The main statement -/

/-- **Clients are accounted for.** In every state that a service reaches, by whatever events:

* the counter is the number of tasks that have not counted their clients off, and one more while a
  counted client waits for its task; these tasks are as many as have started less those that have
  counted off;
* it is within the limit, and it wraps at no step: only the end of a decision adds to it, one at a time,
  and only counting off takes from it, one at a time;
* a client is turned away exactly if the counter was at the limit when it was read for that client, and
  then nothing but the phase of the accept loop changes;
* a connection that is over is counted off once, whatever its result, and this is always possible;
* once all tasks have ended and none is about to start, the counter is zero. -/
theorem clients_accounted (limit : UInt64) (events : List ServiceEvent) (s : Service)
    (h : (new limit).after events = some s) :
    (s.listener.active.toNat = s.listener.live.length + s.listener.pending ∧
      s.listener.live.length + events.countP ServiceEvent.isCountedOff =
        events.countP ServiceEvent.isSpawned) ∧
    (s.listener.active ≤ limit ∧
      ∀ e s', s.step e = some s' →
        s'.listener.active.toNat = s.listener.active.toNat ∨
        (e = .loop .decided ∧ s'.listener.active.toNat = s.listener.active.toNat + 1) ∨
        ∃ index, e = .countedOff index ∧
          s.listener.active.toNat = s'.listener.active.toNat + 1) ∧
    (∀ read, s.listener.phase = .deciding read → ReadOnArrival limit events read ∧
      (limit ≤ read →
        s.step (.loop .decided) =
          some { s with listener := { s.listener with phase := .waiting } }) ∧
      (read < limit →
        s.step (.loop .decided) =
          some { s with listener :=
            { s.listener with phase := .counted, active := s.listener.active + 1 } })) ∧
    (∀ index c t result, s.connections[index]? = some c → s.listener.tasks[index]? = some t →
      c.result? = some result →
        (t.ended = false ↔ ∃ s', s.step (.countedOff index) = some s')) ∧
    ((∀ t ∈ s.listener.tasks, t.ended = true) → s.listener.phase ≠ .counted →
      s.listener.active = 0) := by
  have hbooks := accounted_of_after h
  have hcounter : s.listener.active.toNat = s.listener.live.length + s.listener.pending :=
    hbooks.counter
  refine ⟨⟨hcounter, length_live_of_after h⟩, ⟨hbooks.bounded, ?_⟩, ?_, ?_, ?_⟩
  · intro e s' hstep
    cases transition_of_step hstep with
    | @loop e l hloop hl =>
      cases hl with
      | admitted hphase hroom =>
        exact .inr (.inl ⟨rfl, Listener.toNat_active_admit hbooks hphase hroom⟩)
      | taskEnded => cases hloop
      | _ => exact .inl rfl
    | spawned client hl =>
      cases hl with
      | spawned => exact .inl rfl
    | connection => exact .inl rfl
    | @countedOff index _ _ _ hconnection hover hl =>
      cases hl with
      | taskEnded htask hlive =>
        exact .inr (.inr ⟨index, rfl, (Listener.toNat_active_endTask hbooks htask hlive).symm⟩)
  · intro read hphase
    refine ⟨readOnArrival_of_after h hphase, ?_, ?_⟩
    · intro hfull
      rw [← hbooks.limit_eq] at hfull
      exact step_of_transition (.loop rfl (.rejected hphase hfull))
    · intro hroom
      rw [← hbooks.limit_eq] at hroom
      exact step_of_transition (.loop rfl (.admitted hphase hroom))
  · intro index c t result hconnection htask hover
    constructor
    · intro hlive
      exact ⟨_, step_of_transition (.countedOff hconnection hover (.taskEnded htask hlive))⟩
    · rintro ⟨s', hstep⟩
      cases transition_of_step hstep with
      | countedOff _ _ hl =>
        cases hl with
        | taskEnded htask' hlive =>
          obtain rfl := Option.some.inj (htask.symm.trans htask')
          exact hlive
  · intro hended hphase
    have hlive : s.listener.live = [] := by
      apply List.filter_eq_nil_iff.mpr
      intro t ht
      simp [hended t ht]
    apply UInt64.toNat_inj.mp
    rw [hcounter, hlive, Listener.pending, if_neg hphase]
    rfl

/-- One client is allowed. The first one's dial has failed and its task is about to count it off when
a second one arrives: the second one is turned away, and afterwards the first one can still be counted
off, which brings the counter to zero. -/
theorem clients_accounted_one_allowed :
    let events : List ServiceEvent :=
      [.loop .run, .loop .bound, .loop .subscribed, .loop .clientArrived, .loop .decided,
        .spawned "10.0.0.1:50000", .connection 0 .accepted,
        .connection 0 (.dialFailed (.refused "broker:9092")), .loop .clientArrived]
    let failed : Connection :=
      ⟨"10.0.0.1:50000", .over (.error (.dial (.refused "broker:9092"))), 1, .fresh, .fresh⟩
    let full : Service := ⟨⟨1, .deciding 1, 1, [⟨false, false⟩], false⟩, [failed]⟩
    let empty : Service := ⟨⟨1, .waiting, 0, [⟨false, true⟩], false⟩, [failed]⟩
    (new 1).after events = some full ∧
      full.step (.loop .decided) = some ⟨⟨1, .waiting, 1, [⟨false, false⟩], false⟩, [failed]⟩ ∧
      (∃ s', full.step (.countedOff 0) = some s') ∧
      (new 1).after (events ++ [.loop .decided, .countedOff 0]) = some empty ∧
      empty.listener.active = 0 := by
  intro events failed full empty
  have hfull : (new 1).after events = some full := rfl
  have hempty : (new 1).after (events ++ [.loop .decided, .countedOff 0]) = some empty := rfl
  obtain ⟨-, -, hdecision, hcountOff, -⟩ := clients_accounted 1 events full hfull
  obtain ⟨-, -, -, -, hzero⟩ := clients_accounted 1 _ empty hempty
  refine ⟨hfull, (hdecision 1 rfl).2.1 (by decide), ?_, hempty, ?_⟩
  · exact (hcountOff 0 failed ⟨false, false⟩ _ rfl rfl rfl).mp rfl
  · exact hzero (by decide) (by decide)

end Service

end BrokerRelay.Relay
