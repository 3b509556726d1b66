import BrokerRelay.Proofs.Relay.Shutdown
import Mathlib.Data.List.Nodup
/-!
# What is told of failed connections

A connection may fail in any of its stages, and its task tells of it when it counts the client off. By
then the connection is over, and what is over has no further step. So what a run has told can be read
off the state it ends in, whatever happened between the failure and the end of the task.

Main statement (`failures_told_once`): a run tells of the failed ones among the connections that were
counted off, in the order in which they were counted off and of none of them twice. Once all tasks have
ended these are all connections that failed.
-/

namespace BrokerRelay.Relay

/-! ## §1 How grave it is -/

/-- Only the end of a connection by a shutdown is no warning and no error. -/
theorem isGrave_failureEvent_iff {client : String} {e : RelayFailure} :
    (failureEvent client e).isGrave = true ↔ e ≠ .shutdown := by
  cases e with
  | shutdown => exact iff_of_false Bool.false_ne_true fun hne => hne rfl
  | dial cause => exact iff_of_true (by cases cause <;> rfl) nofun
  | _ => exact iff_of_true rfl nofun

/-! ## §2 Tasks that have ended -/

/-- The task has ended. -/
def Listener.HasEnded (l : Listener) (index : Nat) : Prop :=
  ∃ t, l.tasks[index]? = some t ∧ t.ended = true

/-- A task has ended after a step if it ends in the step or had ended before. -/
theorem Listener.Transition.hasEnded_iff {l l' : Listener} {e : ListenerEvent} {index : Nat}
    (ht : Transition l e l') : l'.HasEnded index ↔ e = .taskEnded index ∨ l.HasEnded index := by
  constructor
  · rintro ⟨t, htask, hended⟩
    exact ht.ended_cases htask hended
  · rintro (rfl | ⟨t, htask, hended⟩)
    · cases ht with
      | taskEnded htask _ =>
        obtain ⟨hindex, -⟩ := List.getElem?_eq_some_iff.mp htask
        exact ⟨_, List.getElem?_set_self hindex, rfl⟩
    · obtain ⟨hindex, -⟩ := List.getElem?_eq_some_iff.mp htask
      cases ht with
      | run | bound | bindFailed | subscribed | clientArrived | acceptFailed | rejected | admitted
      | shutdownReceived => exact ⟨t, htask, hended⟩
      | spawned => exact ⟨t, (List.getElem?_append_left hindex).trans htask, hended⟩
      | @taskEnded other u _ _ =>
        by_cases heq : other = index
        · subst heq
          exact ⟨_, List.getElem?_set_self hindex, rfl⟩
        · exact ⟨t, (List.getElem?_set_ne heq).trans htask, hended⟩
      | shutdownSent =>
        refine ⟨t, ?_, hended⟩
        simp [notify, htask, hended]

/-- A connection that is over has failed, and that is told of it, or it has not. -/
theorem Connection.farewell?_of_result {c : Connection} {result : Except RelayFailure Traffic}
    (h : c.result? = some result) :
    c.farewell? = match result with
      | .error e => some (failureEvent c.client e)
      | .ok _ => none := by
  obtain ⟨client, stage, dials, toBroker, toClient⟩ := c
  rcases stage with _ | _ | _ | r
  · cases h
  · cases h
  · cases h
  · obtain rfl : r = result := Option.some.inj h
    cases r <;> rfl

/-- The task that ends at an event. -/
def ServiceEvent.ended? : ServiceEvent → Option Nat
  | .countedOff index => some index
  | _ => none

/-- The tasks that end in the course of a list of events, in order. -/
def countedOff (events : List ServiceEvent) : List Nat := events.filterMap ServiceEvent.ended?

namespace Service

variable {limit : UInt64} {s m s' : Service} {e : ServiceEvent} {events : List ServiceEvent}
  {index : Nat}

theorem Transition.hasEnded_iff (ht : Transition s e s') :
    s'.listener.HasEnded index ↔ e.ended? = some index ∨ s.listener.HasEnded index := by
  cases ht with
  | @loop le l hloop hl =>
    rw [hl.hasEnded_iff]
    refine or_congr_left (iff_of_false ?_ nofun)
    rintro rfl
    cases hloop
  | spawned client hl =>
    rw [hl.hasEnded_iff]
    simp [ServiceEvent.ended?]
  | connection => simp [ServiceEvent.ended?]
  | countedOff _ _ hl =>
    rw [hl.hasEnded_iff]
    simp [ServiceEvent.ended?]

/-- A step that counts a client off ends a task that had not ended. -/
theorem Transition.not_hasEnded (ht : Transition s e s') (hended : e.ended? = some index) :
    ¬s.listener.HasEnded index := by
  cases ht with
  | countedOff _ _ hl =>
    cases hended
    cases hl with
    | taskEnded htask hlive =>
      rintro ⟨t, htask', hover⟩
      obtain rfl := Option.some.inj (htask.symm.trans htask')
      rw [hlive] at hover
      cases hover
  | _ => cases hended

/-- The connection of a task that has ended stays as it is. -/
theorem Transition.connection_of_hasEnded (ht : Transition s e s') (hs : Matched events s)
    (hended : s.listener.HasEnded index) : s'.connections[index]? = s.connections[index]? := by
  obtain ⟨t, htask, hover⟩ := hended
  obtain ⟨c, result, hc, hresult⟩ := hs.finished index t htask hover
  cases ht with
  | loop => rfl
  | countedOff => rfl
  | spawned client hl =>
    obtain ⟨hindex, -⟩ := List.getElem?_eq_some_iff.mp hc
    exact List.getElem?_append_left hindex
  | @connection changed ce c₀ c' t₀ hconnection _ _ hstep =>
    refine List.getElem?_set_ne ?_
    -- the step is not one of this connection, which has none
    rintro rfl
    obtain rfl := Option.some.inj (hc.symm.trans hconnection)
    rw [Connection.step_of_result hresult] at hstep
    cases hstep

/-- What is told at a step can be read off the state behind it. -/
theorem Transition.told_eq (ht : Transition s e s') :
    s.told e = e.ended?.bind fun index => s'.connections[index]?.bind Connection.farewell? := by
  cases ht <;> rfl

/-! ## §3 What a run tells -/

/-- What is told in the course of two lists of events. -/
theorem farewells_append (h : s.after events = some m) (later : List ServiceEvent) :
    s.farewells (events ++ later) = s.farewells events ++ m.farewells later := by
  induction events generalizing s with
  | nil =>
    obtain rfl : s = m := Option.some.inj h
    rfl
  | cons e events ih =>
    rw [after, List.foldlM_cons] at h
    obtain ⟨s₁, hstep, hrest⟩ := Option.bind_eq_some_iff.mp h
    simp only [List.cons_append, farewells, hstep, ih hrest, List.append_assoc]

/-- What has been told of the connections that were counted off, and which these are. -/
structure Told (limit : UInt64) (events : List ServiceEvent) (s : Service) : Prop where
  farewells : (new limit).farewells events =
    (countedOff events).filterMap fun index => s.connections[index]?.bind Connection.farewell?
  once : (countedOff events).Nodup
  ended : ∀ index, index ∈ countedOff events ↔ s.listener.HasEnded index

theorem Told.step (h : Told limit events s) (hrun : (new limit).after events = some s)
    (hstep : s.step e = some s') : Told limit (events ++ [e]) s' := by
  have ht := transition_of_step hstep
  have hmatched := matched_of_after hrun
  have hcounted : countedOff (events ++ [e]) = countedOff events ++ e.ended?.toList := by
    rw [countedOff, List.filterMap_append]
    cases e <;> rfl
  refine ⟨?_, ?_, ?_⟩
  · -- of the connections told of before nothing has changed
    have hbefore : (countedOff events).filterMap
          (fun index => s.connections[index]?.bind Connection.farewell?) =
        (countedOff events).filterMap
          (fun index => s'.connections[index]?.bind Connection.farewell?) := by
      apply List.filterMap_congr
      intro index hindex
      rw [ht.connection_of_hasEnded hmatched ((h.ended index).mp hindex)]
    have hlast : (new limit).farewells (events ++ [e]) =
        (new limit).farewells events ++ (s.told e).toList := by
      rw [farewells_append hrun]
      simp only [Service.farewells, hstep, List.append_nil]
    rw [hlast, h.farewells, hbefore, hcounted, List.filterMap_append, ht.told_eq]
    cases e.ended? with
    | none => rfl
    | some index =>
      cases hfarewell : s'.connections[index]?.bind Connection.farewell? <;> simp [hfarewell]
  · rw [hcounted]
    cases hended : e.ended? with
    | none => simpa using h.once
    | some index =>
      have hfresh : index ∉ countedOff events := by
        intro hmem
        exact ht.not_hasEnded hended ((h.ended index).mp hmem)
      have hperm : (countedOff events ++ [index]).Perm (index :: countedOff events) :=
        List.perm_append_singleton index _
      exact hperm.nodup_iff.mpr (List.nodup_cons.mpr ⟨hfresh, h.once⟩)
  · intro index
    rw [hcounted, ht.hasEnded_iff, List.mem_append, h.ended index, Option.mem_toList, or_comm]

theorem told_of_after (h : (new limit).after events = some s) : Told limit events s := by
  refine run_induction (P := Told limit) ⟨rfl, List.nodup_nil, ?_⟩ ?_ h
  · intro index
    refine iff_of_false List.not_mem_nil ?_
    rintro ⟨t, htask, -⟩
    cases htask
  · intro _ _ _ _ hrun hs hstep
    exact hs.step hrun hstep

/-- What is made of the elements of a list one index after the other is what is made of the list. -/
theorem filterMap_range_getElem? {α β : Type} (l : List α) (f : α → Option β) :
    (List.range l.length).filterMap (fun index => l[index]?.bind f) = l.filterMap f := by
  induction l with
  | nil => rfl
  | cons a l ih =>
    rw [List.length_cons, List.range_succ_eq_map, List.filterMap_cons, List.filterMap_map,
      List.filterMap_cons, ← ih]
    rfl

/-- **Every failure is told of once.** In every state that a service reaches, by whatever events:

* the tasks that have ended are those that counted their clients off, each of them once;
* what has been told are the failures of their connections, in the order in which they counted off, and
  nothing of those that did not fail;
* once all tasks have ended, this is one event for each connection that failed, in some order;
* each of these events is a warning or an error unless it was a shutdown that ended the connection. -/
theorem failures_told_once (limit : UInt64) (events : List ServiceEvent) (s : Service)
    (h : (new limit).after events = some s) :
    ((countedOff events).Nodup ∧ ∀ index, index ∈ countedOff events ↔ s.listener.HasEnded index) ∧
    ((new limit).farewells events =
      (countedOff events).filterMap fun index => s.connections[index]?.bind Connection.farewell?) ∧
    ((∀ t ∈ s.listener.tasks, t.ended = true) →
      ((new limit).farewells events).Perm (s.connections.filterMap Connection.farewell?)) ∧
    ∀ index c e, s.connections[index]? = some c → c.result? = some (.error e) →
      index ∈ countedOff events → failureEvent c.client e ∈ (new limit).farewells events ∧
        ((failureEvent c.client e).isGrave = true ↔ e ≠ .shutdown) := by
  have hmatched := matched_of_after h
  obtain ⟨hfarewells, honce, hended⟩ := told_of_after h
  refine ⟨⟨honce, hended⟩, hfarewells, ?_, ?_⟩
  · intro hall
    have hsame : (countedOff events).Perm (List.range s.connections.length) := by
      apply (List.perm_ext_iff_of_nodup honce List.nodup_range).mpr
      intro index
      rw [hended index, List.mem_range, hmatched.connections, ← hmatched.tasks]
      constructor
      · rintro ⟨t, htask, -⟩
        exact (List.getElem?_eq_some_iff.mp htask).1
      · intro hindex
        exact ⟨_, List.getElem?_eq_getElem hindex, hall _ (List.getElem_mem hindex)⟩
    rw [hfarewells, ← filterMap_range_getElem? s.connections]
    exact hsame.filterMap _
  · intro index c e hc hresult hindex
    refine ⟨?_, isGrave_failureEvent_iff⟩
    rw [hfarewells]
    apply List.mem_filterMap.mpr
    refine ⟨index, hindex, ?_⟩
    rw [hc, Option.bind_some, Connection.farewell?_of_result hresult]

example : (new 10).farewells
    [.loop .run, .loop .bound, .loop .subscribed, .loop .clientArrived, .loop .decided,
      .spawned "10.0.0.1:50000", .connection 0 .accepted,
      .connection 0 (.dialFailed (.refused "broker:9092")), .countedOff 0] =
    [⟨.error, .listener, "connection error", [("peer", "10.0.0.1:50000"),
      ("error", "upstream dial failed: dial broker:9092: connection refused")]⟩] := by
  decide +kernel

end Service

end BrokerRelay.Relay
