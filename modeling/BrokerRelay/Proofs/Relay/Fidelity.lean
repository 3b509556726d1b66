import BrokerRelay.Proofs.Relay.Transition
import BrokerRelay.Relay.Handler
import Mathlib.Data.List.Infix
/-!
# What a handled client is given

A handled connection is gated and faithful in every state that a run leads to, however the sends of
the client and of the broker, the moves of both directions, failures and a shutdown are interleaved.

* `Sound.gate`: until the client is accepted the broker is not dialed, no socket is opened and no byte
  is relayed; then it is dialed once, and the sockets opened are those of this one dial.
* `Conveys`: what a direction has delivered, what it holds and what no one has read are together, in
  this order, what its source has sent.

Main statement (`handled_faithfully`): both, and for a relay that is over without a failure that each
direction has delivered all that its source ever sent and counts exactly these bytes. The steps are
inverted once (`Transition`); the invariant is kept by each of them and carried over runs by
`run_induction`.
-/

namespace BrokerRelay.Relay

/-! ## §1 What a step can do -/

namespace Flow

/-- The moves of a direction. -/
inductive Transition (f : Flow) : Move → Flow → Prop
  | read {bytes : Bytes} (hopen : f.ended = false) :
      Transition f (.read bytes)
        { f with yielded := f.yielded ++ bytes, buffered := f.buffered ++ bytes }
  | finish (hopen : f.ended = false) : Transition f .finish { f with ended := true }
  | deliver {count : Nat} (hpos : 0 < count) (hle : count ≤ f.buffered.length) :
      Transition f (.deliver count)
        { f with buffered := f.buffered.drop count,
                 delivered := f.delivered ++ f.buffered.take count }
  | close (hended : f.ended = true) (hempty : f.buffered = []) (hopen : f.closed = false) :
      Transition f .close { f with closed := true }

theorem transition_of_move {f f' : Flow} {m : Move} (h : f.move m = some f') : f.Transition m f' := by
  cases m with
  | read bytes =>
    simp only [move] at h
    split at h
    · cases h
    · rename_i hopen
      exact Option.some.inj h ▸ .read (by simpa using hopen)
  | finish =>
    simp only [move] at h
    split at h
    · cases h
    · rename_i hopen
      exact Option.some.inj h ▸ .finish (by simpa using hopen)
  | deliver count =>
    simp only [move] at h
    split at h
    · rename_i hcount
      exact Option.some.inj h ▸ .deliver hcount.1 hcount.2
    · cases h
  | close =>
    simp only [move] at h
    split at h
    · rename_i hend
      exact Option.some.inj h ▸ .close hend.1 hend.2.1 (by simpa using hend.2.2)
    · cases h

end Flow

namespace Connection

/-- A connection with another state of a direction. -/
def withFlow (c : Connection) (f : Flow) : Direction → Connection
  | .toBroker => { c with toBroker := f }
  | .toClient => { c with toClient := f }

/-- The steps of a connection. -/
inductive Transition (c : Connection) : ConnectionEvent → Connection → Prop
  | accepted (h : c.stage = .accepting) :
      Transition c .accepted { c with stage := .dialing, dials := c.dials + 1 }
  | acceptFailed {reason : String} (h : c.stage = .accepting) :
      Transition c (.acceptFailed reason) (c.failed (.tlsAccept c.client reason))
  | dialed (h : c.stage = .dialing) : Transition c .dialed { c with stage := .relaying }
  | dialFailed {cause : DialFailure} (h : c.stage = .dialing) :
      Transition c (.dialFailed cause) (c.failed (.dial cause))
  | moved {d : Direction} {m : Flow.Move} {f : Flow} (h : c.stage = .relaying)
      (hm : (c.flow d).Transition m f) : Transition c (.moved d m) (c.withFlow f d).settle
  | streamFailed {cause : IoFailure} (h : c.stage = .relaying) :
      Transition c (.streamFailed cause) (c.failed (.connection cause))
  | shutdown (h : c.stage = .relaying) : Transition c .shutdown (c.failed .shutdown)

theorem moveFlow_eq_map (c : Connection) (m : Flow.Move) (d : Direction) :
    c.moveFlow m d = ((c.flow d).move m).map fun f => c.withFlow f d := by
  cases d <;> rfl

theorem transition_of_step {c c' : Connection} {e : ConnectionEvent} (h : c.step e = some c') :
    c.Transition e c' := by
  -- the stage and the event decide together; the pairs that are left out are impossible
  cases hstage : c.stage with
  | accepting =>
    simp only [step, hstage] at h
    cases e with
    | accepted => exact Option.some.inj h ▸ .accepted hstage
    | acceptFailed reason => exact Option.some.inj h ▸ .acceptFailed hstage
    | _ => cases h
  | dialing =>
    simp only [step, hstage] at h
    cases e with
    | dialed => exact Option.some.inj h ▸ .dialed hstage
    | dialFailed cause => exact Option.some.inj h ▸ .dialFailed hstage
    | _ => cases h
  | relaying =>
    simp only [step, hstage] at h
    cases e with
    | moved d m =>
      simp only [moveFlow_eq_map, Option.map_map] at h
      obtain ⟨f, hf, rfl⟩ := Option.map_eq_some_iff.mp h
      exact .moved hstage (Flow.transition_of_move hf)
    | streamFailed cause => exact Option.some.inj h ▸ .streamFailed hstage
    | shutdown => exact Option.some.inj h ▸ .shutdown hstage
    | _ => cases h
  | _ =>
    simp only [step, hstage] at h
    cases e <;> cases h

end Connection

namespace Handling

variable {h : Handler} {a : Arrival} {net : Dial.Network} {s s' : Handling} {e : HandlingEvent}

/-- The steps of a handled connection. -/
inductive Transition (h : Handler) (a : Arrival) (net : Dial.Network) (s : Handling) :
    HandlingEvent → Handling → Prop
  | sends {d : Direction} {bytes : Bytes} (hopen : (s.sender d).finished = false) :
      Transition h a net s (.sends d bytes) (s.withSender ((s.sender d).push bytes) d)
  | finishes {d : Direction} (hopen : (s.sender d).finished = false) :
      Transition h a net s (.finishes d) (s.withSender { s.sender d with finished := true } d)
  | opens {socket : Dial.SocketAddress} (hstage : s.connection.stage = .dialing)
      (hnext : (h.dial net).targets[s.opened.length]? = some socket) :
      Transition h a net s .opens { s with opened := s.opened ++ [socket] }
  | connection {e : ConnectionEvent} {c : Connection} (hallowed : s.allowed h a net e = true)
      (ht : s.connection.Transition e c) :
      Transition h a net s (.connection e) { s.taken e with connection := c }

theorem transition_of_step (hstep : s.step h a net e = some s') : Transition h a net s e s' := by
  cases e with
  | sends d bytes =>
    simp only [step] at hstep
    split at hstep
    · cases hstep
    · rename_i hopen
      exact Option.some.inj hstep ▸ .sends (by simpa using hopen)
  | finishes d =>
    simp only [step] at hstep
    split at hstep
    · cases hstep
    · rename_i hopen
      exact Option.some.inj hstep ▸ .finishes (by simpa using hopen)
  | opens =>
    simp only [step] at hstep
    split at hstep
    · rename_i hstage
      obtain ⟨socket, hnext, rfl⟩ := Option.map_eq_some_iff.mp hstep
      exact .opens hstage hnext
    · cases hstep
  | connection e =>
    simp only [step] at hstep
    split at hstep
    · rename_i hallowed
      obtain ⟨c, hc, rfl⟩ := Option.map_eq_some_iff.mp hstep
      exact .connection hallowed (Connection.transition_of_step hc)
    · cases hstep

end Handling

/-! ## §2 Nothing is lost, doubled or made up -/

/-- A direction conveys what its source sends: what was delivered, what is held and what no one has
read are all of it, in order; the end is met behind the last byte and passed on after it. -/
structure Conveys (source : Sender) (f : Flow) : Prop where
  unread : source.sent = f.yielded ++ source.unread
  buffered : f.yielded = f.delivered ++ f.buffered
  ended : f.ended = true → source.finished = true ∧ source.unread = []
  closed : f.closed = true → f.ended = true ∧ f.buffered = []

namespace Conveys

variable {source : Sender} {f f' : Flow}

theorem fresh : Conveys .silent .fresh where
  unread := rfl
  buffered := rfl
  ended := nofun
  closed := nofun

theorem push (hf : Conveys source f) (hopen : source.finished = false) (bytes : Bytes) :
    Conveys (source.push bytes) f where
  unread := by
    show source.sent ++ bytes = f.yielded ++ (source.unread ++ bytes)
    rw [hf.unread, List.append_assoc]
  buffered := hf.buffered
  ended := fun hended => by
    have hfinished := (hf.ended hended).1
    rw [hopen] at hfinished
    cases hfinished
  closed := hf.closed

theorem finish (hf : Conveys source f) : Conveys { source with finished := true } f where
  unread := hf.unread
  buffered := hf.buffered
  ended := fun hended => ⟨rfl, (hf.ended hended).2⟩
  closed := hf.closed

/-- A read takes the bytes that were sent next. -/
theorem read (hf : Conveys source f) {bytes : Bytes} (hnext : bytes <+: source.unread)
    (hopen : f.ended = false) :
    Conveys (source.pull bytes.length)
      { f with yielded := f.yielded ++ bytes, buffered := f.buffered ++ bytes } where
  unread := by
    obtain ⟨rest, hrest⟩ := hnext
    show source.sent = f.yielded ++ bytes ++ source.unread.drop bytes.length
    rw [hf.unread, ← hrest, List.drop_left, List.append_assoc]
  buffered := by
    show f.yielded ++ bytes = f.delivered ++ (f.buffered ++ bytes)
    rw [hf.buffered, List.append_assoc]
  ended := fun hended => by
    have hended : f.ended = true := hended
    rw [hopen] at hended
    cases hended
  closed := fun hclosed => by
    have hended := (hf.closed hclosed).1
    rw [hopen] at hended
    cases hended

/-- The end is met when the source has finished and all of it was read. -/
theorem meetsEnd (hf : Conveys source f) (hend : source.finished = true ∧ source.unread = []) :
    Conveys source { f with ended := true } where
  unread := hf.unread
  buffered := hf.buffered
  ended := fun _ => hend
  closed := fun hclosed => ⟨rfl, (hf.closed hclosed).2⟩

/-- A delivery takes the bytes that have been held longest. -/
theorem deliver (hf : Conveys source f) (count : Nat) :
    Conveys source { f with buffered := f.buffered.drop count,
                            delivered := f.delivered ++ f.buffered.take count } where
  unread := hf.unread
  buffered := by
    show f.yielded = f.delivered ++ f.buffered.take count ++ f.buffered.drop count
    rw [List.append_assoc, List.take_append_drop, hf.buffered]
  ended := hf.ended
  closed := fun hclosed => by
    obtain ⟨hended, hempty⟩ := hf.closed hclosed
    exact ⟨hended, by simp [hempty]⟩

theorem close (hf : Conveys source f) (hended : f.ended = true) (hempty : f.buffered = []) :
    Conveys source { f with closed := true } where
  unread := hf.unread
  buffered := hf.buffered
  ended := hf.ended
  closed := fun _ => ⟨hended, hempty⟩

/-- What was delivered is the start of what was read. -/
theorem delivered_in_order (hf : Conveys source f) : f.delivered <+: f.yielded :=
  ⟨f.buffered, hf.buffered.symm⟩

/-- A direction that has passed the end on has delivered all that was sent. -/
theorem delivered_of_closed (hf : Conveys source f) (hclosed : f.closed = true) :
    source.finished = true ∧ f.delivered = source.sent := by
  obtain ⟨hended, hempty⟩ := hf.closed hclosed
  obtain ⟨hfinished, hunread⟩ := hf.ended hended
  refine ⟨hfinished, ?_⟩
  rw [hf.unread, hunread, hf.buffered, hempty, List.append_nil, List.append_nil]

end Conveys

/-! ## §3 Directions within a handled connection -/

/-- The number of bytes that a direction delivered. -/
def Traffic.along (t : Traffic) : Direction → Nat
  | .toBroker => t.toBroker
  | .toClient => t.toClient

namespace Connection

@[simp]
theorem flow_withFlow_self (c : Connection) (f : Flow) (d : Direction) :
    (c.withFlow f d).flow d = f := by
  cases d <;> rfl

theorem flow_withFlow_of_ne (c : Connection) (f : Flow) {d d' : Direction} (hne : d' ≠ d) :
    (c.withFlow f d).flow d' = c.flow d' := by
  cases d <;> cases d' <;> first | rfl | exact absurd rfl hne

@[simp]
theorem flow_settle (c : Connection) (d : Direction) : c.settle.flow d = c.flow d := by
  unfold settle
  split <;> cases d <;> rfl

@[simp]
theorem dials_settle (c : Connection) : c.settle.dials = c.dials := by
  unfold settle
  split <;> rfl

@[simp]
theorem client_settle (c : Connection) : c.settle.client = c.client := by
  unfold settle
  split <;> rfl

/-- A relay goes on, or both directions have passed the end on and it counts what they delivered. -/
theorem stage_settle_cases (c : Connection) :
    c.settle.stage = c.stage ∨
      ∃ t, c.settle.stage = .over (.ok t) ∧
        ∀ d, (c.flow d).closed = true ∧ t.along d = (c.flow d).delivered.length := by
  unfold settle
  split
  · rename_i hclosed
    obtain ⟨hbroker, hclient⟩ := Bool.and_eq_true_iff.mp hclosed
    refine .inr ⟨_, rfl, fun d => ?_⟩
    cases d with
    | toBroker => exact ⟨hbroker, rfl⟩
    | toClient => exact ⟨hclient, rfl⟩
  · exact .inl rfl

end Connection

namespace Handling

variable {h : Handler} {a : Arrival} {net : Dial.Network} {s s' : Handling} {e : HandlingEvent}
  {events : List HandlingEvent}

@[simp]
theorem sender_withSender_self (s : Handling) (sender : Sender) (d : Direction) :
    (s.withSender sender d).sender d = sender := by
  cases d <;> rfl

theorem sender_withSender_of_ne (s : Handling) (sender : Sender) {d d' : Direction} (hne : d' ≠ d) :
    (s.withSender sender d).sender d' = s.sender d' := by
  cases d <;> cases d' <;> first | rfl | exact absurd rfl hne

@[simp]
theorem connection_withSender (s : Handling) (sender : Sender) (d : Direction) :
    (s.withSender sender d).connection = s.connection := by
  cases d <;> rfl

@[simp]
theorem opened_withSender (s : Handling) (sender : Sender) (d : Direction) :
    (s.withSender sender d).opened = s.opened := by
  cases d <;> rfl

@[simp]
theorem opened_taken (s : Handling) (e : ConnectionEvent) : (s.taken e).opened = s.opened := by
  unfold taken
  split
  · exact opened_withSender ..
  · rfl

/-- Each direction conveys what its source sends. -/
def Faithful (s : Handling) : Prop := ∀ d, Conveys (s.sender d) (s.connection.flow d)

theorem Faithful.withSender (hs : s.Faithful) {sender : Sender} {d : Direction}
    (hd : Conveys sender (s.connection.flow d)) : (s.withSender sender d).Faithful := by
  intro d'
  rw [connection_withSender]
  by_cases hne : d' = d
  · rw [hne, sender_withSender_self]
    exact hd
  · rw [sender_withSender_of_ne s sender hne]
    exact hs d'

/-- A move of a direction is conveyed, if its source leads to it. -/
theorem Faithful.moved (hs : s.Faithful) {d : Direction} {m : Flow.Move} {f : Flow}
    (hallowed : s.allowed h a net (.moved d m) = true) (hm : (s.connection.flow d).Transition m f) :
    ({ s.taken (.moved d m) with connection := (s.connection.withFlow f d).settle } :
      Handling).Faithful := by
  have hd := hs d
  have hconveys : Conveys ((s.taken (.moved d m)).sender d) f := by
    cases hm with
    | read hopen =>
      have hnext := (of_decide_eq_true hallowed).2
      show Conveys ((s.withSender _ d).sender d) _
      rw [sender_withSender_self]
      exact hd.read hnext hopen
    | finish => exact hd.meetsEnd (of_decide_eq_true hallowed)
    | deliver => exact hd.deliver _
    | close hended hempty => exact hd.close hended hempty
  intro d'
  show Conveys ((s.taken (.moved d m)).sender d') ((s.connection.withFlow f d).settle.flow d')
  rw [Connection.flow_settle]
  by_cases hne : d' = d
  · rw [hne, Connection.flow_withFlow_self]
    exact hconveys
  · -- the other direction and its source are as they were
    rw [Connection.flow_withFlow_of_ne _ _ hne]
    have hsender : (s.taken (.moved d m)).sender d' = s.sender d' := by
      cases m with
      | read bytes => exact sender_withSender_of_ne s _ hne
      | _ => rfl
    rw [hsender]
    exact hs d'

/-- A step of the connection that moves no direction leaves what is conveyed as it is. -/
theorem Faithful.of_flow (hs : s.Faithful) {c : Connection}
    (hflow : ∀ d, c.flow d = s.connection.flow d) :
    ({ s with connection := c } : Handling).Faithful := by
  intro d
  show Conveys (s.sender d) (c.flow d)
  rw [hflow]
  exact hs d

theorem Faithful.step (hs : s.Faithful) (ht : Transition h a net s e s') : s'.Faithful := by
  cases ht with
  | sends hopen => exact hs.withSender ((hs _).push hopen _)
  | finishes => exact hs.withSender (hs _).finish
  | opens => exact hs
  | connection hallowed ht =>
    cases ht with
    | moved _ hm => exact hs.moved hallowed hm
    | _ => exact hs.of_flow fun d => by cases d <;> rfl

/-! ## §4 The order of accepting, dialing and relaying -/

end Handling

/-- The event is the end of a dial. -/
def HandlingEvent.endsDial : HandlingEvent → Bool
  | .connection .dialed | .connection (.dialFailed _) => true
  | _ => false

namespace Handling

variable {h : Handler} {a : Arrival} {net : Dial.Network} {s s' : Handling} {e : HandlingEvent}
  {events : List HandlingEvent}

/-- Where a connection is after some events: before its client is accepted nothing of the broker's
side has begun, and it never will if the client cannot be accepted; after that there is one dial. -/
inductive Gate (h : Handler) (a : Arrival) (events : List HandlingEvent) (s : Handling) : Prop
  | before (hevent : .connection .accepted ∉ events)
      (hends : events.countP HandlingEvent.endsDial = 0) (hdials : s.connection.dials = 0)
      (hopened : s.opened = []) (hfresh : ∀ d, s.connection.flow d = .fresh)
      (hstage : s.connection.stage = .accepting ∨
        ∃ reason, s.connection.stage = .over (.error (.tlsAccept a.client reason)))
  | after (hevent : .connection .accepted ∈ events) (haccept : (h.accept a).value? = some (.ok ()))
      (hdials : s.connection.dials = 1) (hstage : s.connection.stage ≠ .accepting)
      (hends : events.countP HandlingEvent.endsDial ≤ 1)
      (hdialing : s.connection.stage = .dialing → events.countP HandlingEvent.endsDial = 0)

/-- An event that neither accepts the client nor ends the dial keeps the place of a connection that
goes no further by it. -/
theorem Gate.of_quiet (hg : Gate h a events s) (hevent : e ≠ .connection .accepted)
    (hends : e.endsDial = false) (hconnection : s'.connection = s.connection)
    (hopened : s.opened = [] → s.connection.stage ≠ .dialing → s'.opened = []) :
    Gate h a (events ++ [e]) s' := by
  have hcount : (events ++ [e]).countP HandlingEvent.endsDial =
      events.countP HandlingEvent.endsDial := by simp [List.countP_append, hends]
  cases hg with
  | before hunaccepted hnone hdials hclosed hfresh hstage =>
    refine .before ?_ (hcount.trans hnone) ?_ (hopened hclosed ?_) ?_ ?_
    · simpa [hunaccepted] using hevent.symm
    · rw [hconnection, hdials]
    · rcases hstage with hstage | ⟨reason, hstage⟩ <;> simp [hstage]
    · simpa [hconnection] using hfresh
    · simpa [hconnection] using hstage
  | after haccepted haccept hdials hstage hle hdialing =>
    refine .after (List.mem_append_left _ haccepted) haccept ?_ ?_ (hcount ▸ hle) ?_
    · rw [hconnection, hdials]
    · simpa [hconnection] using hstage
    · rw [hconnection, hcount]
      exact hdialing

/-- A connection that is dialing or relaying has an accepted client. -/
theorem Gate.of_stage (hg : Gate h a events s)
    (hstage : s.connection.stage = .dialing ∨ s.connection.stage = .relaying) :
    .connection .accepted ∈ events ∧ (h.accept a).value? = some (.ok ()) ∧
      s.connection.dials = 1 ∧ events.countP HandlingEvent.endsDial ≤ 1 ∧
        (s.connection.stage = .dialing → events.countP HandlingEvent.endsDial = 0) := by
  cases hg with
  | before _ _ _ _ _ hbefore =>
    rcases hbefore with hbefore | ⟨reason, hbefore⟩ <;> simp [hbefore] at hstage
  | after haccepted haccept hdials _ hle hdialing =>
    exact ⟨haccepted, haccept, hdials, hle, hdialing⟩

/-- A connection that leaves a later stage stays behind the gate. -/
theorem Gate.advance (hg : Gate h a events s) {e : ConnectionEvent}
    (hbefore : s.connection.stage = .dialing ∨ s.connection.stage = .relaying)
    (hdials : s'.connection.dials = s.connection.dials) (haccepting : s'.connection.stage ≠ .accepting)
    (hafter : s'.connection.stage ≠ .dialing)
    (hends : HandlingEvent.endsDial (.connection e) = true → s.connection.stage = .dialing) :
    Gate h a (events ++ [.connection e]) s' := by
  obtain ⟨haccepted, haccept, hone, hle, hdialing⟩ := hg.of_stage hbefore
  refine .after (List.mem_append_left _ haccepted) haccept (hdials.trans hone) haccepting ?_
    fun hstage => absurd hstage hafter
  rw [List.countP_append, List.countP_singleton]
  split
  · rename_i hend
    exact Nat.le_of_eq (by rw [hdialing (hends hend)])
  · exact hle

theorem Gate.step (hg : Gate h a events s) (hclient : s.connection.client = a.client)
    (ht : Transition h a net s e s') : Gate h a (events ++ [e]) s' := by
  cases ht with
  | sends => exact hg.of_quiet nofun rfl (by simp) (by simp +contextual)
  | finishes => exact hg.of_quiet nofun rfl (by simp) (by simp +contextual)
  | opens hstage => exact hg.of_quiet nofun rfl rfl fun _ hnot => absurd hstage hnot
  | connection hallowed ht =>
    cases ht with
    | accepted hstage =>
      have haccept : (h.accept a).value? = some (.ok ()) := by
        simp only [allowed] at hallowed
        split at hallowed
        · assumption
        · cases hallowed
      cases hg with
      | before _ hnone hdials =>
        have hcount : (events ++ [HandlingEvent.connection .accepted]).countP
            HandlingEvent.endsDial = 0 := by
          simp [List.countP_append, hnone, HandlingEvent.endsDial]
        refine .after (List.mem_append_right _ (List.mem_singleton_self _)) haccept ?_ nofun
          (by rw [hcount]; exact Nat.zero_le _) fun _ => hcount
        show s.connection.dials + 1 = 1
        rw [hdials]
      | after _ _ _ hnot => exact absurd hstage hnot
    | @acceptFailed reason hstage =>
      cases hg with
      | before hunaccepted hnone hdials hclosed hfresh =>
        refine .before (by simpa using hunaccepted) ?_ hdials hclosed ?_ (.inr ⟨reason, ?_⟩)
        · simp [List.countP_append, hnone, HandlingEvent.endsDial]
        · intro d
          have hd := hfresh d
          cases d <;> exact hd
        · show Stage.over (.error (.tlsAccept s.connection.client reason)) = _
          rw [hclient]
      | after _ _ _ hnot => exact absurd hstage hnot
    | dialed hstage => exact hg.advance (.inl hstage) rfl nofun nofun fun _ => hstage
    | dialFailed hstage => exact hg.advance (.inl hstage) rfl nofun nofun fun _ => hstage
    | @moved d m f hstage =>
      have hkept : (s.connection.withFlow f d).stage = .relaying := by
        cases d <;> exact hstage
      have hdials : (s.connection.withFlow f d).settle.dials = s.connection.dials := by
        rw [Connection.dials_settle]
        cases d <;> rfl
      rcases Connection.stage_settle_cases (s.connection.withFlow f d) with hgoes | ⟨t, hover, -⟩
      · refine hg.advance (.inr hstage) hdials ?_ ?_ nofun
        · simp [hgoes, hkept]
        · simp [hgoes, hkept]
      · refine hg.advance (.inr hstage) hdials ?_ ?_ nofun
        · simp [hover]
        · simp [hover]
    | streamFailed hstage => exact hg.advance (.inr hstage) rfl nofun nofun nofun
    | shutdown hstage => exact hg.advance (.inr hstage) rfl nofun nofun nofun

/-! ## §5 Every run -/

/-- What every step of a handled connection keeps. -/
structure Sound (h : Handler) (a : Arrival) (net : Dial.Network) (events : List HandlingEvent)
    (s : Handling) : Prop where
  client : s.connection.client = a.client
  gate : Gate h a events s
  opened : s.opened <+: (h.dial net).targets
  faithful : s.Faithful
  settled : ∀ t, s.connection.stage = .over (.ok t) →
    ∀ d, (s.connection.flow d).closed = true ∧ t.along d = (s.connection.flow d).delivered.length

theorem sound_begun (h : Handler) (a : Arrival) (net : Dial.Network) :
    Sound h a net [] (begun a) where
  client := rfl
  gate := .before nofun rfl rfl rfl (fun d => by cases d <;> rfl) (.inl rfl)
  opened := List.nil_prefix
  faithful := fun d => by cases d <;> exact Conveys.fresh
  settled := nofun

theorem Sound.step (hs : Sound h a net events s) (ht : Transition h a net s e s') :
    Sound h a net (events ++ [e]) s' where
  client := by
    cases ht with
    | connection _ ht =>
      cases ht with
      | @moved d m f =>
        show (s.connection.withFlow f d).settle.client = a.client
        rw [Connection.client_settle]
        cases d <;> exact hs.client
      | _ => exact hs.client
    | _ => simpa using hs.client
  gate := hs.gate.step hs.client ht
  opened := by
    cases ht with
    | opens _ hnext =>
      obtain ⟨hlt, rfl⟩ := List.getElem?_eq_some_iff.mp hnext
      exact List.concat_get_prefix hs.opened hlt
    | _ => simpa using hs.opened
  faithful := hs.faithful.step ht
  settled := by
    intro t hover
    cases ht with
    | connection _ ht =>
      cases ht with
      | @moved d m f hstage =>
        rcases Connection.stage_settle_cases (s.connection.withFlow f d) with hgoes | ⟨t', ht', hend⟩
        · -- a relay that goes on is not over
          have hkept : (s.connection.withFlow f d).stage = .relaying := by
            cases d <;> exact hstage
          simp [hgoes, hkept] at hover
        · obtain rfl : t' = t := by simpa [ht'] using hover
          intro d'
          show ((s.connection.withFlow f d).settle.flow d').closed = true ∧ _
          rw [Connection.flow_settle]
          exact hend d'
      | _ => cases hover
    | opens => exact hs.settled t hover
    | _ => simpa using hs.settled t (by simpa using hover)

theorem sound_of_after (hrun : (begun a).after h a net events = some s) :
    Sound h a net events s :=
  run_induction (P := Sound h a net) (sound_begun h a net)
    (fun _ _ _ _ _ hs hstep => hs.step (transition_of_step hstep)) hrun

/-- **The broker is dialed once, for an accepted client, and the relay is faithful.** In every state
that a run leads to:

* there was at most one dial, the sockets opened are the first ones of that dial, and before the
  client was accepted there is no dial, no socket and nothing that was read or delivered;
* if the client cannot be accepted this remains so whatever happens, and nothing but the failed
  handshake is the result;
* each direction has delivered a prefix of what it has read; what it has read is what it delivered and
  what it holds, and what its source sent is that and what no one has read;
* if the relay is over without a failure, both sources have finished, and each direction has delivered
  all that its source sent and counts exactly these bytes. -/
theorem handled_faithfully (h : Handler) (a : Arrival) (net : Dial.Network)
    (events : List HandlingEvent) (s : Handling)
    (hrun : (begun a).after h a net events = some s) :
    (s.connection.dials ≤ 1 ∧ events.countP HandlingEvent.endsDial ≤ s.connection.dials ∧
      s.opened <+: (h.dial net).targets ∧
      (.connection .accepted ∉ events →
        s.connection.dials = 0 ∧ s.opened = [] ∧ ∀ d, s.connection.flow d = .fresh)) ∧
    ((h.accept a).value? ≠ some (.ok ()) →
      s.connection.dials = 0 ∧ s.opened = [] ∧ (∀ d, s.connection.flow d = .fresh) ∧
      ∀ result, s.connection.stage = .over result →
        ∃ reason, result = .error (.tlsAccept a.client reason)) ∧
    (∀ d, (s.connection.flow d).delivered <+: (s.connection.flow d).yielded ∧
      (s.connection.flow d).yielded =
        (s.connection.flow d).delivered ++ (s.connection.flow d).buffered ∧
      (s.sender d).sent = (s.connection.flow d).yielded ++ (s.sender d).unread) ∧
    ∀ t, s.connection.stage = .over (.ok t) → ∀ d, (s.sender d).finished = true ∧
      (s.connection.flow d).delivered = (s.sender d).sent ∧ t.along d = (s.sender d).sent.length := by
  obtain ⟨-, hgate, hopened, hfaithful, hsettled⟩ := sound_of_after hrun
  refine ⟨?_, ?_, ?_, ?_⟩
  · cases hgate with
    | before _ hends hdials hclosed hfresh =>
      exact ⟨by simp [hdials], by simp [hends], hopened, fun _ => ⟨hdials, hclosed, hfresh⟩⟩
    | after haccepted _ hdials _ hends =>
      exact ⟨by simp [hdials], by simpa [hdials] using hends, hopened,
        fun hnot => absurd haccepted hnot⟩
  · intro hrefused
    cases hgate with
    | before _ _ hdials hclosed hfresh hstage =>
      refine ⟨hdials, hclosed, hfresh, fun result hover => ?_⟩
      rcases hstage with hstage | ⟨reason, hstage⟩
      · simp [hstage] at hover
      · exact ⟨reason, (Stage.over.inj (hstage.symm.trans hover)).symm⟩
    | after _ haccept => exact absurd haccept hrefused
  · intro d
    exact ⟨(hfaithful d).delivered_in_order, (hfaithful d).buffered, (hfaithful d).unread⟩
  · intro t hover d
    obtain ⟨hclosed, hcount⟩ := hsettled t hover d
    obtain ⟨hfinished, hall⟩ := (hfaithful d).delivered_of_closed hclosed
    exact ⟨hfinished, hall, hcount.trans (by rw [hall])⟩

/-- A network in which the broker has two addresses and only the second one answers. -/
def secondAnswers : Dial.Network where
  resolve _ := some (1, .ok [.v4 10 0 0 1, .v4 10 0 0 2])
  connect candidate :=
    if candidate.address.ip = .v4 10 0 0 1 then some (2, .error .refused)
    else some (3, .ok ⟨candidate.address, ⟨[], .closed, none⟩, fun _ => some 0⟩)
  prepare _ := .ok ()
  secure _ _ _ := none
  bind socket := .ok socket

/-- A handler with TLS under a deadline of five seconds and a direct way to the broker. -/
def securedHandler : Handler where
  tls := some ⟨⟨[], [], ⟨[], []⟩⟩, ⟨[], ⟨.rsa, []⟩⟩, .none, true⟩
  handshakeTimeout := .ofSecs 5
  chain := ⟨⟨.ofSecs 15, .ofSecs 0⟩, none, none⟩
  broker := "broker:9092"

/-- A client whose TLS handshake takes seven nanoseconds. -/
def quickClient : Arrival := ⟨"10.0.0.9:50000", fun _ => some (7, .ok ())⟩

/-- The client sends three bytes, the first of them before it is accepted, and finishes; the broker, at
the second address that is tried, answers with one byte and finishes later. -/
def exchange : List HandlingEvent := [
  .sends .toBroker [1], .connection .accepted, .opens, .opens, .connection .dialed,
  .sends .toBroker [2, 3], .connection (.moved .toBroker (.read [1, 2])),
  .connection (.moved .toBroker (.deliver 1)), .sends .toClient [9], .finishes .toBroker,
  .connection (.moved .toBroker (.read [3])), .connection (.moved .toClient (.read [9])),
  .connection (.moved .toBroker .finish), .connection (.moved .toBroker (.deliver 2)),
  .connection (.moved .toBroker .close), .finishes .toClient,
  .connection (.moved .toClient (.deliver 1)), .connection (.moved .toClient .finish),
  .connection (.moved .toClient .close)]

/-- The exchange is possible, and at its end all bytes are delivered and counted. -/
theorem handled_faithfully_to_the_end :
    ∃ s, (begun quickClient).after securedHandler quickClient secondAnswers exchange = some s ∧
      s.connection.stage = .over (.ok ⟨3, 1⟩) ∧ s.connection.dials = 1 ∧
      s.opened = [⟨.v4 10 0 0 1, 9092⟩, ⟨.v4 10 0 0 2, 9092⟩] ∧
      (s.connection.flow .toBroker).delivered = [1, 2, 3] ∧
      (s.connection.flow .toClient).delivered = [9] := by
  have hrun : (begun quickClient).after securedHandler quickClient secondAnswers exchange = some
      ⟨⟨"10.0.0.9:50000", .over (.ok ⟨3, 1⟩), 1, ⟨[1, 2, 3], [], [1, 2, 3], true, true⟩,
        ⟨[9], [], [9], true, true⟩⟩, ⟨[1, 2, 3], [], true⟩, ⟨[9], [], true⟩,
        [⟨.v4 10 0 0 1, 9092⟩, ⟨.v4 10 0 0 2, 9092⟩]⟩ := rfl
  obtain ⟨-, -, -, hend⟩ := handled_faithfully securedHandler quickClient secondAnswers exchange _ hrun
  exact ⟨_, hrun, rfl, rfl, rfl, (hend ⟨3, 1⟩ rfl .toBroker).2.1, (hend ⟨3, 1⟩ rfl .toClient).2.1⟩

end Handling

end BrokerRelay.Relay
