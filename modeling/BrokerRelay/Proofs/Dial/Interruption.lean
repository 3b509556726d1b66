import BrokerRelay.Proofs.Dial.Transcript
import BrokerRelay.Proofs.Dial.Truncation
/-!
# Interrupted writes

A peer may stop accepting bytes at any point, also in the middle of a message. `Peer.accepting p limit`
accepts `limit` bytes in total and refuses every write after them.

A run that writes no more than that goes as it does against a peer that accepts everything
(`Talk.run_accepting_of_le`). Any other run goes so up to the message that does not fit: of this message
the bytes are accepted that there is room for, and then the run is over (`Talk.run_accepting_of_lt`). The
induction is on the talk, with the room that is left; the transcript of the interrupted run is a front of
the other one, up to the part of the message.
-/

namespace BrokerRelay

/-! ## §1 Room for a number of bytes -/

/-- The peer, if it accepts `limit` more bytes and no others. -/
def Peer.accepting (p : Peer) (limit : Nat) : Peer := { p with room := some limit }

@[simp]
theorem Peer.accepts_accepting (p : Peer) (limit : Nat) (bytes : Bytes) :
    (p.accepting limit).accepts bytes = min limit bytes.length := rfl

@[simp]
theorem Peer.after_accepting (p : Peer) (limit n : Nat) :
    (p.accepting limit).after n = p.accepting (limit - n) := rfl

namespace Passage

/-- A passage is put before a transcript without a look at what follows a write. -/
theorem before_append (p : Passage) (ps : List Passage) {more : List Passage}
    (h : ∀ n, more.head? ≠ some (.read n)) : p.before (ps ++ more) = p.before ps ++ more := by
  cases ps with
  | nil =>
    cases more with
    | nil => simp
    | cons q more =>
      cases q with
      | read n => exact absurd rfl (h n)
      | wrote bytes => rcases p with (_ | ⟨b, bs⟩) | (_ | n) <;> rfl
  | cons q ps =>
    rcases p with (_ | ⟨b, bs⟩) | (_ | n) <;> cases q <;> rfl

/-- What was accepted of a message is no read. -/
theorem head?_before_nil_ne (bytes : Bytes) (n : Nat) :
    ((Passage.wrote bytes).before []).head? ≠ some (.read n) := by
  cases bytes <;> exact nofun

end Passage

/-- The run `cut` goes as the run `whole` up to a message that does not fit into `limit` bytes, writes of
this message what does fit, and ends with the failure `e`. -/
def TalkOutcome.Interrupted {ε α : Type} (whole cut : TalkOutcome ε α) (limit : Nat) (e : ε) : Prop :=
  ∃ pre message post, whole.passages = pre ++ .wrote message :: post ∧
    (Passage.allWritten pre).length ≤ limit ∧
    limit < (Passage.allWritten pre).length + message.length ∧
    cut.result = .error e ∧
    cut.passages =
      pre ++ (Passage.wrote (message.take (limit - (Passage.allWritten pre).length))).before []

/-- A passage in front of both runs takes its part of the room. -/
theorem TalkOutcome.Interrupted.cons {ε α : Type} {whole cut : TalkOutcome ε α} {limit : Nat} {e : ε}
    (h : whole.Interrupted cut limit e) (p : Passage) :
    (TalkOutcome.mk whole.result (p.before whole.passages) whole.peer).Interrupted
      (TalkOutcome.mk cut.result (p.before cut.passages) cut.peer) (p.written.length + limit) e := by
  obtain ⟨pre, message, post, hwhole, hle, hlt, hresult, hcut⟩ := h
  have hwritten : (Passage.allWritten (p.before pre)).length =
      p.written.length + (Passage.allWritten pre).length := by
    unfold Passage.allWritten
    rw [Passage.written_before, List.length_append]
  refine ⟨p.before pre, message, post, ?_, ?_, ?_, hresult, ?_⟩
  · show p.before whole.passages = _
    rw [hwhole]
    exact p.before_append _ nofun
  · rw [hwritten]
    omega
  · rw [hwritten]
    omega
  · show p.before cut.passages = _
    rw [hcut, p.before_append _ (Passage.head?_before_nil_ne _), hwritten, Nat.add_sub_add_left]

namespace Talk

variable {ε α : Type} {p : Peer} {limit : Nat}

/-! ## §2 Runs that fit and runs that do not -/

/-- **A run that fits into the room is not interrupted.** -/
theorem run_accepting_of_le {t : Talk ε α} (hroom : p.room = none) (refusal : IoFailure)
    (h : (t.run p).written.length ≤ limit) :
    (t.run (p.accepting limit) refusal).result = (t.run p).result ∧
      (t.run (p.accepting limit) refusal).passages = (t.run p).passages ∧
      (t.run (p.accepting limit) refusal).peer.said = (t.run p).peer.said := by
  induction t generalizing p limit with
  | done r => exact ⟨rfl, rfl, rfl⟩
  | send bytes failed next ih =>
    simp only [run, accepts_of_room hroom, after_of_room hroom, if_true, TalkOutcome.written_cons,
      Passage.written, List.length_append] at h ⊢
    have hfits : min limit bytes.length = bytes.length := by omega
    obtain ⟨hresult, hpassages, hsaid⟩ := ih hroom (Nat.le_sub_of_add_le' h)
    simp only [Peer.accepts_accepting, hfits, if_true, Peer.after_accepting, hresult, hpassages, hsaid,
      and_self]
  | receive count failed next ih =>
    by_cases hle : count ≤ p.said.length
    · have hle' : count ≤ (p.accepting limit).said.length := hle
      simp only [run, hle, if_true, TalkOutcome.written_cons, Passage.written, List.nil_append] at h
      obtain ⟨hresult, hpassages, hsaid⟩ :=
        @ih (p.said.take count) { p with said := p.said.drop count } limit hroom h
      simp only [run, hle, hle', if_true]
      exact ⟨hresult, congrArg (Passage.read count).before hpassages, hsaid⟩
    · have hle' : ¬count ≤ (p.accepting limit).said.length := hle
      unfold run
      rw [if_neg hle, if_neg hle']
      exact ⟨rfl, rfl, rfl⟩
  | receiveByte failed next ih =>
    cases hsaid : p.said with
    | nil =>
      have hsaid' : (p.accepting limit).said = [] := hsaid
      unfold run
      rw [hsaid, hsaid']
      exact ⟨rfl, rfl, hsaid'.trans hsaid.symm⟩
    | cons b rest =>
      have hsaid' : (p.accepting limit).said = b :: rest := hsaid
      simp only [run, hsaid, TalkOutcome.written_cons, Passage.written, List.nil_append] at h
      obtain ⟨hresult, hpassages, hleft⟩ := @ih b { p with said := rest } limit hroom h
      simp only [run, hsaid, hsaid']
      exact ⟨hresult, congrArg (Passage.read 1).before hpassages, hleft⟩

/-- **Any other run is interrupted at the message that does not fit.** -/
theorem run_accepting_of_lt {f : IoFailure → ε} {t : Talk ε α} (hfails : t.FailsAs f)
    (hroom : p.room = none) (refusal : IoFailure) (h : limit < (t.run p).written.length) :
    (t.run p).Interrupted (t.run (p.accepting limit) refusal) limit (f refusal) := by
  induction t generalizing p limit with
  | done r => exact absurd h (Nat.not_lt_zero _)
  | send bytes failed next ih =>
    obtain ⟨rfl, hnext⟩ := hfails
    simp only [run, accepts_of_room hroom, after_of_room hroom, if_true, TalkOutcome.written_cons,
      Passage.written, List.length_append] at h ⊢
    by_cases hfits : bytes.length ≤ limit
    · -- the message fits, and what follows has the room that it leaves
      have hall : (p.accepting limit).accepts bytes = bytes.length := Nat.min_eq_right hfits
      have hrest := (ih hnext hroom (Nat.sub_lt_left_of_lt_add hfits h)).cons (.wrote bytes)
      rw [Passage.written, Nat.add_sub_cancel' hfits] at hrest
      simp only [hall, if_true]
      exact hrest
    · have hpart : (p.accepting limit).accepts bytes = limit :=
        Nat.min_eq_left (Nat.le_of_not_le hfits)
      have hlimit : limit ≠ bytes.length := by omega
      simp only [hpart, hlimit, if_false]
      refine ⟨[], bytes, (next.run p).passages, ?_, Nat.zero_le _, ?_, rfl, rfl⟩
      · -- a message that does not fit is not empty
        cases bytes with
        | nil => exact absurd (Nat.zero_le _) hfits
        | cons b bytes => rfl
      · simpa using hfits
  | receive count failed next ih =>
    by_cases hle : count ≤ p.said.length
    · have hle' : count ≤ (p.accepting limit).said.length := hle
      simp only [run, hle, hle', if_true, TalkOutcome.written_cons, Passage.written,
        List.nil_append] at h ⊢
      have hrest := (@ih (p.said.take count) { p with said := p.said.drop count } limit (hfails.2 _)
        hroom h).cons (.read count)
      rwa [Passage.written, List.length_nil, Nat.zero_add] at hrest
    · simp [run, hle, Passage.written] at h
  | receiveByte failed next ih =>
    cases hsaid : p.said with
    | nil => simp [run, hsaid, TalkOutcome.written] at h
    | cons b rest =>
      have hsaid' : (p.accepting limit).said = b :: rest := hsaid
      simp only [run, hsaid, hsaid', TalkOutcome.written_cons, Passage.written, List.nil_append] at h ⊢
      have hrest := (@ih b { p with said := rest } limit (hfails.2 b) hroom h).cons (.read 1)
      rwa [Passage.written, List.length_nil, Nat.zero_add] at hrest

end Talk

/-- What an interrupted run has written is as much of what the whole run writes as there is room for. -/
theorem TalkOutcome.Interrupted.written_eq_take {ε α : Type} {whole cut : TalkOutcome ε α}
    {limit : Nat} {e : ε} (h : whole.Interrupted cut limit e) :
    cut.written = whole.written.take limit := by
  obtain ⟨pre, message, post, hwhole, hle, hlt, -, hcut⟩ := h
  have hroom : limit - (Passage.allWritten pre).length ≤ message.length := by omega
  have hpart : ((Passage.wrote (message.take (limit - (Passage.allWritten pre).length))).before
      []).flatMap Passage.written = message.take (limit - (Passage.allWritten pre).length) := by
    rw [Passage.written_before]
    exact List.append_nil _
  unfold TalkOutcome.written
  rw [hcut, hwhole, List.flatMap_append, List.flatMap_append, List.flatMap_cons, hpart]
  show Passage.allWritten pre ++ _ = (Passage.allWritten pre ++ (message ++ _)).take limit
  rw [List.take_append, List.take_of_length_le hle, List.take_append_of_le_length hroom]

/-- What it has read is what the whole run reads before the message. -/
theorem TalkOutcome.consumed_of_passages {ε α : Type} {cut : TalkOutcome ε α} {pre : List Passage}
    {bytes : Bytes} (h : cut.passages = pre ++ (Passage.wrote bytes).before []) :
    cut.consumed = Passage.allConsumed pre := by
  have hlast : ((Passage.wrote bytes).before []).foldr (fun p n => p.consumed + n) 0 = 0 :=
    Passage.consumed_before _ []
  unfold TalkOutcome.consumed Passage.allConsumed
  rw [h, List.foldr_append, hlast]

namespace Dial.Tunnel

/-! ## §3 Negotiations with a forward proxy -/

/-- **A proxy that stops accepting bytes interrupts a negotiation cleanly**, at every byte. Where the room
is enough for all that is written, nothing changes. Where it is not, the negotiation goes on to the message
that does not fit; the bytes accepted are as many of those written otherwise as there is room for, nothing
is written or read after them, and the result is a failed handshake that carries the refused write. -/
theorem talk_interrupted (t : Tunnel) (target : String) (reply : Bytes) (ending : StreamEnd)
    (limit : Nat) (refusal : IoFailure) :
    let whole := (t.talk target).run ⟨reply, ending, none⟩
    let cut := (t.talk target).run ⟨reply, ending, some limit⟩ refusal
    (whole.written.length ≤ limit → cut.result = whole.result ∧ cut.passages = whole.passages ∧
      cut.written = whole.written ∧ cut.consumed = whole.consumed ∧
      cut.peer.said = whole.peer.said) ∧
    (limit < whole.written.length → ∃ pre message post,
      whole.passages = pre ++ .wrote message :: post ∧
      (Passage.allWritten pre).length ≤ limit ∧
      limit < (Passage.allWritten pre).length + message.length ∧
      cut.result = .error (.proxyHandshakeFailed t.client.address refusal.message) ∧
      cut.written = whole.written.take limit ∧
      cut.passages =
        pre ++ (Passage.wrote (message.take (limit - (Passage.allWritten pre).length))).before [] ∧
      cut.consumed = Passage.allConsumed pre) := by
  intro whole cut
  constructor
  · intro h
    obtain ⟨hresult, hpassages, hsaid⟩ := Talk.run_accepting_of_le rfl refusal h
    refine ⟨hresult, hpassages, ?_, ?_, hsaid⟩
    · exact congrArg (List.flatMap Passage.written) hpassages
    · exact congrArg (List.foldr (fun p n => p.consumed + n) 0) hpassages
  · intro h
    have hcut := Talk.run_accepting_of_lt (talk_failsAs t target) rfl refusal h
    have hwritten := hcut.written_eq_take
    obtain ⟨pre, message, post, hwhole, hle, hlt, hresult, hpassages⟩ := hcut
    exact ⟨pre, message, post, hwhole, hle, hlt, hresult, hwritten, hpassages,
      TalkOutcome.consumed_of_passages hpassages⟩

/-- A proxy that takes ten bytes has the greeting and six bytes of the password message; one that takes
all twenty-nine grants the connection. -/
theorem talk_interrupted_granting :
    ((passwordTunnel.talk "kafka:9092").run ⟨grantingProxy.said, .closed, some 29⟩).result = .ok () ∧
    ((passwordTunnel.talk "kafka:9092").run ⟨grantingProxy.said, .closed, some 10⟩
      .connectionReset).result =
        .error (.proxyHandshakeFailed "proxy:1080" IoFailure.connectionReset.message) ∧
    ((passwordTunnel.talk "kafka:9092").run ⟨grantingProxy.said, .closed, some 10⟩
      .connectionReset).written = [5, 2, 0, 2, 1, 4] ++ Bytes.encodeUtf8 "user" := by
  have hwritten : ((passwordTunnel.talk "kafka:9092").run ⟨grantingProxy.said, .closed, none⟩).written =
      [5, 2, 0, 2, 1, 4] ++ Bytes.encodeUtf8 "user" ++ [6] ++ Bytes.encodeUtf8 "secret" ++
        ([5, 1, 0, 3, 5] ++ Bytes.encodeUtf8 "kafka" ++ [35, 132]) := by decide +kernel
  have hresult : ((passwordTunnel.talk "kafka:9092").run ⟨grantingProxy.said, .closed, none⟩).result =
      .ok () := by decide +kernel
  obtain ⟨hfits, -⟩ :=
    talk_interrupted passwordTunnel "kafka:9092" grantingProxy.said .closed 29 .brokenPipe
  obtain ⟨-, hshort⟩ :=
    talk_interrupted passwordTunnel "kafka:9092" grantingProxy.said .closed 10 .connectionReset
  rw [hwritten] at hfits hshort
  obtain ⟨pre, message, post, -, -, -, hfailed, haccepted, -, -⟩ := hshort (by decide)
  exact ⟨(hfits (by decide)).1.trans hresult, hfailed, haccepted⟩

end Dial.Tunnel

end BrokerRelay
