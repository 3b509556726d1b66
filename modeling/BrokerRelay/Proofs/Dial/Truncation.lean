import BrokerRelay.Dial.Chain
import BrokerRelay.Proofs.Dial.Exchange
/-!
# Extended and truncated replies

A run of a talk against a peer reads from the front of what the peer has said. `Talk.Completes t p`
states that the run is over before it meets the end of these bytes. Then nothing behind the bytes that
it consumed matters, and how they end does not matter either (`run_of_prefix`). On fewer bytes than
that the run meets the end, wherever the cut falls (`not_completes_of_take`): it takes all that is
there, writes a prefix of what it would have written (`written_of_prefix`), and its result is the
failed read (`result_of_not_completes`), when every read of the talk fails in one way.

Both negotiations with a forward proxy are such talks, so a proxy that stops in the middle of its
reply is never taken for one that has answered.
-/

namespace BrokerRelay

namespace Talk

variable {ε α β : Type}

/-! ## §1 What a run consumes -/

/-- The run of the talk against the peer is over before it meets the end of the peer's bytes. -/
def Completes (t : Talk ε α) (p : Peer) : Prop := t.demand p ≤ p.said.length

instance (t : Talk ε α) (p : Peer) : Decidable (t.Completes p) :=
  inferInstanceAs (Decidable (t.demand p ≤ p.said.length))

/-- A run that does not meet the end consumes the bytes that it waits for. -/
theorem consumed_of_completes {t : Talk ε α} {p : Peer} (h : t.Completes p) :
    (t.run p).consumed = t.demand p := by
  unfold Completes at h
  induction t generalizing p with
  | done r => rfl
  | send bytes failed next ih =>
    by_cases hall : p.accepts bytes = bytes.length
    · simp only [demand, hall, if_true] at h
      simp only [run, demand, hall, if_true, TalkOutcome.consumed_cons, Passage.consumed, Nat.zero_add]
      exact ih h
    · simp [run, demand, hall, Passage.consumed]
  | receive count failed next ih =>
    by_cases hle : count ≤ p.said.length
    · simp only [demand, hle, if_true] at h
      simp only [run, demand, hle, if_true, TalkOutcome.consumed_cons, Passage.consumed]
      have hrest : (next (p.said.take count)).demand { p with said := p.said.drop count } ≤
          (p.said.drop count).length := by
        rw [List.length_drop]
        omega
      rw [ih _ hrest]
    · simp only [demand, hle, if_false] at h
      omega
  | receiveByte failed next ih =>
    cases hsaid : p.said with
    | nil => simp [demand, hsaid] at h
    | cons b rest =>
      simp only [demand, hsaid, List.length_cons] at h
      simp only [run, demand, hsaid, TalkOutcome.consumed_cons, Passage.consumed]
      have hrest : (next b).demand { p with said := rest } ≤ rest.length := by omega
      rw [ih b hrest]

/-- A run that meets the end has consumed all there is. -/
theorem consumed_of_not_completes {t : Talk ε α} {p : Peer} (h : ¬t.Completes p) :
    (t.run p).consumed = p.said.length := by
  unfold Completes at h
  induction t generalizing p with
  | done r => exact absurd (Nat.zero_le _) h
  | send bytes failed next ih =>
    by_cases hall : p.accepts bytes = bytes.length
    · simp only [demand, hall, if_true] at h
      simp only [run, hall, if_true, TalkOutcome.consumed_cons, Passage.consumed, Nat.zero_add]
      exact ih h
    · -- a write that is cut short ends the run before it reads on
      simp [demand, hall] at h
  | receive count failed next ih =>
    by_cases hle : count ≤ p.said.length
    · simp only [demand, hle, if_true] at h
      simp only [run, hle, if_true, TalkOutcome.consumed_cons, Passage.consumed]
      have hrest : ¬(next (p.said.take count)).demand { p with said := p.said.drop count } ≤
          (p.said.drop count).length := by
        rw [List.length_drop]
        omega
      rw [ih _ hrest, List.length_drop]
      omega
    · simp [run, hle, Passage.consumed]
  | receiveByte failed next ih =>
    cases hsaid : p.said with
    | nil => simp [run, hsaid, TalkOutcome.consumed]
    | cons b rest =>
      simp only [demand, hsaid, List.length_cons] at h
      simp only [run, hsaid, TalkOutcome.consumed_cons, Passage.consumed, List.length_cons]
      have hrest : ¬(next b).demand { p with said := rest } ≤ rest.length := by omega
      rw [ih b hrest, Nat.add_comm]

/-- No run consumes more than there is. -/
theorem consumed_le (t : Talk ε α) (p : Peer) : (t.run p).consumed ≤ p.said.length := by
  by_cases h : t.Completes p
  · rw [consumed_of_completes h]
    exact h
  · exact Nat.le_of_eq (consumed_of_not_completes h)

/-- What a run leaves unread are the bytes behind those that it consumed. -/
theorem unread_eq_drop (t : Talk ε α) (p : Peer) :
    (t.run p).peer.said = p.said.drop (t.run p).consumed := by
  induction t generalizing p with
  | done r => rfl
  | send bytes failed next ih =>
    by_cases hall : p.accepts bytes = bytes.length
    · simp only [run, hall, if_true, TalkOutcome.consumed_cons, Passage.consumed, Nat.zero_add]
      exact ih (p.after bytes.length)
    · simp [run, hall, Passage.consumed, Peer.after]
  | receive count failed next ih =>
    by_cases hle : count ≤ p.said.length
    · simp only [run, hle, if_true, TalkOutcome.consumed_cons, Passage.consumed]
      rw [ih, List.drop_drop]
    · simp [run, hle, Passage.consumed]
  | receiveByte failed next ih =>
    cases hsaid : p.said with
    | nil => simp [run, hsaid]
    | cons b rest =>
      simp only [run, hsaid, TalkOutcome.consumed_cons, Passage.consumed]
      rw [ih, Nat.add_comm, List.drop_succ_cons]

/-! ## §2 Extended replies -/

/-- **A run that does not meet the end depends only on the bytes that it consumes.** Against any peer
that starts with them and has the same room, it goes through the same passages to the same result. -/
theorem run_of_prefix {t : Talk ε α} {p q : Peer} (h : t.Completes p) (hroom : q.room = p.room)
    (hsaid : p.said.take (t.run p).consumed <+: q.said) :
    t.Completes q ∧ (t.run q).result = (t.run p).result ∧
      (t.run q).passages = (t.run p).passages := by
  rw [consumed_of_completes h] at hsaid
  unfold Completes at h ⊢
  -- on the talk; each step takes as much from the front of `q` as from the front of `p`
  induction t generalizing p q with
  | done r => exact ⟨Nat.zero_le _, rfl, rfl⟩
  | send bytes failed next ih =>
    have hsame : q.accepts bytes = p.accepts bytes := by simp only [Peer.accepts, hroom]
    by_cases hall : p.accepts bytes = bytes.length
    · simp only [demand, hall, if_true] at h hsaid
      have hafter : (q.after bytes.length).room = (p.after bytes.length).room := by
        simp only [Peer.after, hroom]
      obtain ⟨hq, hresult, hpassages⟩ := ih h hafter hsaid
      simp only [run, demand, hsame, hall, if_true, hresult, hpassages, and_self, and_true]
      exact hq
    · simp [run, demand, hsame, hall]
  | receive count failed next ih =>
    by_cases hle : count ≤ p.said.length
    · simp only [demand, hle, if_true] at h hsaid
      obtain ⟨more, hmore⟩ := hsaid
      generalize hrest : (next (p.said.take count)).demand { p with said := p.said.drop count } = rest
        at h hmore
      have hlen : (p.said.take count).length = count := List.length_take_of_le hle
      -- the bytes of `q` are the chunk of `p`, then those that the rest consumes, then the others
      have hcut : q.said = p.said.take count ++ ((p.said.drop count).take rest ++ more) := by
        rw [← hmore, ← List.append_assoc, ← List.take_add]
      have hle' : count ≤ q.said.length := by
        rw [hcut, List.length_append, hlen]
        omega
      have htake : q.said.take count = p.said.take count := by rw [hcut, List.take_left' hlen]
      have hdrop : q.said.drop count = (p.said.drop count).take rest ++ more := by
        rw [hcut, List.drop_left' hlen]
      have hend : (next (p.said.take count)).demand { p with said := p.said.drop count } ≤
          (p.said.drop count).length := by
        rw [hrest, List.length_drop]
        omega
      obtain ⟨hq, hresult, hpassages⟩ := @ih (p.said.take count) { p with said := p.said.drop count }
        { q with said := q.said.drop count } hend hroom (by
          rw [hrest, hdrop]
          exact List.prefix_append _ _)
      simp only [run, demand, hle, hle', if_true, htake, hresult, hpassages, and_self, and_true]
      rw [List.length_drop] at hq
      omega
    · simp only [demand, hle, if_false] at h
      omega
  | receiveByte failed next ih =>
    cases hp : p.said with
    | nil => simp [demand, hp] at h
    | cons b tail =>
      simp only [demand, hp, List.length_cons] at h
      simp only [demand, hp, Nat.add_comm 1, List.take_succ_cons] at hsaid
      obtain ⟨more, hmore⟩ := hsaid
      have hend : (next b).demand { p with said := tail } ≤ tail.length := by omega
      obtain ⟨hq, hresult, hpassages⟩ := @ih b { p with said := tail }
        { q with said := tail.take ((next b).demand { p with said := tail }) ++ more } hend hroom
        (List.prefix_append _ _)
      simp only [run, demand, hp, ← hmore, List.cons_append, hresult, hpassages, and_self, and_true,
        List.length_cons]
      rw [Nat.add_comm 1]
      exact Nat.succ_le_succ hq

/-! ## §3 Truncated replies -/

/-- **A run on fewer bytes than it consumes meets the end**, wherever they are cut off. -/
theorem not_completes_of_take {t : Talk ε α} {p q : Peer} {k : Nat} (hk : k < (t.run p).consumed)
    (hroom : q.room = p.room) (hsaid : q.said = p.said.take k) : ¬t.Completes q := by
  intro hq
  -- else the run on the cut bytes would be the run on all of them, which consumes more than `k`
  have hprefix : q.said.take (t.run q).consumed <+: p.said := by
    refine (List.take_prefix _ _).trans ?_
    rw [hsaid]
    exact List.take_prefix k p.said
  obtain ⟨-, -, hpassages⟩ := run_of_prefix hq hroom.symm hprefix
  have hsame : (t.run p).consumed = (t.run q).consumed := by
    unfold TalkOutcome.consumed
    rw [hpassages]
  have hle : (t.run q).consumed ≤ k := by
    refine Nat.le_trans (consumed_le t q) ?_
    rw [hsaid, List.length_take]
    exact Nat.min_le_left k _
  omega

/-- A run on fewer bytes writes a prefix of what the run on all of them writes. -/
theorem written_of_prefix {t : Talk ε α} {p q : Peer} (hroom : q.room = p.room)
    (hsaid : q.said <+: p.said) : (t.run q).written <+: (t.run p).written := by
  induction t generalizing p q with
  | done r => exact List.prefix_refl _
  | send bytes failed next ih =>
    have hsame : q.accepts bytes = p.accepts bytes := by simp only [Peer.accepts, hroom]
    by_cases hall : p.accepts bytes = bytes.length
    · have hafter : (q.after bytes.length).room = (p.after bytes.length).room := by
        simp only [Peer.after, hroom]
      simp only [run, hsame, hall, if_true, TalkOutcome.written_cons]
      exact (List.prefix_append_right_inj _).2 (ih hafter hsaid)
    · simp [run, hsame, hall]
  | receive count failed next ih =>
    by_cases hle : count ≤ q.said.length
    · have hle' : count ≤ p.said.length := Nat.le_trans hle hsaid.length_le
      obtain ⟨more, hmore⟩ := hsaid
      have htake : p.said.take count = q.said.take count := by
        rw [← hmore, List.take_append_of_le_length hle]
      have hdrop : q.said.drop count <+: p.said.drop count := by
        rw [← hmore, List.drop_append_of_le_length hle]
        exact List.prefix_append _ _
      simp only [run, hle, hle', if_true, htake, TalkOutcome.written_cons]
      exact (List.prefix_append_right_inj _).2
        (@ih _ { p with said := p.said.drop count } { q with said := q.said.drop count } hroom hdrop)
    · -- the shorter run stops here and has written nothing since
      simp only [run, hle, if_false, TalkOutcome.written_last, Passage.written]
      exact List.nil_prefix
  | receiveByte failed next ih =>
    cases hq : q.said with
    | nil =>
      simp only [run, hq]
      exact List.nil_prefix
    | cons b rest =>
      obtain ⟨more, hmore⟩ := hsaid
      have hp : p.said = b :: (rest ++ more) := by rw [← hmore, hq, List.cons_append]
      simp only [run, hq, hp, TalkOutcome.written_cons]
      exact (List.prefix_append_right_inj _).2
        (@ih b { p with said := rest ++ more } { q with said := rest } hroom (List.prefix_append _ _))

/-- Each read that fails ends the talk in the stated way. -/
def ReadsFailAs (f : IoFailure → ε) : Talk ε α → Prop
  | .done _ => True
  | .send _ _ next => next.ReadsFailAs f
  | .receive _ failed next => failed = f ∧ ∀ chunk, (next chunk).ReadsFailAs f
  | .receiveByte failed next => failed = f ∧ ∀ b, (next b).ReadsFailAs f

/-- A talk of which every operation fails in one way has reads that do. -/
theorem FailsAs.readsFailAs {f : IoFailure → ε} {t : Talk ε α} (h : t.FailsAs f) :
    t.ReadsFailAs f := by
  induction t with
  | done r => trivial
  | send bytes failed next ih => exact ih h.2
  | receive count failed next ih => exact ⟨h.1, fun chunk => ih chunk (h.2 chunk)⟩
  | receiveByte failed next ih => exact ⟨h.1, fun b => ih b (h.2 b)⟩

/-- **A run that meets the end has the read that failed there as its result.** -/
theorem result_of_not_completes {f : IoFailure → ε} {t : Talk ε α} (hreads : t.ReadsFailAs f)
    {p : Peer} (h : ¬t.Completes p) : ∃ single, (t.run p).result = .error (f (p.endFailure single)) := by
  unfold Completes at h
  induction t generalizing p with
  | done r => exact absurd (Nat.zero_le _) h
  | send bytes failed next ih =>
    by_cases hall : p.accepts bytes = bytes.length
    · simp only [demand, hall, if_true] at h
      simp only [run, hall, if_true]
      exact ih hreads h
    · simp [demand, hall] at h
  | receive count failed next ih =>
    obtain ⟨rfl, hnext⟩ := hreads
    by_cases hle : count ≤ p.said.length
    · simp only [demand, hle, if_true] at h
      simp only [run, hle, if_true]
      refine @ih _ (hnext _) { p with said := p.said.drop count } ?_
      rw [List.length_drop]
      omega
    · simp only [run, hle, if_false]
      exact ⟨false, rfl⟩
  | receiveByte failed next ih =>
    obtain ⟨rfl, hnext⟩ := hreads
    cases hsaid : p.said with
    | nil =>
      simp only [run, hsaid]
      exact ⟨true, rfl⟩
    | cons b rest =>
      simp only [demand, hsaid, List.length_cons] at h
      simp only [run, hsaid]
      refine @ih b (hnext b) { p with said := rest } ?_
      show ¬_ ≤ rest.length
      omega

end Talk

namespace Dial

/-! ## §4 Negotiations with a forward proxy -/

namespace Socks5

variable (c : ProxyClient)

theorem authenticate_failsAs (k : Config.Credentials) :
    (authenticate c k).FailsAs c.streamFailed := by
  unfold authenticate
  split
  · trivial
  · refine ⟨rfl, rfl, fun answer => ?_⟩
    show Talk.FailsAs _ (if _ then _ else if _ then _ else _)
    split
    · trivial
    · split <;> trivial

theorem negotiate_failsAs : (negotiate c).FailsAs c.streamFailed := by
  refine ⟨rfl, rfl, fun choice => ?_⟩
  show Talk.FailsAs _ (if _ then _ else if _ then _ else if _ then _ else _)
  split
  · trivial
  · split
    · trivial
    · split
      · trivial
      · split
        · split
          · exact authenticate_failsAs c _
          · trivial
        · trivial

theorem skipBoundAddress_failsAs (addressType : UInt8) :
    (skipBoundAddress c addressType).FailsAs c.streamFailed := by
  unfold skipBoundAddress
  split
  · exact ⟨rfl, fun _ => trivial⟩
  · split
    · exact ⟨rfl, fun _ => trivial⟩
    · split
      · exact ⟨rfl, fun _ => ⟨rfl, fun _ => trivial⟩⟩
      · trivial

theorem connect_failsAs (target : String) (destination : HostPort) :
    (connect c target destination).FailsAs c.streamFailed := by
  unfold connect
  split
  · trivial
  · refine ⟨rfl, rfl, fun answer => ?_⟩
    show Talk.FailsAs _ (if _ then _ else if _ then _ else _)
    split
    · trivial
    · split
      · trivial
      · exact skipBoundAddress_failsAs c _

theorem handshake_failsAs (target : String) :
    (handshake c target).FailsAs c.streamFailed := by
  unfold handshake
  split
  · trivial
  · exact Talk.bind_failsAs (negotiate_failsAs c) fun _ => connect_failsAs c target _

end Socks5

namespace HttpConnect

variable (c : ProxyClient)

theorem readHead_failsAs (room : Nat) (read : Bytes) :
    (readHead c room read).FailsAs c.streamFailed := by
  induction room generalizing read with
  | zero =>
    unfold readHead
    split <;> trivial
  | succ room ih =>
    unfold readHead
    split
    · trivial
    · exact ⟨rfl, fun b => ih (b :: read)⟩

theorem handshake_failsAs (target : String) :
    (handshake c target).FailsAs c.streamFailed := by
  have hread : ((readHead c maxHead []).bind fun head => .done (checkHead c head)).FailsAs
      c.streamFailed := Talk.bind_failsAs (readHead_failsAs c maxHead []) fun _ => trivial
  exact ⟨rfl, hread⟩

end HttpConnect

namespace Tunnel

variable (t : Tunnel) (target : String)

/-- Whatever the protocol, an operation of the stream that fails is a failed handshake with its text. -/
theorem talk_failsAs : (t.talk target).FailsAs t.client.streamFailed := by
  unfold talk
  cases t.protocol with
  | socks5 => exact Socks5.handshake_failsAs t.client target
  | http => exact HttpConnect.handshake_failsAs t.client target

theorem talk_readsFailAs : (t.talk target).ReadsFailAs t.client.streamFailed :=
  (talk_failsAs t target).readsFailAs

/-- **A negotiation with a proxy is decided by the bytes that it consumes, and by no fewer.** When it
is over before the end of a reply, every reply that starts with the bytes consumed, whatever follows
and however it ends, leads to the same writes, the same consumption and the same result. Every reply
that ends earlier, by the end of the stream or by a failed read, is consumed in full; the writes are a
prefix of the same writes, and the result is a failed handshake that carries the failed read. -/
theorem talk_decided_by_consumed (p : Peer) :
    ((t.talk target).Completes p →
      ∀ q : Peer, q.room = p.room → p.said.take ((t.talk target).run p).consumed <+: q.said →
      ((t.talk target).run q).result = ((t.talk target).run p).result ∧
      ((t.talk target).run q).passages = ((t.talk target).run p).passages ∧
      ((t.talk target).run q).written = ((t.talk target).run p).written ∧
      ((t.talk target).run q).consumed = ((t.talk target).run p).consumed ∧
      ((t.talk target).run q).peer.said = q.said.drop ((t.talk target).run p).consumed) ∧
    (∀ (q : Peer) (k : Nat), k < ((t.talk target).run p).consumed → q.room = p.room →
      q.said = p.said.take k →
      ((t.talk target).run q).consumed = k ∧
      ((t.talk target).run q).written <+: ((t.talk target).run p).written ∧
      ∃ single, ((t.talk target).run q).result =
        .error (.proxyHandshakeFailed t.client.address (q.endFailure single).message)) := by
  constructor
  · intro h q hroom hsaid
    obtain ⟨-, hresult, hpassages⟩ := Talk.run_of_prefix h hroom hsaid
    have hconsumed : ((t.talk target).run q).consumed = ((t.talk target).run p).consumed := by
      unfold TalkOutcome.consumed
      rw [hpassages]
    refine ⟨hresult, hpassages, ?_, hconsumed, ?_⟩
    · unfold TalkOutcome.written
      rw [hpassages]
    · rw [Talk.unread_eq_drop, hconsumed]
  · intro q k hk hroom hsaid
    have hend : ¬(t.talk target).Completes q := Talk.not_completes_of_take hk hroom hsaid
    refine ⟨?_, ?_, ?_⟩
    · have hle : k ≤ p.said.length := Nat.le_trans (Nat.le_of_lt hk) (Talk.consumed_le _ p)
      rw [Talk.consumed_of_not_completes hend, hsaid, List.length_take_of_le hle]
    · refine Talk.written_of_prefix hroom ?_
      rw [hsaid]
      exact List.take_prefix k p.said
    · exact Talk.result_of_not_completes (talk_readsFailAs t target) hend

/-- A SOCKS5 proxy that checks a password and grants a connection, with a byte of the tunnel. -/
def grantingProxy : Peer :=
  ⟨[5, 2, 1, 0, 5, 0, 0, 1, 127, 0, 0, 1, 35, 132, 42], .closed, none⟩

/-- A client of it that has credentials. -/
def passwordTunnel : Tunnel :=
  ⟨.socks5, (ProxyClient.make "tcp" "proxy:1080").withCredentials "user" "secret"⟩

/-- The tunnel stands after 14 bytes, whatever follows; with the last of them missing and the
connection reset instead, the handshake has failed with the reset. -/
theorem talk_decided_by_consumed_granting :
    (passwordTunnel.talk "kafka:9092").Completes grantingProxy ∧
    ((passwordTunnel.talk "kafka:9092").run grantingProxy).consumed = 14 ∧
    (∀ rest ending,
      ((passwordTunnel.talk "kafka:9092").run
        ⟨grantingProxy.said.take 14 ++ rest, ending, none⟩).result = .ok ()) ∧
    ((passwordTunnel.talk "kafka:9092").run ⟨grantingProxy.said.take 13, .reset, none⟩).result =
      .error (.proxyHandshakeFailed "proxy:1080" IoFailure.connectionReset.message) := by
  have hcompletes : (passwordTunnel.talk "kafka:9092").Completes grantingProxy := by decide +kernel
  have hconsumed : ((passwordTunnel.talk "kafka:9092").run grantingProxy).consumed = 14 := by
    decide +kernel
  have hresult : ((passwordTunnel.talk "kafka:9092").run grantingProxy).result = .ok () := by
    decide +kernel
  obtain ⟨hextended, htruncated⟩ :=
    talk_decided_by_consumed passwordTunnel "kafka:9092" grantingProxy
  replace hextended := hextended hcompletes
  rw [hconsumed] at hextended htruncated
  refine ⟨hcompletes, hconsumed, fun rest ending => ?_, ?_⟩
  · exact (hextended ⟨_, ending, none⟩ rfl (List.prefix_append _ rest)).1.trans hresult
  · obtain ⟨-, -, single, hreset⟩ := htruncated ⟨_, .reset, none⟩ 13 (by decide) rfl rfl
    exact hreset

end Tunnel

end Dial

end BrokerRelay
