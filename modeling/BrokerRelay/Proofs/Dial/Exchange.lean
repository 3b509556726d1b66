import BrokerRelay.Dial.Talk
import Mathlib.Data.List.Basic
import Mathlib.Tactic.Common
/-!
# Exchanges

What a talk hears and says until it is done, apart from any peer. `Talk.Ends t heard said r` states
that the talk, given exactly the bytes `heard`, says exactly the bytes `said` and is done with `r`.
It is composed along `bind`, so the exchanges of a negotiation are computed from those of its parts.

`Talk.run` is tied to it in both directions: an exchange whose bytes a peer holds is what the run
against that peer does, and leaves everything behind it unread (`run_of_ends`); a run that succeeds
is an exchange (`ends_of_run_ok`). Two one-sided bounds cover the runs that do not end this way: what
can be written at all (`SaysWithin`) and which failures can come out (`FailsWith`).
-/

namespace BrokerRelay

/-! ## §1 Views of a transcript -/

/-- The bytes of a passage that the peer accepted. -/
def Passage.written : Passage → Bytes
  | .wrote bytes => bytes
  | .read _ => []

/-- How many bytes a passage took from the peer. -/
def Passage.consumed : Passage → Nat
  | .wrote _ => 0
  | .read count => count

/-- All bytes that the peer accepted, in order. -/
def TalkOutcome.written {ε α : Type} (o : TalkOutcome ε α) : Bytes :=
  o.passages.flatMap Passage.written

/-- How many bytes were taken from the peer. -/
def TalkOutcome.consumed {ε α : Type} (o : TalkOutcome ε α) : Nat :=
  o.passages.foldr (fun p n => p.consumed + n) 0

/-- Joining reads and dropping empty passages loses no byte that was written. -/
theorem Passage.written_before (p : Passage) (ps : List Passage) :
    (p.before ps).flatMap Passage.written = p.written ++ ps.flatMap Passage.written := by
  unfold Passage.before
  split <;> simp [Passage.written]

/-- Joining reads and dropping empty passages keeps the number of bytes read. -/
theorem Passage.consumed_before (p : Passage) (ps : List Passage) :
    (p.before ps).foldr (fun p n => p.consumed + n) 0 =
      p.consumed + ps.foldr (fun p n => p.consumed + n) 0 := by
  unfold Passage.before
  split <;> simp [Passage.consumed, Nat.add_assoc]

namespace TalkOutcome

variable {ε α : Type}

/-- A passage in front adds the bytes that it wrote. -/
@[simp]
theorem written_cons (o : TalkOutcome ε α) (p : Passage) :
    (TalkOutcome.mk o.result (p.before o.passages) o.peer).written = p.written ++ o.written :=
  p.written_before o.passages

/-- A passage in front adds the bytes that it read. -/
@[simp]
theorem consumed_cons (o : TalkOutcome ε α) (p : Passage) :
    (TalkOutcome.mk o.result (p.before o.passages) o.peer).consumed = p.consumed + o.consumed :=
  p.consumed_before o.passages

/-- A talk that stops at a passage wrote what that passage did. -/
@[simp]
theorem written_last (r : Except ε α) (p : Passage) (q : Peer) :
    (TalkOutcome.mk r (p.before []) q).written = p.written := by
  simp [written, Passage.written_before]

/-- A talk that stops at a passage read what that passage did. -/
@[simp]
theorem consumed_last (r : Except ε α) (p : Passage) (q : Peer) :
    (TalkOutcome.mk r (p.before []) q).consumed = p.consumed := by
  simp [consumed, Passage.consumed_before]

end TalkOutcome

namespace Talk

variable {ε α β : Type}

/-! ## §2 Exchanges and how they compose -/

/-- Given exactly the bytes `heard`, the talk says exactly `said` and is done with a result. -/
inductive Ends : Talk ε α → Bytes → Bytes → Except ε α → Prop
  | done (r : Except ε α) : Ends (.done r) [] [] r
  | send {bytes : Bytes} {failed : IoFailure → ε} {next : Talk ε α} {heard said : Bytes}
      {r : Except ε α} : Ends next heard said r → Ends (.send bytes failed next) heard (bytes ++ said) r
  | receive {failed : IoFailure → ε} {next : Bytes → Talk ε α} {chunk heard said : Bytes}
      {r : Except ε α} : Ends (next chunk) heard said r →
      Ends (.receive chunk.length failed next) (chunk ++ heard) said r
  | receiveByte {failed : IoFailure → ε} {next : UInt8 → Talk ε α} {b : UInt8} {heard said : Bytes}
      {r : Except ε α} : Ends (next b) heard said r → Ends (.receiveByte failed next) (b :: heard) said r

@[simp]
theorem ends_done_iff {r r' : Except ε α} {heard said : Bytes} :
    (Talk.done r').Ends heard said r ↔ heard = [] ∧ said = [] ∧ r = r' := by
  constructor
  · rintro ⟨⟩
    exact ⟨rfl, rfl, rfl⟩
  · rintro ⟨rfl, rfl, rfl⟩
    exact .done _

@[simp]
theorem ends_send_iff {bytes : Bytes} {failed : IoFailure → ε} {next : Talk ε α}
    {heard said : Bytes} {r : Except ε α} :
    (Talk.send bytes failed next).Ends heard said r ↔
      ∃ more, said = bytes ++ more ∧ next.Ends heard more r := by
  constructor
  · rintro (_ | h)
    exact ⟨_, rfl, h⟩
  · rintro ⟨more, rfl, h⟩
    exact .send h

@[simp]
theorem ends_receive_iff {count : Nat} {failed : IoFailure → ε} {next : Bytes → Talk ε α}
    {heard said : Bytes} {r : Except ε α} :
    (Talk.receive count failed next).Ends heard said r ↔
      ∃ chunk more, heard = chunk ++ more ∧ chunk.length = count ∧ (next chunk).Ends more said r := by
  constructor
  · intro h
    cases h with
    | receive h => exact ⟨_, _, rfl, rfl, h⟩
  · rintro ⟨chunk, more, rfl, rfl, h⟩
    exact .receive h

@[simp]
theorem ends_receiveByte_iff {failed : IoFailure → ε} {next : UInt8 → Talk ε α}
    {heard said : Bytes} {r : Except ε α} :
    (Talk.receiveByte failed next).Ends heard said r ↔
      ∃ b more, heard = b :: more ∧ (next b).Ends more said r := by
  constructor
  · intro h
    cases h with
    | receiveByte h => exact ⟨_, _, rfl, h⟩
  · rintro ⟨b, more, rfl, h⟩
    exact .receiveByte h

/-! A negotiation is written with `bind`; these put one into the form that the lemmas above read. -/

@[simp]
theorem bind_eq (t : Talk ε α) (f : α → Talk ε β) : t >>= f = t.bind f := rfl

@[simp]
theorem pure_eq (x : α) : (pure x : Talk ε α) = .done (.ok x) := rfl

@[simp]
theorem fail_eq (e : ε) : (fail e : Talk ε α) = .done (.error e) := rfl

@[simp]
theorem say_bind (failed : IoFailure → ε) (bytes : Bytes) (f : Unit → Talk ε β) :
    (say failed bytes).bind f = .send bytes failed (f ()) := rfl

@[simp]
theorem hear_bind (failed : IoFailure → ε) (count : Nat) (f : Bytes → Talk ε β) :
    (hear failed count).bind f = .receive count failed f := rfl

@[simp]
theorem hearByte_bind (failed : IoFailure → ε) (f : UInt8 → Talk ε β) :
    (hearByte failed).bind f = .receiveByte failed f := rfl

/-- An exchange that ends with a value goes on with one of what follows. -/
theorem Ends.bind {t : Talk ε α} {f : α → Talk ε β} {heard₁ said₁ heard₂ said₂ : Bytes} {x : α}
    {r : Except ε β} (ht : t.Ends heard₁ said₁ (.ok x)) (hf : (f x).Ends heard₂ said₂ r) :
    (t.bind f).Ends (heard₁ ++ heard₂) (said₁ ++ said₂) r := by
  generalize hx : Except.ok x = result at ht
  induction ht with
  | done result =>
    subst hx
    exact hf
  | send _ ih =>
    rw [List.append_assoc]
    exact .send (ih hx)
  | receive _ ih =>
    rw [List.append_assoc]
    exact .receive (ih hx)
  | receiveByte _ ih => exact .receiveByte (ih hx)

/-- An exchange that ends with a failure ends the whole. -/
theorem Ends.bind_error {t : Talk ε α} {heard said : Bytes} {e : ε}
    (ht : t.Ends heard said (.error e)) (f : α → Talk ε β) :
    (t.bind f).Ends heard said (.error e) := by
  generalize hx : Except.error e = result at ht
  induction ht with
  | done result =>
    subst hx
    exact .done _
  | send _ ih => exact .send (ih hx)
  | receive _ ih => exact .receive (ih hx)
  | receiveByte _ ih => exact .receiveByte (ih hx)

/-- An exchange of a composed talk is one of its first part that fails, or one that ends well followed
by one of the rest. -/
theorem bind_ends_iff {t : Talk ε α} {f : α → Talk ε β} {heard said : Bytes} {r : Except ε β} :
    (t.bind f).Ends heard said r ↔
      (∃ e, t.Ends heard said (.error e) ∧ r = .error e) ∨
      ∃ x heard₁ said₁ heard₂ said₂,
        t.Ends heard₁ said₁ (.ok x) ∧ (f x).Ends heard₂ said₂ r ∧
          heard = heard₁ ++ heard₂ ∧ said = said₁ ++ said₂ := by
  constructor
  · intro h
    induction t generalizing heard said with
    | done result =>
      cases result with
      | error e =>
        obtain ⟨rfl, rfl, rfl⟩ := ends_done_iff.mp h
        exact .inl ⟨e, .done _, rfl⟩
      | ok x => exact .inr ⟨x, [], [], heard, said, .done _, h, rfl, rfl⟩
    | send bytes failed next ih =>
      obtain ⟨more, rfl, hnext⟩ := ends_send_iff.mp h
      rcases ih hnext with ⟨e, he, rfl⟩ | ⟨x, h₁, s₁, h₂, s₂, hx, hf, rfl, rfl⟩
      · exact .inl ⟨e, .send he, rfl⟩
      · exact .inr ⟨x, h₁, bytes ++ s₁, h₂, s₂, .send hx, hf, rfl, (List.append_assoc ..).symm⟩
    | receive count failed next ih =>
      obtain ⟨chunk, more, rfl, rfl, hnext⟩ := ends_receive_iff.mp h
      rcases ih chunk hnext with ⟨e, he, rfl⟩ | ⟨x, h₁, s₁, h₂, s₂, hx, hf, rfl, rfl⟩
      · exact .inl ⟨e, .receive he, rfl⟩
      · exact .inr ⟨x, chunk ++ h₁, s₁, h₂, s₂, .receive hx, hf, (List.append_assoc ..).symm, rfl⟩
    | receiveByte failed next ih =>
      obtain ⟨b, more, rfl, hnext⟩ := ends_receiveByte_iff.mp h
      rcases ih b hnext with ⟨e, he, rfl⟩ | ⟨x, h₁, s₁, h₂, s₂, hx, hf, rfl, rfl⟩
      · exact .inl ⟨e, .receiveByte he, rfl⟩
      · exact .inr ⟨x, b :: h₁, s₁, h₂, s₂, .receiveByte hx, hf, rfl, rfl⟩
  · rintro (⟨e, he, rfl⟩ | ⟨x, h₁, s₁, h₂, s₂, hx, hf, rfl, rfl⟩)
    · exact he.bind_error f
    · exact hx.bind hf

/-- An exchange of a composed talk that ends well is one of its first part that does, followed by
one of the rest. -/
theorem bind_ends_ok_iff {t : Talk ε α} {f : α → Talk ε β} {heard said : Bytes} {y : β} :
    (t.bind f).Ends heard said (.ok y) ↔
      ∃ x heard₁ said₁ heard₂ said₂,
        t.Ends heard₁ said₁ (.ok x) ∧ (f x).Ends heard₂ said₂ (.ok y) ∧
          heard = heard₁ ++ heard₂ ∧ said = said₁ ++ said₂ := by
  rw [bind_ends_iff]
  simp only [reduceCtorEq, and_false, exists_false, false_or]

/-! ## §3 Exchanges and runs -/

/-- A peer that accepts all writes accepts each in full. -/
theorem accepts_of_room {p : Peer} (hroom : p.room = none) (bytes : Bytes) :
    p.accepts bytes = bytes.length := by
  simp [Peer.accepts, hroom]

/-- A peer that accepts all writes does not change when it is sent to. -/
theorem after_of_room {p : Peer} (hroom : p.room = none) (n : Nat) : p.after n = p := by
  cases p
  cases hroom
  rfl

/-- **A peer that holds the bytes of an exchange and accepts all writes has that exchange**, and what
it holds beyond them stays unread. -/
theorem run_of_ends {t : Talk ε α} {heard said : Bytes} {r : Except ε α} (h : t.Ends heard said r)
    {p : Peer} {rest : Bytes} (hroom : p.room = none) (hsaid : p.said = heard ++ rest) :
    (t.run p).result = r ∧ (t.run p).written = said ∧ (t.run p).consumed = heard.length ∧
      (t.run p).peer = { p with said := rest } := by
  -- on the exchange; a peer that has been sent to or read from still accepts all writes
  induction h generalizing p with
  | done r =>
    rw [List.nil_append] at hsaid
    refine ⟨rfl, rfl, rfl, ?_⟩
    rw [← hsaid]
    rfl
  | @send bytes failed next heard said r _ ih =>
    obtain ⟨hr, hw, hc, hp⟩ := ih hroom hsaid
    simp only [Talk.run, accepts_of_room hroom, if_true, after_of_room hroom]
    refine ⟨hr, ?_, ?_, hp⟩
    · simpa [Passage.written] using hw
    · simpa [Passage.consumed] using hc
  | @receive failed next chunk heard said r _ ih =>
    have hle : chunk.length ≤ p.said.length := by simp [hsaid]
    have htake : p.said.take chunk.length = chunk := by simp [hsaid]
    have hdrop : p.said.drop chunk.length = heard ++ rest := by simp [hsaid]
    obtain ⟨hr, hw, hc, hp⟩ := @ih { p with said := heard ++ rest } hroom rfl
    simp only [Talk.run, hle, if_true, htake, hdrop]
    refine ⟨hr, ?_, ?_, hp⟩
    · simpa [Passage.written] using hw
    · simpa [Passage.consumed] using hc
  | @receiveByte failed next b heard said r _ ih =>
    obtain ⟨hr, hw, hc, hp⟩ := @ih { p with said := heard ++ rest } hroom rfl
    simp only [Talk.run, hsaid, List.cons_append]
    refine ⟨hr, ?_, ?_, hp⟩
    · simpa [Passage.written] using hw
    · rw [TalkOutcome.consumed_cons, hc, Passage.consumed, List.length_cons, Nat.add_comm]

/-- **A run that succeeds is an exchange**, whatever the peer: what it consumed stands in front of
what is still unread. -/
theorem ends_of_run_ok {t : Talk ε α} {p : Peer} {x : α} (h : (t.run p).result = .ok x) :
    ∃ heard, t.Ends heard (t.run p).written (.ok x) ∧ p.said = heard ++ (t.run p).peer.said ∧
      (t.run p).consumed = heard.length := by
  induction t generalizing p with
  | done r =>
    obtain rfl : r = .ok x := h
    exact ⟨[], .done _, rfl, rfl⟩
  | send bytes failed next ih =>
    by_cases hall : p.accepts bytes = bytes.length
    · simp only [Talk.run, hall, if_true] at h ⊢
      obtain ⟨heard, hends, hsaid, hcount⟩ := ih h
      refine ⟨heard, ?_, hsaid, ?_⟩
      · simpa [Passage.written] using hends
      · simpa [Passage.consumed] using hcount
    · -- a write that is cut short ends the run with its failure
      simp [Talk.run, hall] at h
  | receive count failed next ih =>
    by_cases hle : count ≤ p.said.length
    · simp only [Talk.run, hle, if_true] at h ⊢
      obtain ⟨heard, hends, hsaid, hcount⟩ := ih _ h
      have hlen : (p.said.take count).length = count := List.length_take_of_le hle
      refine ⟨p.said.take count ++ heard, ?_, ?_, ?_⟩
      · refine ends_receive_iff.mpr ⟨_, _, rfl, hlen, ?_⟩
        simpa [Passage.written] using hends
      · rw [List.append_assoc, ← hsaid, List.take_append_drop]
      · rw [TalkOutcome.consumed_cons, hcount, List.length_append, hlen, Passage.consumed]
    · simp [Talk.run, hle] at h
  | receiveByte failed next ih =>
    cases hsaid : p.said with
    | nil => simp [Talk.run, hsaid] at h
    | cons b rest =>
      simp only [Talk.run, hsaid] at h ⊢
      obtain ⟨heard, hends, hrest, hcount⟩ := ih b h
      refine ⟨b :: heard, ?_, ?_, ?_⟩
      · refine ends_receiveByte_iff.mpr ⟨b, heard, rfl, ?_⟩
        simpa [Passage.written] using hends
      · simpa using hrest
      · rw [TalkOutcome.consumed_cons, hcount, Passage.consumed, List.length_cons, Nat.add_comm]

/-- A run against a peer that accepts all writes succeeds exactly when the peer's bytes start with an
exchange that does. -/
theorem run_ok_iff {t : Talk ε α} {p : Peer} (hroom : p.room = none) {x : α} :
    (t.run p).result = .ok x ↔
      ∃ heard said rest, t.Ends heard said (.ok x) ∧ p.said = heard ++ rest := by
  constructor
  · intro h
    obtain ⟨heard, hends, hsaid, _⟩ := ends_of_run_ok h
    exact ⟨heard, _, _, hends, hsaid⟩
  · rintro ⟨heard, said, rest, hends, hsaid⟩
    exact (run_of_ends hends hroom hsaid).1

/-! ## §4 Bounds on every run -/

/-- Nothing but the bytes of `limit`, in order and from their start, can be said. -/
def SaysWithin : Talk ε α → Bytes → Prop
  | .done _, _ => True
  | .send bytes _ next, limit => ∃ more, limit = bytes ++ more ∧ next.SaysWithin more
  | .receive _ _ next, limit => ∀ chunk, (next chunk).SaysWithin limit
  | .receiveByte _ next, limit => ∀ b, (next b).SaysWithin limit

/-- What a run writes is within the bound, also when a write fails half-way. -/
theorem written_of_saysWithin {t : Talk ε α} {limit : Bytes} (h : t.SaysWithin limit) (p : Peer) :
    (t.run p).written <+: limit := by
  induction t generalizing limit p with
  | done r => exact List.nil_prefix
  | send bytes failed next ih =>
    obtain ⟨more, rfl, hnext⟩ := h
    by_cases hall : p.accepts bytes = bytes.length
    · simpa [Talk.run, hall, Passage.written] using ih hnext (p.after bytes.length)
    · have hpart : bytes.take (p.accepts bytes) <+: bytes ++ more :=
        (List.take_prefix ..).trans (List.prefix_append ..)
      simpa [Talk.run, hall, Passage.written] using hpart
  | receive count failed next ih =>
    by_cases hle : count ≤ p.said.length
    · simpa [Talk.run, hle, Passage.written] using
        ih _ (h (p.said.take count)) { p with said := p.said.drop count }
    · simp [Talk.run, hle, Passage.written]
  | receiveByte failed next ih =>
    cases hsaid : p.said with
    | nil => simp [Talk.run, hsaid, TalkOutcome.written]
    | cons b rest => simpa [Talk.run, hsaid, Passage.written] using ih b (h b) { p with said := rest }

/-- What is sent first to a peer that accepts all writes is written in full, and all of it when nothing
else is said. -/
theorem written_send {bytes : Bytes} {failed : IoFailure → ε} {next : Talk ε α} {p : Peer}
    (hroom : p.room = none) (hnext : next.SaysWithin []) :
    ((Talk.send bytes failed next).run p).written = bytes := by
  have hall : p.accepts bytes = bytes.length := by simp [Peer.accepts, hroom]
  have hrest : (next.run (p.after bytes.length)).written = [] :=
    List.prefix_nil.mp (written_of_saysWithin hnext _)
  simp [Talk.run, hall, Passage.written, hrest]

/-- A composed talk stays within the bound of its first part when the rest says nothing. -/
theorem bind_saysWithin {t : Talk ε α} {f : α → Talk ε β} {limit : Bytes} (ht : t.SaysWithin limit)
    (hf : ∀ x rest, (f x).SaysWithin rest) : (t.bind f).SaysWithin limit := by
  induction t generalizing limit with
  | done r =>
    cases r with
    | error e => trivial
    | ok x => exact hf x limit
  | send bytes failed next ih =>
    obtain ⟨more, rfl, hnext⟩ := ht
    exact ⟨more, rfl, ih hnext⟩
  | receive count failed next ih => exact fun chunk => ih chunk (ht chunk)
  | receiveByte failed next ih => exact fun b => ih b (ht b)

/-- Every failure that the talk can end with is one of `P`. -/
def FailsWith (P : ε → Prop) : Talk ε α → Prop
  | .done (.ok _) => True
  | .done (.error e) => P e
  | .send _ failed next => (∀ i, P (failed i)) ∧ next.FailsWith P
  | .receive _ failed next => (∀ i, P (failed i)) ∧ ∀ chunk, (next chunk).FailsWith P
  | .receiveByte failed next => (∀ i, P (failed i)) ∧ ∀ b, (next b).FailsWith P

/-- The failure of a run is one of those that the talk can end with. -/
theorem error_of_failsWith {P : ε → Prop} {t : Talk ε α} (h : t.FailsWith P) {p : Peer} {e : ε}
    (herr : (t.run p).result = .error e) : P e := by
  induction t generalizing p with
  | done r =>
    obtain rfl : r = .error e := herr
    exact h
  | send bytes failed next ih =>
    by_cases hall : p.accepts bytes = bytes.length
    · simp only [Talk.run, hall, if_true] at herr
      exact ih h.2 herr
    · simp only [Talk.run, hall, if_false, Except.error.injEq] at herr
      exact herr ▸ h.1 _
  | receive count failed next ih =>
    by_cases hle : count ≤ p.said.length
    · simp only [Talk.run, hle, if_true] at herr
      exact ih _ (h.2 _) herr
    · simp only [Talk.run, hle, if_false, Except.error.injEq] at herr
      exact herr ▸ h.1 _
  | receiveByte failed next ih =>
    cases hsaid : p.said with
    | nil =>
      simp only [Talk.run, hsaid, Except.error.injEq] at herr
      exact herr ▸ h.1 _
    | cons b rest =>
      simp only [Talk.run, hsaid] at herr
      exact ih b (h.2 b) herr

/-- A talk that fails only in some ways fails only in more. -/
theorem FailsWith.mono {P Q : ε → Prop} (hPQ : ∀ e, P e → Q e) {t : Talk ε α}
    (h : t.FailsWith P) : t.FailsWith Q := by
  induction t with
  | done r =>
    cases r with
    | error e => exact hPQ e h
    | ok x => trivial
  | send bytes failed next ih => exact ⟨fun i => hPQ _ (h.1 i), ih h.2⟩
  | receive count failed next ih =>
    exact ⟨fun i => hPQ _ (h.1 i), fun chunk => ih chunk (h.2 chunk)⟩
  | receiveByte failed next ih => exact ⟨fun i => hPQ _ (h.1 i), fun b => ih b (h.2 b)⟩

/-- A composed talk fails only as its parts do. -/
theorem bind_failsWith {P : ε → Prop} {t : Talk ε α} {f : α → Talk ε β} (ht : t.FailsWith P)
    (hf : ∀ x, (f x).FailsWith P) : (t.bind f).FailsWith P := by
  induction t with
  | done r =>
    cases r with
    | error e => exact ht
    | ok x => exact hf x
  | send bytes failed next ih => exact ⟨ht.1, ih ht.2⟩
  | receive count failed next ih => exact ⟨ht.1, fun chunk => ih chunk (ht.2 chunk)⟩
  | receiveByte failed next ih => exact ⟨ht.1, fun b => ih b (ht.2 b)⟩

/-- Each operation of the stream that fails ends the talk in the stated way. -/
def FailsAs (f : IoFailure → ε) : Talk ε α → Prop
  | .done _ => True
  | .send _ failed next => failed = f ∧ next.FailsAs f
  | .receive _ failed next => failed = f ∧ ∀ chunk, (next chunk).FailsAs f
  | .receiveByte failed next => failed = f ∧ ∀ b, (next b).FailsAs f

/-- A composed talk keeps the way in which its parts fail. -/
theorem bind_failsAs {f : IoFailure → ε} {t : Talk ε α} {g : α → Talk ε β} (ht : t.FailsAs f)
    (hg : ∀ x, (g x).FailsAs f) : (t.bind g).FailsAs f := by
  induction t with
  | done r =>
    cases r with
    | error e => trivial
    | ok x => exact hg x
  | send bytes failed next ih => exact ⟨ht.1, ih ht.2⟩
  | receive count failed next ih => exact ⟨ht.1, fun chunk => ih chunk (ht.2 chunk)⟩
  | receiveByte failed next ih => exact ⟨ht.1, fun b => ih b (ht.2 b)⟩

end Talk

end BrokerRelay
