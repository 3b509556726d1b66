import BrokerRelay.Proofs.Dial.Exchange
/-!
# What a transcript shows

`Talk.Speaks t heard said message` states that the talk, once it has heard exactly `heard` and said
exactly `said`, says `message` next. It is about the talk alone, and is composed along `bind` as the
exchanges are.

`Talk.speaks_of_passages` ties it to runs. Each write in a transcript, whatever the peer does, is the
start of what the talk says there: after the bytes that stand read and written before it. So a law
about the messages of a talk and the bytes heard before them holds at every point of every run.
`Talk.written_prefix_of_run` says the same of all that a run has written.
-/

namespace BrokerRelay

/-! ## §1 Parts of a transcript -/

namespace Passage

/-- The bytes that passages wrote, in order. -/
def allWritten (ps : List Passage) : Bytes := ps.flatMap Passage.written

/-- How many bytes passages read. -/
def allConsumed (ps : List Passage) : Nat := ps.foldr (fun p n => p.consumed + n) 0

@[simp]
theorem allWritten_nil : allWritten [] = [] := rfl

@[simp]
theorem allWritten_cons (p : Passage) (ps : List Passage) :
    allWritten (p :: ps) = p.written ++ allWritten ps := List.flatMap_cons

@[simp]
theorem allConsumed_nil : allConsumed [] = 0 := rfl

@[simp]
theorem allConsumed_cons (p : Passage) (ps : List Passage) :
    allConsumed (p :: ps) = p.consumed + allConsumed ps := rfl

/-- Splits a transcript that starts with a passage at a write: either the passage is that write, or
it stands before it and the rest is split there. -/
theorem before_eq_append {p : Passage} {ps pre post : List Passage} {bytes : Bytes}
    (h : p.before ps = pre ++ .wrote bytes :: post) :
    (pre = [] ∧ p = .wrote bytes) ∨
      ∃ pre', ps = pre' ++ .wrote bytes :: post ∧ allWritten pre = p.written ++ allWritten pre' ∧
        allConsumed pre = p.consumed + allConsumed pre' := by
  unfold Passage.before at h
  split at h
  · exact .inr ⟨pre, h, rfl, (Nat.zero_add _).symm⟩
  · exact .inr ⟨pre, h, rfl, (Nat.zero_add _).symm⟩
  · -- two reads that became one
    rename_i n m ps _
    cases pre with
    | nil => simp at h
    | cons q pre =>
      obtain ⟨rfl, rfl⟩ := List.cons_eq_cons.mp h
      exact .inr ⟨.read m :: pre, rfl, rfl, Nat.add_assoc ..⟩
  · cases pre with
    | nil =>
      obtain ⟨rfl, -⟩ := List.cons_eq_cons.mp h
      exact .inl ⟨rfl, rfl⟩
    | cons q pre =>
      obtain ⟨rfl, rfl⟩ := List.cons_eq_cons.mp h
      exact .inr ⟨pre, rfl, rfl, rfl⟩

/-- A transcript has written nothing, or it has a last write. -/
theorem allWritten_eq_nil_or (ps : List Passage) :
    allWritten ps = [] ∨ ∃ pre bytes post, ps = pre ++ .wrote bytes :: post ∧
      allWritten ps = allWritten pre ++ bytes := by
  induction ps with
  | nil => exact .inl rfl
  | cons p ps ih =>
    rcases ih with hnil | ⟨pre, bytes, post, rfl, hw⟩
    · cases p with
      | read n => exact .inl hnil
      | wrote bytes => exact .inr ⟨[], bytes, ps, rfl, by simp [hnil, Passage.written]⟩
    · refine .inr ⟨p :: pre, bytes, post, rfl, ?_⟩
      rw [allWritten_cons, hw, allWritten_cons, List.append_assoc]

end Passage

namespace Talk

variable {ε α β : Type}

/-! ## §2 What a talk says next -/

/-- Once it has heard exactly `heard` and said exactly `said`, the talk says `message`. -/
inductive Speaks : Talk ε α → Bytes → Bytes → Bytes → Prop
  | here {bytes : Bytes} {failed : IoFailure → ε} {next : Talk ε α} :
      Speaks (.send bytes failed next) [] [] bytes
  | send {bytes : Bytes} {failed : IoFailure → ε} {next : Talk ε α} {heard said message : Bytes} :
      Speaks next heard said message → Speaks (.send bytes failed next) heard (bytes ++ said) message
  | receive {failed : IoFailure → ε} {next : Bytes → Talk ε α} {chunk heard said message : Bytes} :
      Speaks (next chunk) heard said message →
      Speaks (.receive chunk.length failed next) (chunk ++ heard) said message
  | receiveByte {failed : IoFailure → ε} {next : UInt8 → Talk ε α} {b : UInt8}
      {heard said message : Bytes} : Speaks (next b) heard said message →
      Speaks (.receiveByte failed next) (b :: heard) said message

@[simp]
theorem not_speaks_done {r : Except ε α} {heard said message : Bytes} :
    ¬ (Talk.done r).Speaks heard said message := by
  rintro ⟨⟩

@[simp]
theorem speaks_send_iff {bytes : Bytes} {failed : IoFailure → ε} {next : Talk ε α}
    {heard said message : Bytes} :
    (Talk.send bytes failed next).Speaks heard said message ↔
      (heard = [] ∧ said = [] ∧ message = bytes) ∨
        ∃ more, said = bytes ++ more ∧ next.Speaks heard more message := by
  constructor
  · rintro (_ | h)
    · exact .inl ⟨rfl, rfl, rfl⟩
    · exact .inr ⟨_, rfl, h⟩
  · rintro (⟨rfl, rfl, rfl⟩ | ⟨more, rfl, h⟩)
    · exact .here
    · exact .send h

@[simp]
theorem speaks_receive_iff {count : Nat} {failed : IoFailure → ε} {next : Bytes → Talk ε α}
    {heard said message : Bytes} :
    (Talk.receive count failed next).Speaks heard said message ↔
      ∃ chunk more, heard = chunk ++ more ∧ chunk.length = count ∧
        (next chunk).Speaks more said message := by
  constructor
  · intro h
    cases h with
    | receive h => exact ⟨_, _, rfl, rfl, h⟩
  · rintro ⟨chunk, more, rfl, rfl, h⟩
    exact .receive h

@[simp]
theorem speaks_receiveByte_iff {failed : IoFailure → ε} {next : UInt8 → Talk ε α}
    {heard said message : Bytes} :
    (Talk.receiveByte failed next).Speaks heard said message ↔
      ∃ b more, heard = b :: more ∧ (next b).Speaks more said message := by
  constructor
  · intro h
    cases h with
    | receiveByte h => exact ⟨_, _, rfl, h⟩
  · rintro ⟨b, more, rfl, h⟩
    exact .receiveByte h

/-- A composed talk says what its first part says, and after an exchange of that part which ends well
what the rest says. -/
theorem bind_speaks_iff {t : Talk ε α} {f : α → Talk ε β} {heard said message : Bytes} :
    (t.bind f).Speaks heard said message ↔
      t.Speaks heard said message ∨
        ∃ x heard₁ said₁ heard₂ said₂, t.Ends heard₁ said₁ (.ok x) ∧
          (f x).Speaks heard₂ said₂ message ∧
          heard = heard₁ ++ heard₂ ∧ said = said₁ ++ said₂ := by
  induction t generalizing heard said with
  | done r =>
    cases r with
    | error e => simp [Talk.bind]
    | ok x => simp [Talk.bind]
  | send bytes failed next ih =>
    simp only [Talk.bind, speaks_send_iff, ends_send_iff, ih]
    constructor
    · rintro (h | ⟨more, rfl, h | ⟨x, h₁, s₁, h₂, s₂, hx, hf, rfl, rfl⟩⟩)
      · exact .inl (.inl h)
      · exact .inl (.inr ⟨more, rfl, h⟩)
      · exact .inr ⟨x, h₁, bytes ++ s₁, h₂, s₂, ⟨s₁, rfl, hx⟩, hf, rfl,
          (List.append_assoc ..).symm⟩
    · rintro ((h | ⟨more, rfl, h⟩) | ⟨x, h₁, _, h₂, s₂, ⟨s₁, rfl, hx⟩, hf, rfl, rfl⟩)
      · exact .inl h
      · exact .inr ⟨more, rfl, .inl h⟩
      · exact .inr ⟨s₁ ++ s₂, List.append_assoc ..,
          .inr ⟨x, h₁, s₁, h₂, s₂, hx, hf, rfl, rfl⟩⟩
  | receive count failed next ih =>
    simp only [Talk.bind, speaks_receive_iff, ends_receive_iff, ih]
    constructor
    · rintro ⟨chunk, more, rfl, hlen, h | ⟨x, h₁, s₁, h₂, s₂, hx, hf, rfl, rfl⟩⟩
      · exact .inl ⟨chunk, more, rfl, hlen, h⟩
      · exact .inr ⟨x, chunk ++ h₁, s₁, h₂, s₂, ⟨chunk, h₁, rfl, hlen, hx⟩, hf,
          (List.append_assoc ..).symm, rfl⟩
    · rintro (⟨chunk, more, rfl, hlen, h⟩ |
        ⟨x, _, s₁, h₂, s₂, ⟨chunk, h₁, rfl, hlen, hx⟩, hf, rfl, rfl⟩)
      · exact ⟨chunk, more, rfl, hlen, .inl h⟩
      · exact ⟨chunk, h₁ ++ h₂, List.append_assoc .., hlen,
          .inr ⟨x, h₁, s₁, h₂, s₂, hx, hf, rfl, rfl⟩⟩
  | receiveByte failed next ih =>
    simp only [Talk.bind, speaks_receiveByte_iff, ends_receiveByte_iff, ih]
    constructor
    · rintro ⟨b, more, rfl, h | ⟨x, h₁, s₁, h₂, s₂, hx, hf, rfl, rfl⟩⟩
      · exact .inl ⟨b, more, rfl, h⟩
      · exact .inr ⟨x, b :: h₁, s₁, h₂, s₂, ⟨b, h₁, rfl, hx⟩, hf, rfl, rfl⟩
    · rintro (⟨b, more, rfl, h⟩ | ⟨x, _, s₁, h₂, s₂, ⟨b, h₁, rfl, hx⟩, hf, rfl, rfl⟩)
      · exact ⟨b, more, rfl, .inl h⟩
      · exact ⟨b, h₁ ++ h₂, rfl, .inr ⟨x, h₁, s₁, h₂, s₂, hx, hf, rfl, rfl⟩⟩

/-! ## §3 Transcripts of runs -/

/-- **Each write in a transcript is the start of what the talk says there**, after the bytes that were
read and written before it, also against a peer that stops accepting bytes. -/
theorem speaks_of_passages {t : Talk ε α} {p : Peer} {pre post : List Passage} {bytes : Bytes}
    (h : (t.run p).passages = pre ++ .wrote bytes :: post) :
    ∃ message, t.Speaks (p.said.take (Passage.allConsumed pre)) (Passage.allWritten pre) message ∧
      bytes <+: message := by
  induction t generalizing p pre with
  | done r => simp [Talk.run] at h
  | send message failed next ih =>
    by_cases hall : p.accepts message = message.length
    · simp only [Talk.run, hall, if_true] at h
      rcases Passage.before_eq_append h with ⟨rfl, hwrote⟩ | ⟨pre', hpre, hw, hc⟩
      · obtain rfl := Passage.wrote.inj hwrote
        exact ⟨message, by simp, List.prefix_rfl⟩
      · obtain ⟨m, hspeaks, hprefix⟩ := ih hpre
        refine ⟨m, ?_, hprefix⟩
        rw [hw, hc, Passage.consumed, Nat.zero_add]
        exact .send hspeaks
    · simp only [Talk.run, hall, if_false] at h
      rcases Passage.before_eq_append h with ⟨rfl, hwrote⟩ | ⟨pre', hpre, -, -⟩
      · obtain rfl := Passage.wrote.inj hwrote
        exact ⟨message, by simp, List.take_prefix ..⟩
      · simp at hpre
  | receive count failed next ih =>
    by_cases hle : count ≤ p.said.length
    · simp only [Talk.run, hle, if_true] at h
      rcases Passage.before_eq_append h with ⟨-, hread⟩ | ⟨pre', hpre, hw, hc⟩
      · cases hread
      · obtain ⟨m, hspeaks, hprefix⟩ := ih _ hpre
        refine ⟨m, ?_, hprefix⟩
        rw [hw, hc, Passage.consumed, List.take_add]
        exact speaks_receive_iff.mpr ⟨_, _, rfl, List.length_take_of_le hle, hspeaks⟩
    · simp only [Talk.run, hle, if_false] at h
      rcases Passage.before_eq_append h with ⟨-, hread⟩ | ⟨pre', hpre, -, -⟩
      · cases hread
      · simp at hpre
  | receiveByte failed next ih =>
    cases hsaid : p.said with
    | nil => simp [Talk.run, hsaid] at h
    | cons b rest =>
      simp only [Talk.run, hsaid] at h
      rcases Passage.before_eq_append h with ⟨-, hread⟩ | ⟨pre', hpre, hw, hc⟩
      · cases hread
      · obtain ⟨m, hspeaks, hprefix⟩ := ih _ hpre
        refine ⟨m, ?_, hprefix⟩
        rw [hw, hc, Passage.consumed, Nat.add_comm, List.take_succ_cons]
        exact .receiveByte hspeaks

/-- All that a run has written is nothing, or ends with the start of a message that the talk says after
bytes that the peer has said. -/
theorem written_prefix_of_run (t : Talk ε α) (p : Peer) :
    (t.run p).written = [] ∨
      ∃ heard said message, t.Speaks heard said message ∧ heard <+: p.said ∧
        (t.run p).written <+: said ++ message := by
  rcases Passage.allWritten_eq_nil_or (t.run p).passages with hnil | ⟨pre, bytes, post, hpassages, hw⟩
  · exact .inl hnil
  · obtain ⟨message, hspeaks, hprefix⟩ := speaks_of_passages hpassages
    refine .inr ⟨_, _, message, hspeaks, List.take_prefix .., ?_⟩
    rw [show (t.run p).written = Passage.allWritten pre ++ bytes from hw]
    exact (List.prefix_append_right_inj _).mpr hprefix

/-! ## §4 Runs that agree -/

/-- Two talks that send the same and agree afterwards, against peers with the same bytes to say, have
the same run. -/
theorem run_send_congr {bytes : Bytes} {failed : IoFailure → ε} {next₁ next₂ : Talk ε α} {p : Peer}
    (h : ∀ q : Peer, q.said = p.said → next₁.run q = next₂.run q) :
    (Talk.send bytes failed next₁).run p = (Talk.send bytes failed next₂).run p := by
  simp only [Talk.run, h (p.after (p.accepts bytes)) rfl]

/-- Two talks that wait for the same and go on alike with what the peer says have the same run. -/
theorem run_receive_congr {count : Nat} {failed : IoFailure → ε} {next₁ next₂ : Bytes → Talk ε α}
    {p : Peer} (h : ∀ chunk, chunk.length = count → chunk <+: p.said → next₁ chunk = next₂ chunk) :
    (Talk.receive count failed next₁).run p = (Talk.receive count failed next₂).run p := by
  by_cases hle : count ≤ p.said.length
  · simp only [Talk.run, hle, if_true, h _ (List.length_take_of_le hle) (List.take_prefix ..)]
  · simp only [Talk.run, hle, if_false]

end Talk

end BrokerRelay
