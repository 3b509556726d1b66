import BrokerRelay.Failure
/-!
# Talks

A negotiation over a byte stream as data: at each point it sends bytes, waits for a number of bytes
or for a single one, or is done. What the other side does is not part of a talk, so one talk can be
run against any peer, and what holds of every talk holds of every negotiation.

`Talk.run` runs a talk against a peer that has said all it will ever say and may stop accepting
bytes; the transcript shows what was accepted and how much was read.
-/

namespace BrokerRelay

/-- A negotiation that ends in a failure or a value. A failed operation of the stream is handed to
`failed`, which ends the talk. -/
inductive Talk (ε α : Type) where
  | done (result : Except ε α)
  | send (bytes : Bytes) (failed : IoFailure → ε) (next : Talk ε α)
  | receive (count : Nat) (failed : IoFailure → ε) (next : Bytes → Talk ε α)
  | receiveByte (failed : IoFailure → ε) (next : UInt8 → Talk ε α)

namespace Talk

variable {ε α β : Type}

/-- Goes on with the value of a talk. -/
def bind : Talk ε α → (α → Talk ε β) → Talk ε β
  | .done (.ok x), f => f x
  | .done (.error e), _ => .done (.error e)
  | .send bytes failed next, f => .send bytes failed (next.bind f)
  | .receive count failed next, f => .receive count failed fun bs => (next bs).bind f
  | .receiveByte failed next, f => .receiveByte failed fun b => (next b).bind f

instance : Monad (Talk ε) where
  pure x := .done (.ok x)
  bind := bind

/-- Ends with a failure. -/
def fail (e : ε) : Talk ε α := .done (.error e)

/-- Sends bytes. -/
def say (failed : IoFailure → ε) (bytes : Bytes) : Talk ε Unit := .send bytes failed (.done (.ok ()))

/-- Waits for `count` bytes. -/
def hear (failed : IoFailure → ε) (count : Nat) : Talk ε Bytes :=
  .receive count failed fun bs => .done (.ok bs)

/-- Waits for a byte. -/
def hearByte (failed : IoFailure → ε) : Talk ε UInt8 := .receiveByte failed fun b => .done (.ok b)

end Talk

/-! ## Peers and transcripts -/

/-- How the bytes of a peer end: the stream is closed or reset, or a read fails in another way. -/
inductive StreamEnd where
  | closed
  | reset
  | failed (cause : IoFailure)
deriving DecidableEq, Repr

/-- The other side of a stream: the bytes that it has said and that are not read yet, how they end,
and how many bytes it will still accept (`none`: any number). -/
structure Peer where
  said : Bytes
  ending : StreamEnd
  room : Option Nat
deriving DecidableEq, Repr

/-- A part of a transcript: bytes that the peer accepted, or a number of bytes read. -/
inductive Passage where
  | wrote (bytes : Bytes)
  | read (count : Nat)
deriving DecidableEq, Repr

/-- Puts a passage before others. Reads that follow each other are one passage, and nothing read or
accepted is none. -/
def Passage.before : Passage → List Passage → List Passage
  | .read 0, ps => ps
  | .wrote [], ps => ps
  | .read n, .read m :: ps => .read (n + m) :: ps
  | p, ps => p :: ps

/-- What became of a talk: its result, what passed, and the peer it left behind. -/
structure TalkOutcome (ε α : Type) where
  result : Except ε α
  passages : List Passage
  peer : Peer

namespace Peer

/-- The failure of a read that meets the end of the bytes. -/
def endFailure (p : Peer) (single : Bool) : IoFailure :=
  match p.ending with
  | .closed => if single then .unexpectedEof else .earlyEof
  | .reset => .connectionReset
  | .failed cause => cause

/-- How many of the bytes the peer accepts. -/
def accepts (p : Peer) (bytes : Bytes) : Nat :=
  match p.room with
  | none => bytes.length
  | some n => min n bytes.length

/-- The peer after `n` more bytes have been sent to it. -/
def after (p : Peer) (n : Nat) : Peer := { p with room := p.room.map (· - n) }

end Peer

/-- Runs a talk against a peer. A write that the peer does not accept in full fails with `refusal`. -/
def Talk.run {ε α : Type} (t : Talk ε α) (p : Peer) (refusal : IoFailure := .brokenPipe) :
    TalkOutcome ε α :=
  match t with
  | .done r => ⟨r, [], p⟩
  | .send bytes failed next =>
    let n := p.accepts bytes
    if n = bytes.length then
      let o := next.run (p.after n) refusal
      { o with passages := (Passage.wrote bytes).before o.passages }
    else ⟨.error (failed refusal), (Passage.wrote (bytes.take n)).before [], p.after n⟩
  | .receive count failed next =>
    if count ≤ p.said.length then
      let o := (next (p.said.take count)).run { p with said := p.said.drop count } refusal
      { o with passages := (Passage.read count).before o.passages }
    else
      ⟨.error (failed (p.endFailure false)), (Passage.read p.said.length).before [],
        { p with said := [] }⟩
  | .receiveByte failed next =>
    match p.said with
    | b :: rest =>
      let o := (next b).run { p with said := rest } refusal
      { o with passages := (Passage.read 1).before o.passages }
    | [] => ⟨.error (failed (p.endFailure true)), [], p⟩

/-- How many bytes of a peer must have arrived before a talk with it is over; a talk that meets the
end of the bytes waits for the end as well, which counts as one more. -/
def Talk.demand {ε α : Type} : Talk ε α → Peer → Nat
  | .done _, _ => 0
  | .send bytes _ next, p =>
    let n := p.accepts bytes
    if n = bytes.length then next.demand (p.after n) else 0
  | .receive count _ next, p =>
    if count ≤ p.said.length then
      count + (next (p.said.take count)).demand { p with said := p.said.drop count }
    else p.said.length + 1
  | .receiveByte _ next, p =>
    match p.said with
    | b :: rest => 1 + (next b).demand { p with said := rest }
    | [] => 1

end BrokerRelay
