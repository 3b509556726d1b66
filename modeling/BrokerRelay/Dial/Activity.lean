import BrokerRelay.Address.Ip
/-!
# Activities

What an attempt to reach somebody does over time: when it opens a socket to which address, and when it
ends and with what, if ever. Times are nanoseconds from the start. Activities follow each other, and a
deadline cuts one short; one that ends exactly at its deadline still counts.
-/

namespace BrokerRelay.Dial

/-- Where a socket leads. -/
structure SocketAddress where
  ip : IpAddress
  port : UInt16
deriving DecidableEq, Repr

/-- The written form of an address: an IPv6 address stands between brackets. -/
def SocketAddress.text (a : SocketAddress) : String :=
  (if a.ip.isV4 then a.ip.text else "[" ++ a.ip.text ++ "]") ++ s!":{a.port.toNat}"

/-- A value that is there after some time, or never. -/
abbrev Timely (α : Type) := Option (Nat × α)

/-- An activity: the sockets it opens, each with its time, and its end. -/
structure Activity (α : Type) where
  opened : List (Nat × SocketAddress)
  ended : Timely α

namespace Activity

variable {α β : Type}

/-- Something that is there at once. -/
def now (x : α) : Activity α := ⟨[], some (0, x)⟩

/-- Waiting, without a socket being opened. -/
def waiting (x : Timely α) : Activity α := ⟨[], x⟩

/-- Opening a socket at once and waiting for what becomes of it. -/
def opening (address : SocketAddress) (x : Timely α) : Activity α := ⟨[(0, address)], x⟩

/-- Changes the value at the end. -/
def map (f : α → β) (a : Activity α) : Activity β :=
  ⟨a.opened, a.ended.map fun (time, x) => (time, f x)⟩

/-- An activity that starts later. -/
def delayed (time : Nat) (a : Activity α) : Activity α :=
  ⟨a.opened.map fun (t, address) => (time + t, address),
    a.ended.map fun (t, x) => (time + t, x)⟩

/-- An activity and then another one. -/
def bind (a : Activity α) (f : α → Activity β) : Activity β :=
  match a.ended with
  | none => ⟨a.opened, none⟩
  | some (time, x) =>
    let b := (f x).delayed time
    ⟨a.opened ++ b.opened, b.ended⟩

/-- An activity that is given up when a deadline expires: then its value is missing. -/
def within (limit : Nat) (a : Activity α) : Activity (Option α) :=
  let cut : Activity (Option α) := ⟨a.opened.filter (·.1 ≤ limit), some (limit, none)⟩
  match a.ended with
  | some (time, x) => if time ≤ limit then ⟨a.opened, some (time, some x)⟩ else cut
  | none => cut

/-- Goes on with the value of an activity that may fail, and has not. -/
def andThen {ε : Type} (a : Activity (Except ε α)) (f : α → Activity (Except ε β)) :
    Activity (Except ε β) :=
  a.bind fun
    | .ok x => f x
    | .error e => now (.error e)

/-- The addresses that sockets are opened to, in order. -/
def targets (a : Activity α) : List SocketAddress := a.opened.map Prod.snd

/-- The value at the end, if there is one. -/
def value? (a : Activity α) : Option α := a.ended.map Prod.snd

end Activity

end BrokerRelay.Dial
