import BrokerRelay.Proofs.Bytes.Utf8
import BrokerRelay.Proofs.Dial.Socks5.Tunnel
/-!
# What a SOCKS5 proxy reads

The proxy's reading of a client, written from the layouts of RFC 1928 and RFC 1929 and not from the
client: the methods on offer, the login if the proxy chose it, and the request to connect. Main
statement: whatever this side writes in a negotiation that succeeds is read back as what it was asked
to say, to the last byte; and for a destination that cannot be asked for, no request is written.

A reading takes bytes from the front. None of them looks past what it takes (`Settled`), so what the
proxy reads does not depend on what comes later.
-/

namespace BrokerRelay.Dial.Socks5

/-! ## §1 Readings of bytes -/

/-- A reading of a value from the front of a byte string; it leaves the rest. -/
abbrev Reading (α : Type) := StateT Bytes Option α

namespace Reading

/-- The first byte. -/
def byte : Reading UInt8 := fun bs =>
  match bs with
  | [] => none
  | b :: rest => some (b, rest)

/-- The first `n` bytes. -/
def octets (n : Nat) : Reading Bytes := fun bs =>
  if n ≤ bs.length then some (bs.take n, bs.drop n) else none

/-- A byte that is fixed. -/
def expect (b : UInt8) : Reading Unit := do
  let b' ← byte
  guard (b' = b)

/-- A field that starts with its length. -/
def field : Reading Bytes := do
  let n ← byte
  octets n.toNat

/-- A field of at least one byte that starts with its length. -/
def fullField : Reading Bytes := do
  let bs ← field
  guard (bs ≠ [])
  pure bs

/-- A number of two bytes, the more significant one first. -/
def short : Reading UInt16 := do
  let hi ← byte
  let lo ← byte
  pure (UInt16.ofNat (hi.toNat * 256 + lo.toNat))

/-- As many numbers of two bytes. -/
def shorts : Nat → Reading (List UInt16)
  | 0 => pure []
  | n + 1 => do
    let x ← short
    let xs ← shorts n
    pure (x :: xs)

end Reading

/-! ## §2 The layouts -/

/-- Where a client asks to be connected to. -/
inductive Requested where
  | ip (address : IpAddress)
  | domain (name : Bytes)
deriving DecidableEq, Repr

/-- All that a proxy learns from a client. -/
structure Session where
  methods : Bytes
  login : Option (Bytes × Bytes)
  requested : Requested
  port : UInt16
deriving DecidableEq, Repr

namespace Reading

/-- The layout `VER NMETHODS METHODS`. -/
def methods : Reading Bytes := do
  expect 5
  fullField

/-- The layout `VER ULEN UNAME PLEN PASSWD`. -/
def login : Reading (Bytes × Bytes) := do
  expect 1
  let username ← fullField
  let password ← fullField
  pure (username, password)

/-- The layout `ATYP DST.ADDR`. -/
def requested : Reading Requested := do
  let addressType ← byte
  if addressType = 1 then do
    let a ← byte
    let b ← byte
    let c ← byte
    let d ← byte
    pure (.ip (.v4 a b c d))
  else if addressType = 4 then do
    let groups ← shorts 8
    match IpAddress.ofGroups? groups with
    | some ip => pure (.ip ip)
    | none => failure
  else if addressType = 3 then do
    let name ← field
    pure (.domain name)
  else failure

/-- The layout `VER CMD RSV ATYP DST.ADDR DST.PORT`, for the command to connect. -/
def request : Reading (Requested × UInt16) := do
  expect 5
  expect 1
  expect 0
  let target ← requested
  let port ← short
  pure (target, port)

/-- The login, which is only there if the proxy chose the method that asks for it. -/
def loginIfChosen (chosen : UInt8) : Reading (Option (Bytes × Bytes)) :=
  if chosen = 2 then do
    let proof ← login
    pure (some proof)
  else pure none

/-- All that a client writes to a proxy that chose a method. -/
def session (chosen : UInt8) : Reading Session := do
  let offered ← methods
  guard (chosen ∈ offered)
  let proof ← loginIfChosen chosen
  let asked ← request
  pure ⟨offered, proof, asked.1, asked.2⟩

end Reading

/-! ## §3 Readings do not look ahead -/

namespace Reading

variable {α β : Type}

/-- A reading that succeeds does not depend on the bytes that it leaves. -/
def Settled (r : Reading α) : Prop :=
  ∀ (bs : Bytes) (v : α) (rest : Bytes), r.run bs = some (v, rest) →
    ∀ more, r.run (bs ++ more) = some (v, rest ++ more)

theorem settled_pure (v : α) : Settled (pure v) := by
  intro bs v' rest h more
  simp only [StateT.run_pure] at h ⊢
  cases h
  rfl

theorem settled_failure : Settled (failure : Reading α) := by
  intro bs v rest h
  cases h

theorem settled_bind {r : Reading α} {f : α → Reading β} (hr : Settled r)
    (hf : ∀ v, Settled (f v)) : Settled (r >>= f) := by
  intro bs v rest h more
  simp only [StateT.run_bind] at h ⊢
  obtain ⟨⟨u, mid⟩, hu, hv⟩ := Option.bind_eq_some_iff.mp h
  exact Option.bind_eq_some_iff.mpr ⟨(u, mid ++ more), hr bs u mid hu more, hf u mid v rest hv more⟩

theorem settled_guard (p : Prop) [Decidable p] : Settled (guard p) := by
  unfold guard
  split
  · exact settled_pure ()
  · exact settled_failure

theorem settled_byte : Settled byte := by
  intro bs v rest h more
  cases bs with
  | nil => cases h
  | cons b bs =>
    cases h
    rfl

theorem settled_octets (n : Nat) : Settled (octets n) := by
  intro bs v rest h more
  simp only [octets, StateT.run] at h ⊢
  split at h
  · rename_i hle
    cases h
    rw [if_pos (by rw [List.length_append]; omega), List.take_append_of_le_length hle,
      List.drop_append_of_le_length hle]
  · cases h

theorem settled_expect (b : UInt8) : Settled (expect b) :=
  settled_bind settled_byte fun _ => settled_guard _

theorem settled_field : Settled field :=
  settled_bind settled_byte fun _ => settled_octets _

theorem settled_fullField : Settled fullField :=
  settled_bind settled_field fun _ => settled_bind (settled_guard _) fun _ => settled_pure _

theorem settled_short : Settled short :=
  settled_bind settled_byte fun _ => settled_bind settled_byte fun _ => settled_pure _

theorem settled_shorts (n : Nat) : Settled (shorts n) := by
  induction n with
  | zero => exact settled_pure []
  | succ n ih => exact settled_bind settled_short fun _ => settled_bind ih fun _ => settled_pure _

theorem settled_methods : Settled methods :=
  settled_bind (settled_expect 5) fun _ => settled_fullField

theorem settled_login : Settled login :=
  settled_bind (settled_expect 1) fun _ => settled_bind settled_fullField fun _ =>
    settled_bind settled_fullField fun _ => settled_pure _

theorem settled_requested : Settled requested := by
  refine settled_bind settled_byte fun addressType => ?_
  split
  · exact settled_bind settled_byte fun _ => settled_bind settled_byte fun _ =>
      settled_bind settled_byte fun _ => settled_bind settled_byte fun _ => settled_pure _
  split
  · refine settled_bind (settled_shorts 8) fun groups => ?_
    split
    · exact settled_pure _
    · exact settled_failure
  split
  · exact settled_bind settled_field fun _ => settled_pure _
  · exact settled_failure

theorem settled_request : Settled request :=
  settled_bind (settled_expect 5) fun _ => settled_bind (settled_expect 1) fun _ =>
    settled_bind (settled_expect 0) fun _ => settled_bind settled_requested fun _ =>
      settled_bind settled_short fun _ => settled_pure _

theorem settled_loginIfChosen (chosen : UInt8) : Settled (loginIfChosen chosen) := by
  unfold loginIfChosen
  split
  · exact settled_bind settled_login fun _ => settled_pure _
  · exact settled_pure none

theorem settled_session (chosen : UInt8) : Settled (session chosen) :=
  settled_bind settled_methods fun _ => settled_bind (settled_guard _) fun _ =>
    settled_bind (settled_loginIfChosen chosen) fun _ => settled_bind settled_request fun _ =>
      settled_pure _

end Reading

/-! ## §4 Reading back what is written -/

/-- The destination as a proxy must understand it: the address of an IP literal, and else the host's
own bytes as a name. -/
def Requested.ofHost (host : List Char) : Requested :=
  match IpAddress.ofChars? host with
  | some address => .ip address
  | none => .domain (Bytes.encodeChars host)

/-- The methods that a client must offer. -/
def offered (c : ProxyClient) : Bytes :=
  match c.credentials with
  | none => [0]
  | some _ => [0, 2]

namespace Reading

variable {α β : Type}

/-- A reading of a written form: it takes that form off the front of any bytes. -/
def Reads (r : Reading α) (written : Bytes) (v : α) : Prop :=
  ∀ rest, r.run (written ++ rest) = some (v, rest)

theorem reads_pure (v : α) : Reads (pure v) [] v := fun _ => rfl

theorem reads_bind {r : Reading α} {f : α → Reading β} {first second written : Bytes} {v : α}
    {w : β} (hr : Reads r first v) (hf : Reads (f v) second w) (hw : written = first ++ second) :
    Reads (r >>= f) written w := by
  intro rest
  simp only [hw, StateT.run_bind, List.append_assoc, hr (second ++ rest)]
  exact hf rest

theorem reads_guard {p : Prop} [Decidable p] (h : p) : Reads (guard p) [] () := by
  unfold guard
  rw [if_pos h]
  exact reads_pure ()

theorem reads_byte (b : UInt8) : Reads byte [b] b := fun _ => rfl

theorem reads_octets (bs : Bytes) : Reads (octets bs.length) bs bs := by
  intro rest
  simp [octets, StateT.run]

theorem reads_expect (b : UInt8) : Reads (expect b) [b] () :=
  reads_bind (reads_byte b) (reads_guard rfl) rfl

/-- A field that one byte can count is read back. -/
theorem reads_field {bs counted : Bytes} (h : counted? bs = some counted) :
    Reads field counted bs := by
  obtain ⟨hlen, rfl⟩ := counted?_eq_some_iff.mp h
  have hcount : (UInt8.ofNat bs.length).toNat = bs.length := by
    rw [UInt8.toNat_ofNat']
    omega
  have hoctets := reads_octets bs
  rw [← hcount] at hoctets
  exact reads_bind (reads_byte _) hoctets rfl

theorem reads_fullField {bs counted : Bytes} (h : counted? bs = some counted) (hne : bs ≠ []) :
    Reads fullField counted bs :=
  reads_bind (reads_field h) (reads_bind (reads_guard hne) (reads_pure bs) rfl)
    (List.append_nil counted).symm

/-- A number in network order is read back. -/
theorem reads_short (x : UInt16) :
    Reads short [UInt8.ofNat (x.toNat / 256), UInt8.ofNat (x.toNat % 256)] x := by
  have hx : UInt16.ofNat ((UInt8.ofNat (x.toNat / 256)).toNat * 256
      + (UInt8.ofNat (x.toNat % 256)).toNat) = x := by
    have hlt := x.toNat_lt
    rw [UInt8.toNat_ofNat', UInt8.toNat_ofNat', ← UInt16.toNat_inj, UInt16.toNat_ofNat']
    omega
  intro rest
  show some (UInt16.ofNat _, rest) = some (x, rest)
  rw [hx]

theorem reads_shorts (xs : List UInt16) :
    Reads (shorts xs.length)
      (xs.flatMap fun x => [UInt8.ofNat (x.toNat / 256), UInt8.ofNat (x.toNat % 256)]) xs := by
  induction xs with
  | nil => exact reads_pure []
  | cons x xs ih =>
    exact reads_bind (reads_short x)
      (reads_bind ih (reads_pure (x :: xs)) (List.append_nil _).symm) rfl

/-! The parts of what a client writes, each with the reading that gives it back. -/

theorem reads_methods (c : ProxyClient) : Reads methods (greeting c) (offered c) := by
  unfold greeting offered
  cases c.credentials with
  | none =>
    have hcounted : counted? [0] = some [1, 0] := rfl
    exact reads_bind (reads_expect 5) (reads_fullField hcounted (by simp)) rfl
  | some k =>
    have hcounted : counted? [0, 2] = some [2, 0, 2] := rfl
    exact reads_bind (reads_expect 5) (reads_fullField hcounted (by simp)) rfl

/-- The credentials as they are sent. -/
def sentLogin (k : Config.Credentials) : Bytes × Bytes :=
  (Bytes.encodeUtf8 k.username, Bytes.encodeUtf8 k.password)

theorem reads_login {k : Config.Credentials} {request : Bytes}
    (h : passwordRequest? k = some request) : Reads login request (sentLogin k) := by
  obtain ⟨hu, hp, rfl⟩ := passwordRequest?_eq_some_iff.mp h
  have husername := Bytes.encodeUtf8_ne_nil k.username_ne
  have hpassword := Bytes.encodeUtf8_ne_nil k.password_ne
  exact reads_bind (reads_expect 1)
    (reads_bind (reads_fullField (counted?_eq_some_iff.mpr ⟨hu, rfl⟩) husername)
      (reads_bind (reads_fullField (counted?_eq_some_iff.mpr ⟨hp, rfl⟩) hpassword)
        (reads_pure _) (List.append_nil _).symm) rfl) rfl

theorem reads_loginIfChosen {k : Config.Credentials} {request : Bytes}
    (h : passwordRequest? k = some request) :
    Reads (loginIfChosen 2) request (some (sentLogin k)) :=
  reads_bind (reads_login h) (reads_pure _) (List.append_nil request).symm

theorem reads_requested {host : List Char} {field : Bytes} (h : addressField? host = some field) :
    Reads requested field (.ofHost host) := by
  unfold addressField? at h
  unfold Requested.ofHost
  cases hip : IpAddress.ofChars? host with
  | none =>
    simp only [hip, Option.map_eq_some_iff] at h
    obtain ⟨name, hname, rfl⟩ := h
    exact reads_bind (reads_byte 3) (reads_bind (reads_field hname) (reads_pure _)
      (List.append_nil _).symm) rfl
  | some address =>
    simp only [hip, Option.some.injEq] at h
    subst h
    cases address with
    | v4 a b c d =>
      exact reads_bind (reads_byte 1) (reads_bind (reads_byte a) (reads_bind (reads_byte b)
        (reads_bind (reads_byte c) (reads_bind (reads_byte d) (reads_pure _) rfl) rfl) rfl) rfl) rfl
    | v6 groups hsize =>
      have hgroups := reads_shorts groups
      rw [hsize] at hgroups
      have hip : IpAddress.ofGroups? groups = some (.v6 groups hsize) := dif_pos hsize
      have hlast : Reads (match IpAddress.ofGroups? groups with
          | some ip => pure (.ip ip)
          | none => failure : Reading Requested) [] (.ip (.v6 groups hsize)) := by
        rw [hip]
        exact reads_pure _
      exact reads_bind (reads_byte 4) (reads_bind hgroups hlast (List.append_nil _).symm) rfl

theorem reads_request {destination : HostPort} {request : Bytes}
    (h : connectRequest? destination = some request) :
    Reads Reading.request request (.ofHost destination.host, destination.port) := by
  obtain ⟨field, hfield, rfl⟩ := Option.map_eq_some_iff.mp h
  exact reads_bind (reads_expect 5) (reads_bind (reads_expect 1) (reads_bind (reads_expect 0)
    (reads_bind (reads_requested hfield) (reads_bind (reads_short destination.port)
      (reads_pure _) rfl) rfl) rfl) rfl) rfl

/-- What follows a form that was read is read next. -/
theorem run_bind_of_reads {r : Reading α} {f : α → Reading β} {first rest : Bytes} {v : α}
    (hr : Reads r first v) : (r >>= f).run (first ++ rest) = (f v).run rest := by
  simp only [StateT.run_bind, hr rest]
  rfl

theorem run_guard_bind {p : Prop} [Decidable p] {f : Unit → Reading β} {bs : Bytes} :
    (guard p >>= f).run bs = if p then (f ()).run bs else none := by
  unfold guard
  split <;> rfl

/-- The methods, the login that goes with the chosen one, and the request make a session. -/
theorem reads_session {c : ProxyClient} {chosen : UInt8} {said request : Bytes}
    {login : Option (Bytes × Bytes)} {destination : HostPort} (hmem : chosen ∈ offered c)
    (hlogin : Reads (loginIfChosen chosen) said login)
    (hreq : connectRequest? destination = some request) :
    Reads (session chosen) (greeting c ++ (said ++ request))
      ⟨offered c, login, .ofHost destination.host, destination.port⟩ :=
  reads_bind (reads_methods c) (reads_bind (reads_guard hmem) (reads_bind hlogin
    (reads_bind (reads_request hreq) (reads_pure _) (List.append_nil _).symm) rfl) rfl) rfl

end Reading

/-! ## §5 A whole negotiation, read by the proxy -/

/-- All that can be written before the request to connect. -/
def preamble (c : ProxyClient) : Bytes :=
  greeting c ++ (c.credentials.bind passwordRequest?).getD []

theorem authenticate_saysWithin (c : ProxyClient) (k : Config.Credentials) :
    (authenticate c k).SaysWithin ((passwordRequest? k).getD []) := by
  unfold authenticate
  cases passwordRequest? k with
  | none => trivial
  | some request =>
    refine ⟨[], (List.append_nil request).symm, fun answer => ?_⟩
    simp only [Talk.bind]
    split
    · trivial
    split
    · trivial
    · trivial

theorem negotiate_saysWithin (c : ProxyClient) : (negotiate c).SaysWithin (preamble c) := by
  refine ⟨_, rfl, fun choice => ?_⟩
  simp only [Talk.bind]
  split
  · trivial
  split
  · trivial
  split
  · trivial
  cases hk : c.credentials with
  | none => trivial
  | some k =>
    simp only
    split
    · exact authenticate_saysWithin c k
    · trivial

/-- For a destination that cannot be asked for, nothing is written but the preamble or a part of it. -/
theorem written_of_not_askable {c : ProxyClient} {target : String} {destination : HostPort}
    (hsplit : splitTarget target = .ok destination) (hnot : ¬ Askable destination) (p : Peer) :
    ((handshake c target).run p).written <+: preamble c := by
  refine Talk.written_of_saysWithin ?_ p
  have hreq : connectRequest? destination = none := by
    rw [← Option.not_isSome_iff_eq_none, connectRequest?_isSome_iff]
    exact hnot
  unfold handshake
  simp only [hsplit]
  refine Talk.bind_saysWithin (negotiate_saysWithin c) fun _ rest => ?_
  simp only [connect, hreq]
  trivial

/-- No request starts as a login does, or with nothing. -/
theorem request_login (k : Config.Credentials) :
    Reading.request.run ((passwordRequest? k).getD []) = none := by
  cases hreq : passwordRequest? k with
  | none => rfl
  | some login =>
    obtain ⟨-, -, rfl⟩ := passwordRequest?_eq_some_iff.mp hreq
    rfl

/-- The preamble is no session, whatever was chosen. -/
theorem session_preamble (c : ProxyClient) (chosen : UInt8) :
    (Reading.session chosen).run (preamble c) = none := by
  unfold preamble Reading.session
  rw [Reading.run_bind_of_reads (Reading.reads_methods c), Reading.run_guard_bind]
  by_cases hmem : chosen ∈ offered c
  · rw [if_pos hmem]
    unfold offered at hmem
    cases hk : c.credentials with
    | none =>
      rw [hk] at hmem
      obtain rfl := List.mem_singleton.mp hmem
      rfl
    | some k =>
      rw [hk] at hmem
      rw [Option.bind_some]
      have hchosen : chosen = 0 ∨ chosen = 2 := by simpa using hmem
      rcases hchosen with rfl | rfl
      · -- no login is expected, so the login stands where the request should be
        have hskipped : Reading.Reads (Reading.loginIfChosen 0) [] none := Reading.reads_pure none
        rw [← List.nil_append ((passwordRequest? k).getD []), Reading.run_bind_of_reads hskipped,
          StateT.run_bind, request_login]
        rfl
      · cases hreq : passwordRequest? k with
        | none => rfl
        | some login =>
          rw [Option.getD_some, ← List.append_nil login,
            Reading.run_bind_of_reads (Reading.reads_loginIfChosen hreq)]
          rfl
  · rw [if_neg hmem]

/-- A target given by its characters is split as they are. -/
theorem splitTarget_ofList {cs : List Char} {destination : HostPort}
    (h : HostPort.ofChars? cs = some destination) : splitTarget (String.ofList cs) = .ok destination := by
  rw [splitTarget, HostPort.ofString?, String.toList_ofList, h]

/-- **What this side writes is read back as what it was asked to say.** When the negotiation for a
target succeeds, against whatever peer, the proxy that chose the method which its bytes name reads
from what was written, up to the last byte and whatever follows: the methods on offer, the user name
and password exactly when it chose them, and a request for the target's host and port. For a host
that is no IP literal and too long for one byte to count, the negotiation fails, nothing is written
that stands behind the methods and the login, and no request is read from it. -/
theorem session_of_written (c : ProxyClient) (target : String) (destination : HostPort)
    (hsplit : splitTarget target = .ok destination) (p : Peer) :
    (((handshake c target).run p).result = .ok () →
      ∃ chosen rest login, p.said = 5 :: chosen :: rest ∧
        (chosen = 2 → ∃ k, c.credentials = some k ∧
          login = some (Bytes.encodeUtf8 k.username, Bytes.encodeUtf8 k.password)) ∧
        (chosen ≠ 2 → login = none) ∧
        ∀ more, (Reading.session chosen).run (((handshake c target).run p).written ++ more) =
          some (⟨offered c, login, .ofHost destination.host, destination.port⟩, more)) ∧
    (¬ Askable destination → ((handshake c target).run p).result ≠ .ok () ∧
      ((handshake c target).run p).written <+: preamble c ∧
      ∀ chosen, (Reading.session chosen).run ((handshake c target).run p).written = none) := by
  constructor
  · intro hok
    obtain ⟨heard, hends, hsaid, -⟩ := Talk.ends_of_run_ok hok
    obtain ⟨s, said, r, request, hneg, hreq, -, rfl, hwritten⟩ :=
      (handshake_ends_ok_iff hsplit).mp hends
    rw [hwritten]
    rcases negotiate_ends_ok_iff.mp hneg with ⟨rfl, rfl⟩ | ⟨k, login, hk, hlogin, rfl, rfl⟩
    · refine ⟨0, _, none, hsaid, ?_, fun _ => rfl, ?_⟩
      · intro h
        exact absurd h (by decide)
      have hmem : 0 ∈ offered c := by
        unfold offered
        split <;> decide
      have hskipped : Reading.Reads (Reading.loginIfChosen 0) [] none := Reading.reads_pure none
      have hsession := Reading.reads_session hmem hskipped hreq
      rw [List.nil_append] at hsession
      exact hsession
    · refine ⟨2, _, some (Reading.sentLogin k), hsaid, fun _ => ⟨k, hk, rfl⟩, by simp, ?_⟩
      have hmem : 2 ∈ offered c := by
        simp [offered, hk]
      have hsession := Reading.reads_session hmem (Reading.reads_loginIfChosen hlogin) hreq
      rw [← List.append_assoc] at hsession
      exact hsession
  · intro hnot
    have hwithin := written_of_not_askable (c := c) hsplit hnot p
    refine ⟨?_, hwithin, ?_⟩
    · intro hok
      obtain ⟨heard, hends, -⟩ := Talk.ends_of_run_ok hok
      obtain ⟨_, _, _, request, -, hreq, -⟩ := (handshake_ends_ok_iff hsplit).mp hends
      exact hnot (connectRequest?_isSome_iff.mp (by rw [hreq]; rfl))
    · intro chosen
      obtain ⟨more, hmore⟩ := hwithin
      -- a reading of the part would be one of the whole preamble
      cases hread : (Reading.session chosen).run ((handshake c target).run p).written with
      | none => rfl
      | some found =>
        obtain ⟨session, rest⟩ := found
        have hwhole := Reading.settled_session chosen _ _ _ hread more
        rw [hmore, session_preamble] at hwhole
        cases hwhole

/-- A login and an IPv6 destination are read back; a host of 64 characters and 256 bytes is never
asked for. -/
theorem session_of_written_login :
    let c : ProxyClient :=
      ⟨"tcp", "127.0.0.1:1080", some ⟨"user", "pä", by decide, by decide⟩, .ofSecs 10⟩
    let p : Peer := ⟨[5, 2, 1, 0, 5, 0, 0, 1, 127, 0, 0, 1, 4, 56, 22], .closed, none⟩
    let long := String.ofList (List.replicate 64 '😀' ++ [':', '8', '0'])
    splitTarget "[::1]:9092" = .ok ⟨"::1".toList, 9092⟩ ∧
      ((handshake c "[::1]:9092").run p).result = .ok () ∧
      (Reading.session 2).run ((handshake c "[::1]:9092").run p).written =
        some (⟨[0, 2], some ([117, 115, 101, 114], [112, 195, 164]),
          .ip (.v6 [0, 0, 0, 0, 0, 0, 0, 1] rfl), 9092⟩, []) ∧
      splitTarget long = .ok ⟨List.replicate 64 '😀', 80⟩ ∧
      (Reading.session 0).run ((handshake c long).run p).written = none := by
  intro c p long
  have hsplit : splitTarget "[::1]:9092" = .ok ⟨"::1".toList, 9092⟩ := by
    have hparts : HostPort.ofString? "[::1]:9092" = some ⟨"::1".toList, 9092⟩ := by decide +kernel
    simp only [splitTarget, hparts]
  have haskable : Askable ⟨"::1".toList, 9092⟩ := .inr (by decide)
  have hadmission : Admission c [5, 2, 1, 0] := .login rfl (by decide) (by decide)
  obtain ⟨said, hends⟩ := (handshake_passes_iff hsplit haskable).mpr
    ⟨_, _, hadmission, .ipv4 0 (show [127, 0, 0, 1, 4, 56].length = 6 from rfl), rfl⟩
  have hok : ((handshake c "[::1]:9092").run p).result = .ok () :=
    (Talk.run_of_ends hends rfl (show p.said = _ ++ [22] from rfl)).1
  obtain ⟨chosen, rest, login, hsaid, hlogin, -, hread⟩ := (session_of_written c _ _ hsplit p).1 hok
  cases hsaid
  obtain ⟨k, hk, rfl⟩ := hlogin rfl
  cases hk
  have hread := hread []
  rw [List.append_nil] at hread
  have hlong : splitTarget long = .ok ⟨List.replicate 64 '😀', 80⟩ :=
    splitTarget_ofList (by decide +kernel)
  have hnot : ¬ Askable ⟨List.replicate 64 '😀', 80⟩ := by
    rintro (hip | hlen)
    · exact absurd hip (by decide +kernel)
    · exact absurd hlen (by decide +kernel)
  exact ⟨hsplit, hok, hread, hlong, ((session_of_written c _ _ hlong p).2 hnot).2.2 0⟩

end BrokerRelay.Dial.Socks5
