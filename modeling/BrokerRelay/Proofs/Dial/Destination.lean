import BrokerRelay.Proofs.Dial.HttpConnect.Authority
import BrokerRelay.Proofs.Dial.Layers
import BrokerRelay.Proofs.Dial.Socks5.Disclosure
/-!
# Which destination a dial names

The same address leads to the broker in three ways: it is resolved here, it is asked for over SOCKS5, or
it is asked for over HTTP. Each way is characterised by what an outsider sees of it: the only name and
the only socket that must answer for the dial to succeed, the request that a SOCKS5 proxy reads, the
request-target that an HTTP proxy reads.

The first two take the address apart alike, but an empty host is this machine only where it is resolved
(`Direct.names_iff`, `Socks5.names_iff`). An HTTP proxy is sent the address as it is written, so it
finds the destination exactly if the address is an authority already (`HttpConnect.names_iff`).
-/

namespace BrokerRelay.Dial

open Activity

variable {address : String} {target : HostPort} {d : Destination}

/-! ## §1 Naming a destination to the network -/

/-- A network in which only one name resolves, to one address, and only one socket answers. -/
def Network.lone (name : List Char) (socket : SocketAddress) (route : Route) : Network where
  resolve host := some (0, if host = name then .ok [socket.ip] else .error .noListenAddress)
  connect candidate := some (0, if candidate.address = socket then .ok route else .error .refused)
  prepare _ := .ok ()
  secure _ _ _ := none
  bind _ := .error .invalidSocketAddress

namespace Direct

/-- A direct connection names the destination: it stands when nothing answers but the name, with any
address, and this address at the port. -/
def Names (address : String) (d : Destination) : Prop :=
  ∃ name, d.host = .ofHost name ∧ ∀ (dial : Direct) (ip : IpAddress) (route : Route),
    (dial.connect (.lone name ⟨ip, d.port⟩ route) "tcp" address).EndsAt 0 (.ok route)

/-- One candidate that answers at once decides the attempt. -/
theorem tryEach_single {net : Network} {candidate : Candidate} {r : Except IoFailure Route}
    (h : net.connect candidate = some (0, r)) (last : IoFailure) :
    (tryEach net [candidate] last).EndsAt 0 r := by
  rw [tryEach, endsAt_bind_iff]
  refine ⟨0, r, 0, h, ?_, rfl⟩
  cases r with
  | ok route => exact endsAt_now_iff.mpr ⟨rfl, rfl⟩
  | error e => exact endsAt_now_iff.mpr ⟨rfl, rfl⟩

/-- How an attempt ends where only one name and one socket answer. -/
theorem attempt_lone (network : String) (target : HostPort) (name : List Char) (ip : IpAddress)
    (port : UInt16) (route : Route) :
    (attempt (.lone name ⟨ip, port⟩ route) network .any target).EndsAt 0
      (if resolvedHost target.host = name then
        if target.port = port then .ok route else .error .refused
      else .error .noListenAddress) := by
  rw [attempt, andThen, endsAt_bind_iff]
  by_cases hname : resolvedHost target.host = name
  · have hresolve : (Network.lone name ⟨ip, port⟩ route).resolve (resolvedHost target.host) =
        some (0, .ok [ip]) := by
      simp [Network.lone, hname]
    have hconnect : (Network.lone name ⟨ip, port⟩ route).connect ⟨0, ip, target.port⟩ =
        some (0, if target.port = port then .ok route else .error .refused) := by
      simp [Network.lone]
    rw [if_pos hname]
    exact ⟨0, _, 0, hresolve, tryEach_single hconnect _, rfl⟩
  · have hresolve : (Network.lone name ⟨ip, port⟩ route).resolve (resolvedHost target.host) =
        some (0, .error .noListenAddress) := by
      simp [Network.lone, hname]
    rw [if_neg hname]
    exact ⟨0, _, 0, hresolve, endsAt_now_iff.mpr ⟨rfl, rfl⟩, rfl⟩

/-- Only the resolved host and the port of the address need to answer, and both do. -/
theorem connect_lone_iff (hsplit : splitTarget address = .ok target) {name : List Char}
    {port : UInt16} (dial : Direct) (ip : IpAddress) (route : Route) :
    (dial.connect (.lone name ⟨ip, port⟩ route) "tcp" address).EndsAt 0 (.ok route) ↔
      name = resolvedHost target.host ∧ port = target.port := by
  have hfamily : checkNetwork "tcp" = .ok .any := by decide
  have hattempt := attempt_lone "tcp" target name ip port route
  have hwithin := endsAt_within_some_iff.mpr ⟨hattempt, Nat.zero_le dial.connectTimeout.toNanos⟩
  rw [connect_of_checked hfamily hsplit, endsAt_map_iff]
  constructor
  · rintro ⟨r, hr, hok⟩
    obtain ⟨-, rfl⟩ := hr.unique hwithin
    split at hok
    · next hname =>
      split at hok
      · next hport => exact ⟨hname.symm, hport.symm⟩
      · cases hok
    · cases hok
  · rintro ⟨rfl, rfl⟩
    rw [if_pos rfl, if_pos rfl] at hwithin
    exact ⟨_, hwithin, rfl⟩

/-- Resolution names the host of the address, or this machine if there is none. -/
theorem names_iff (hsplit : splitTarget address = .ok target) :
    Names address d ↔ d = ⟨.ofHost (resolvedHost target.host), target.port⟩ := by
  constructor
  · rintro ⟨name, hhost, hconnect⟩
    -- any dial, address and route will tell the name and the port
    have hlone := hconnect ⟨.ofSecs 10, .ofSecs 0⟩ (.v4 127 0 0 1)
      ⟨⟨.v4 127 0 0 1, 0⟩, ⟨[], .closed, none⟩, fun _ => none⟩
    obtain ⟨rfl, hport⟩ := (connect_lone_iff hsplit _ _ _).mp hlone
    rw [← hhost, ← hport]
  · rintro rfl
    exact ⟨_, rfl, fun dial ip route => (connect_lone_iff hsplit dial ip route).mpr ⟨rfl, rfl⟩⟩

end Direct

/-! ## §2 Naming a destination to a SOCKS5 proxy -/

namespace Socks5

/-- A negotiation over SOCKS5 names the destination: once the proxy has let this side in, the next
message is read as a request for it. -/
def Names (address : String) (d : Destination) : Prop :=
  ∀ (c : ProxyClient) (heard said : Bytes), (negotiate c).Ends heard said (.ok ()) →
    ∃ message, (handshake c address).Speaks heard said message ∧
      Reading.request.run message = some ((d.host, d.port), [])

/-- A proxy is asked for the host of the address, if it can be asked for. -/
theorem names_iff (hsplit : splitTarget address = .ok target) (haskable : Askable target) :
    Names address d ↔ d = ⟨.ofHost target.host, target.port⟩ := by
  constructor
  · intro h
    -- a client without credentials is let in at once, so what it says next is the request
    let c : ProxyClient := .make "tcp" "127.0.0.1:1080"
    obtain ⟨message, hspeaks, hread⟩ :=
      h c [5, 0] (greeting c) (negotiate_ends_ok_iff.mpr (.inl ⟨rfl, rfl⟩))
    obtain ⟨target', hsplit', ⟨hheard, -⟩ | ⟨k, hk, -⟩ | ⟨-, hrequest⟩⟩ :=
      handshake_speaks_iff.mp hspeaks
    · cases hheard
    · cases hk
    · cases hsplit.symm.trans hsplit'
      have hown := Reading.reads_request hrequest []
      rw [List.append_nil, hread] at hown
      cases d
      cases hown
      rfl
  · rintro rfl c heard said hends
    obtain ⟨message, hrequest⟩ := Option.isSome_iff_exists.mp (connectRequest?_isSome_iff.mpr haskable)
    have hown := Reading.reads_request hrequest []
    rw [List.append_nil] at hown
    exact ⟨message, handshake_speaks_iff.mpr ⟨target, hsplit, .inr (.inr ⟨hends, hrequest⟩)⟩, hown⟩

end Socks5

/-! ## §3 Naming a destination to an HTTP proxy -/

namespace HttpConnect

/-- A negotiation over HTTP names the destination: what is written is read as one request head, and the
target of the head is an authority that leads there. -/
def Names (address : String) (d : Destination) : Prop :=
  ∀ (c : ProxyClient) (p : Peer), p.room = none →
    ∃ head, RequestHead.ofBytes? ((handshake c address).run p).written = some (head, []) ∧
      Authority.ofBytes? head.target = some d

theorem names_of_authority (h : Authority.ofChars? address.toList = some d) : Names address d := by
  intro c p hroom
  rw [written_handshake c address hroom]
  refine ⟨_, RequestHead.ofBytes?_request (Authority.isWord_of_ofChars? h), ?_⟩
  rwa [Authority.ofBytes?_encodeUtf8]

/-- Some head with a target that leads to the destination is read from the request. -/
theorem exists_head_of_names (h : Names address d) :
    ∃ c head, RequestHead.ofBytes? (request c address) = some (head, []) ∧
      Authority.ofBytes? head.target = some d := by
  let c : ProxyClient := .make "tcp" "127.0.0.1:3128"
  let p : Peer := ⟨[], .closed, none⟩
  obtain ⟨head, hread, htarget⟩ := h c p rfl
  rw [written_handshake c address rfl] at hread
  exact ⟨c, head, hread, htarget⟩

/-- A target without blanks is read whole, so it must be the authority itself. -/
theorem names_iff (hblank : ' ' ∉ address.toList) :
    Names address d ↔ Authority.ofChars? address.toList = some d := by
  refine ⟨fun h => ?_, names_of_authority⟩
  obtain ⟨c, head, hread, htarget⟩ := exists_head_of_names h
  rwa [RequestHead.target_of_ofBytes? hblank hread, Authority.ofBytes?_encodeUtf8] at htarget

/-- No proxy is led to a host with a blank in it. -/
theorem not_hasBlank_of_names (h : Names address d) : ¬Authority.HasBlank d.host := by
  obtain ⟨c, head, -, htarget⟩ := exists_head_of_names h
  obtain ⟨cs, -, hcs⟩ := Option.bind_eq_some_iff.mp htarget
  exact Authority.not_hasBlank_of_ofChars? hcs

end HttpConnect

/-! ## §4 One destination -/

/-- A blank in an address is one of its host. -/
theorem blank_mem_host (hsplit : splitTarget address = .ok target) (hblank : ' ' ∈ address.toList) :
    ' ' ∈ target.host := by
  obtain ⟨host, port, haddress, -, hport, hhost⟩ :=
    HostPort.ofChars?_eq_some_iff.mp (splitTarget_eq_ok_iff.mp hsplit)
  rw [haddress, List.mem_append, List.mem_cons] at hblank
  rw [hhost]
  rcases hblank with hmem | heq | hmem
  · exact HostPort.mem_unbracketed hmem (by decide) (by decide)
  · cases heq
  · rcases HostPort.chars_of_port? hport ' ' hmem with hdigit | hsign
    · cases hdigit
    · cases hsign

/-- An empty host is asked for as an empty name, which is not this machine. -/
theorem ofHost_resolvedHost_iff {host : List Char} :
    Socks5.Requested.ofHost (Direct.resolvedHost host) = .ofHost host ↔ host ≠ [] := by
  unfold Direct.resolvedHost
  cases host with
  | nil => exact iff_of_false (by decide) (by simp)
  | cons c cs => exact iff_of_true rfl (List.cons_ne_nil c cs)

/-- **Three ways to one destination.** For every address that can be dialled, with a host that one byte
can count:

* the name that is resolved and the request to a SOCKS5 proxy name a destination together exactly if
  the host is not empty, and it is the host and the port of the address;
* the request-target that is sent to an HTTP proxy names it too exactly if the address is an authority
  as it is written. -/
theorem same_destination_iff (hsplit : splitTarget address = .ok target)
    (hlength : (Bytes.encodeChars target.host).length ≤ 255) (d : Destination) :
    (Direct.Names address d ∧ Socks5.Names address d ↔
      target.host ≠ [] ∧ d = ⟨.ofHost target.host, target.port⟩) ∧
    (Direct.Names address d ∧ Socks5.Names address d ∧ HttpConnect.Names address d ↔
      target.host ≠ [] ∧ HttpConnect.Authority.ofChars? address.toList = some d) := by
  have htwo : Direct.Names address d ∧ Socks5.Names address d ↔
      target.host ≠ [] ∧ d = ⟨.ofHost target.host, target.port⟩ := by
    rw [Direct.names_iff hsplit, Socks5.names_iff hsplit (.inr hlength), ← ofHost_resolvedHost_iff]
    constructor
    · rintro ⟨rfl, hsame⟩
      exact ⟨congrArg Destination.host hsame, hsame⟩
    · rintro ⟨hhost, rfl⟩
      exact ⟨by rw [hhost], rfl⟩
  refine ⟨htwo, ?_⟩
  rw [← and_assoc, htwo]
  constructor
  · rintro ⟨⟨hne, rfl⟩, hhttp⟩
    refine ⟨hne, (HttpConnect.names_iff fun hblank => ?_).mp hhttp⟩
    -- the proxy would be led to a host with a blank
    exact HttpConnect.not_hasBlank_of_names hhttp
      (HttpConnect.Authority.hasBlank_ofHost_iff.mpr (blank_mem_host hsplit hblank))
  · rintro ⟨hne, hauthority⟩
    obtain ⟨a, ha, rfl⟩ := HttpConnect.Authority.ofChars?_of_authority hauthority
    cases ha.symm.trans (splitTarget_eq_ok_iff.mp hsplit)
    exact ⟨⟨hne, rfl⟩, HttpConnect.names_of_authority hauthority⟩

/-- An IPv6 literal between brackets is one destination in all three ways. -/
theorem same_destination_of_literal :
    let d : Destination := ⟨.ip (.v6 [0, 0, 0, 0, 0, 0, 0, 1] rfl), 9092⟩
    splitTarget "[::1]:9092" = .ok ⟨"::1".toList, 9092⟩ ∧
      (Bytes.encodeChars "::1".toList).length ≤ 255 ∧
      Direct.Names "[::1]:9092" d ∧ Socks5.Names "[::1]:9092" d ∧ HttpConnect.Names "[::1]:9092" d := by
  intro d
  have hsplit : splitTarget "[::1]:9092" = .ok ⟨"::1".toList, 9092⟩ :=
    splitTarget_eq_ok_iff.mpr (by decide +kernel)
  have hlength : (Bytes.encodeChars "::1".toList).length ≤ 255 := by decide
  have hauthority : HttpConnect.Authority.ofChars? "[::1]:9092".toList = some d := by decide +kernel
  exact ⟨hsplit, hlength, (same_destination_iff hsplit hlength d).2.mpr ⟨by decide, hauthority⟩⟩

/-- Neither condition can be left out. An address without a host is this machine where it is resolved
and an empty name for a SOCKS5 proxy; an address with a sign before its port, or with an IPv6 literal
outside brackets, is one destination for these two and none for an HTTP proxy. -/
theorem destinations_differ :
    (splitTarget ":9092" = .ok ⟨[], 9092⟩ ∧
      Direct.Names ":9092" ⟨.domain (Bytes.encodeUtf8 "localhost"), 9092⟩ ∧
      Socks5.Names ":9092" ⟨.domain [], 9092⟩ ∧
      ¬∃ d, Direct.Names ":9092" d ∧ Socks5.Names ":9092" d) ∧
    ∀ address ∈ ["kafka:+9092", "::1:9092"],
      (∃ target, splitTarget address = .ok target ∧
        (Bytes.encodeChars target.host).length ≤ 255 ∧
        Direct.Names address ⟨.ofHost target.host, target.port⟩ ∧
        Socks5.Names address ⟨.ofHost target.host, target.port⟩) ∧
      ¬∃ d, HttpConnect.Names address d := by
  constructor
  · have hsplit : splitTarget ":9092" = .ok ⟨[], 9092⟩ :=
      splitTarget_eq_ok_iff.mpr (by decide +kernel)
    have hsocks {d : Destination} := Socks5.names_iff (d := d) hsplit (.inr (by decide))
    refine ⟨hsplit, (Direct.names_iff hsplit).mpr (by decide), hsocks.mpr (by decide), ?_⟩
    rintro ⟨d, hdirect, hd⟩
    have hsame := ((Direct.names_iff hsplit).mp hdirect).symm.trans (hsocks.mp hd)
    exact absurd hsame (by decide)
  · intro address hmem
    obtain ⟨target, htarget, hne, hlength, hblank, hnone⟩ : ∃ target,
        HostPort.ofString? address = some target ∧ target.host ≠ [] ∧
        (Bytes.encodeChars target.host).length ≤ 255 ∧ ' ' ∉ address.toList ∧
        HttpConnect.Authority.ofChars? address.toList = none := by
      simp only [List.mem_cons, List.not_mem_nil, or_false] at hmem
      rcases hmem with rfl | rfl
      · exact ⟨⟨"kafka".toList, 9092⟩, by decide +kernel, by decide, by decide, by decide,
          by decide +kernel⟩
      · exact ⟨⟨"::1".toList, 9092⟩, by decide +kernel, by decide, by decide, by decide,
          by decide +kernel⟩
    have hsplit := splitTarget_eq_ok_iff.mpr htarget
    have hresolved := ofHost_resolvedHost_iff.mpr hne
    refine ⟨⟨target, hsplit, hlength, (Direct.names_iff hsplit).mpr (by rw [hresolved]),
      (Socks5.names_iff hsplit (.inr hlength)).mpr rfl⟩, ?_⟩
    rintro ⟨d, hd⟩
    cases ((HttpConnect.names_iff hblank).mp hd).symm.trans hnone

end BrokerRelay.Dial
