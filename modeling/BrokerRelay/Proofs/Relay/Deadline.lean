import BrokerRelay.Proofs.Relay.Startup
import BrokerRelay.Proofs.Tls.Agreement
import BrokerRelay.Relay.Handler
/-!
# Deadlines of zero

A configuration sets a deadline for each of three handshakes: with a client, with the broker, and with a
forward proxy. `acceptSecured_endsAt_iff`, `Chain.dial_endsAt_iff_of_zero` and
`Tunnel.negotiate_endsAt_iff` say when each of these stages ends, and with what.

A deadline of zero does not mean the same in all three (`zero_deadlines`). Towards clients and towards the
broker it is none, and the stage ends when the other side has completed the handshake, however long that
takes. Towards a forward proxy it expires at once, so only a negotiation that does not wait for the proxy
at all comes to its own end.
-/

namespace BrokerRelay

open Dial Dial.Activity

/-! ## §1 Stages under a deadline -/

namespace Relay

variable {α : Type} {timeout : Duration} {client : String} {handshake : Activity (Except String α)}
  {time : Nat} {r : Except RelayFailure α}

/-- The handshake with a client ends with what it came to, or its deadline, which is not zero, expires. -/
theorem acceptSecured_endsAt_iff : (acceptSecured timeout client handshake).EndsAt time r ↔
    (∃ answer, handshake.EndsAt time answer ∧
      (timeout.isZero = false → time ≤ timeout.toNanos) ∧ r = answer.mapError (.tlsAccept client)) ∨
    timeout.isZero = false ∧ time = timeout.toNanos ∧ handshake.PendingAt time ∧
      r = .error (.tlsAccept client ("timed out after " ++ timeout.text)) := by
  unfold acceptSecured
  cases hzero : timeout.isZero with
  | true => simp [endsAt_map_iff]
  | false =>
    simp only [Bool.false_eq_true, if_false, endsAt_map_iff, true_and, forall_const]
    constructor
    · rintro ⟨ended, hended, rfl⟩
      cases ended with
      | none =>
        obtain ⟨rfl, hpending⟩ := endsAt_within_none_iff.1 hended
        exact .inr ⟨rfl, hpending, rfl⟩
      | some answer =>
        obtain ⟨hanswer, hle⟩ := endsAt_within_some_iff.1 hended
        exact .inl ⟨answer, hanswer, hle, rfl⟩
    · rintro (⟨answer, hanswer, hle, rfl⟩ | ⟨rfl, hpending, rfl⟩)
      · exact ⟨some answer, endsAt_within_some_iff.2 ⟨hanswer, hle⟩, rfl⟩
      · exact ⟨none, endsAt_within_none_iff.2 ⟨rfl, hpending⟩, rfl⟩

end Relay

namespace Dial

variable {time : Nat}

/-- Without a TLS deadline a dial ends when the connection below fails, or when the handshake over it has
come to an end. -/
theorem Chain.dial_endsAt_iff_of_zero {c : Chain} {net : Network} {network address : String}
    {tls : Tls.ClientSettings} (htls : c.tls = some tls) (hzero : tls.handshakeTimeout.isZero = true)
    {name : List Char} (hname : Chain.serverName address = .ok name)
    {r : Except DialFailure DialedStream} :
    (c.dial net network address).EndsAt time r ↔
      (∃ e, (c.connect net network address).EndsAt time (.error e) ∧ r = .error e) ∨
      ∃ start route took answer, (c.connect net network address).EndsAt start (.ok route) ∧
        net.secure tls name route = some (took, answer) ∧ time = start + took ∧
        r = (answer.map fun session => ⟨route, some session⟩).mapError (.tlsHandshakeFailed address) := by
  unfold Chain.dial Chain.dialSecured
  simp only [htls, hname, hzero, if_true]
  unfold Activity.andThen
  rw [endsAt_bind_iff]
  constructor
  · rintro ⟨start, below, took, hbelow, hends, rfl⟩
    cases below with
    | error e =>
      obtain ⟨rfl, rfl⟩ := endsAt_now_iff.1 hends
      exact .inl ⟨e, hbelow, rfl⟩
    | ok route =>
      obtain ⟨answer, hanswer, rfl⟩ := endsAt_map_iff.1 hends
      refine .inr ⟨start, route, took, answer, hbelow, hanswer, rfl, ?_⟩
      cases answer <;> rfl
  · rintro (⟨e, hbelow, rfl⟩ | ⟨start, route, took, answer, hbelow, hanswer, rfl, rfl⟩)
    · exact ⟨time, _, 0, hbelow, endsAt_now_iff.2 ⟨rfl, rfl⟩, rfl⟩
    · refine ⟨start, _, took, hbelow, endsAt_map_iff.2 ⟨answer, hanswer, ?_⟩, rfl⟩
      cases answer <;> rfl

end Dial

/-! ## §2 Deadlines of a configuration -/

namespace Relay.Server

variable {storage : Storage} {env : Environment} {s : Config.Settings} {server : Server}

/-- A server keeps its configuration, and has TLS towards clients where that says so. -/
theorem tls_of_build (h : (Server.build storage env s).outcome.1 = .ok server) :
    server.settings = s ∧ server.tls.isSome = s.listen.tls.isSome := by
  rw [Logged.outcome_fst, build, Logged.value_mapFailure, mapError_eq_ok_iff] at h
  simp only [Logged.value_bind_eq_ok_iff, Logged.value_pure, Except.ok.injEq] at h
  obtain ⟨tls, htls, chain, -, rfl⟩ := h
  refine ⟨rfl, ?_⟩
  cases hlisten : s.listen.tls with
  | none =>
    rw [hlisten] at htls
    obtain rfl := Except.ok.inj htls
    rfl
  | some t =>
    rw [hlisten] at htls
    obtain ⟨settings, -, rfl⟩ := Logged.value_map_eq_ok_iff.1 htls
    rfl

/-- **A deadline of zero bounds nothing, but for the one of a forward proxy, which it bounds at once.** For
every configuration that a server is built from:

* with a zero deadline towards clients, a client is accepted or refused when its side of the handshake has
  come to an end, and as that says;
* with a zero deadline for TLS towards the broker, a dial ends when the connection below has failed or the
  handshake over it has come to an end, and as that says;
* with a zero deadline for a forward proxy, a negotiation with the proxy is over at once: it ends as it
  would without a deadline if it does not have to wait, and else it has timed out. -/
theorem zero_deadlines (h : (Server.build storage env s).outcome.1 = .ok server) :
    (∀ t, s.listen.tls = some t → s.listen.handshakeTimeoutMs = 0 → ∃ tls, server.tls = some tls ∧
      ∀ (a : Arrival) (time : Nat) (r : Except RelayFailure Unit),
        (server.handler.accept a).EndsAt time r ↔
          ∃ answer, a.secure tls = some (time, answer) ∧ r = answer.mapError (.tlsAccept a.client)) ∧
    (∀ t, s.broker.enabledTls = some t → t.handshakeTimeoutMs = 0 → ∃ tls, server.chain.tls = some tls ∧
      ∀ name, Chain.serverName s.broker.address = .ok name →
      ∀ (net : Network) (time : Nat) (r : Except DialFailure DialedStream),
        (server.handler.dial net).EndsAt time r ↔
          (∃ e, (server.chain.connect net "tcp" s.broker.address).EndsAt time (.error e) ∧
            r = .error e) ∨
          ∃ start route took answer,
            (server.chain.connect net "tcp" s.broker.address).EndsAt start (.ok route) ∧
            net.secure tls name route = some (took, answer) ∧ time = start + took ∧
            r = (answer.map fun session => ⟨route, some session⟩).mapError
              (.tlsHandshakeFailed s.broker.address)) ∧
    (∀ p, s.broker.forwardProxy = some p → p.handshakeTimeoutMs = 0 →
      ∃ tunnel, server.chain.tunnel = some tunnel ∧
      ∀ (target : String) (route : Route) (time : Nat) (r : Except DialFailure Route),
        (tunnel.negotiate target route).EndsAt time r ↔ time = 0 ∧
          ((∃ x, (route.run (tunnel.talk target)).EndsAt 0 x ∧ r = x.map Prod.snd) ∨
            (route.run (tunnel.talk target)).PendingAt 0 ∧
              r = .error (.proxyHandshakeFailed p.address "handshake timed out after 0ns"))) := by
  obtain ⟨hsettings, htls⟩ := tls_of_build h
  have hchain := follows_of_build h
  refine ⟨fun t ht hms => ?_, fun t ht hms => ?_, fun p hp hms => ?_⟩
  · obtain ⟨tls, hsome⟩ := Option.isSome_iff_exists.1 (htls.trans (by rw [ht]; rfl))
    have hzero : server.handler.handshakeTimeout.isZero = true := by
      simp [handler, hsettings, Config.Listen.handshakeTimeout, hms, Duration.ofMillis, Duration.isZero]
    refine ⟨tls, hsome, fun a time r => ?_⟩
    have haccept : server.handler.accept a =
        acceptSecured server.handler.handshakeTimeout a.client (.waiting (a.secure tls)) := by
      simp only [Handler.accept, handler, hsome]
    rw [haccept, acceptSecured_endsAt_iff, hzero]
    simp [EndsAt, waiting]
  · obtain ⟨tls, hsome, hdeadline⟩ := hchain.exists_tls ht
    have hzero : tls.handshakeTimeout.isZero = true := by
      simp [hdeadline, Config.ClientTls.handshakeTimeout, hms, Duration.ofMillis, Duration.isZero]
    refine ⟨tls, hsome, fun name hname net time r => ?_⟩
    have hdial : server.handler.dial net = server.chain.dial net "tcp" s.broker.address := by
      simp only [Handler.dial, handler, hsettings]
    rw [hdial]
    exact Chain.dial_endsAt_iff_of_zero hsome hzero hname
  · have htunnel := hchain.tunnel
    rw [hp] at htunnel
    refine ⟨⟨p.protocol, .ofConfig env p⟩, htunnel, fun target route time r => ?_⟩
    have hzero : (ProxyClient.ofConfig env p).handshakeTimeout = Duration.zero := by
      simp [ProxyClient.ofConfig, Config.ForwardProxy.handshakeTimeout, hms, Duration.ofMillis,
        Duration.zero]
    have hfailure : Tunnel.handshakeTimedOut ⟨p.protocol, .ofConfig env p⟩ =
        .proxyHandshakeFailed p.address "handshake timed out after 0ns" := by
      unfold Tunnel.handshakeTimedOut
      rw [hzero]
      rfl
    rw [Tunnel.negotiate_endsAt_iff, hfailure, hzero]
    constructor
    · rintro (⟨x, hx, hle, rfl⟩ | ⟨rfl, hpending, rfl⟩)
      · obtain rfl := Nat.le_zero.1 hle
        exact ⟨rfl, .inl ⟨x, hx, rfl⟩⟩
      · exact ⟨rfl, .inr ⟨hpending, rfl⟩⟩
    · rintro ⟨rfl, ⟨x, hx, rfl⟩ | ⟨hpending, rfl⟩⟩
      · exact .inl ⟨x, hx, Nat.zero_le _, rfl⟩
      · exact .inr ⟨rfl, hpending, rfl⟩

/-! ### A configuration without deadlines -/

/-- A SOCKS5 proxy with a zero deadline. -/
def unhurriedProxy : Config.ForwardProxy :=
  { Config.ForwardProxy.default with
    protocol := .socks5, address := "proxy:1080", handshakeTimeoutMs := 0 }

/-- A relay with TLS on both sides and a proxy between them, all with zero deadlines. -/
def unhurried : Config.Settings :=
  { Config.Settings.default with
    listen := { Config.Listen.default with handshakeTimeoutMs := 0, tls := some Tls.openListener },
    broker := { Config.Broker.default with
      address := "kafka.test:9093",
      tls := some { Config.ClientTls.default with handshakeTimeoutMs := 0 },
      forwardProxy := some unhurriedProxy } }

/-- A connection to a proxy that grants what it is asked for, after the given time. -/
def grantingRoute (delay : Nat) : Route where
  socket := ⟨.v4 127 0 0 1, 1080⟩
  peer := ⟨[5, 0, 5, 0, 0, 1, 127, 0, 0, 1, 35, 133], .closed, none⟩
  arrival n := some (if n = 0 then 0 else delay)

/-- A network in which such a proxy takes no time and a TLS handshake takes an hour. -/
def slowNetwork : Network where
  resolve _ := some (0, .ok [.v4 127 0 0 1])
  connect _ := some (0, .ok (grantingRoute 0))
  prepare _ := .ok ()
  secure _ _ _ := some (3600000000000, .ok ⟨"TLSv1.3", ⟨0x1301⟩⟩)
  bind socket := .ok socket

/-- The way through the proxy. -/
def unhurriedTunnel : Tunnel := ⟨unhurriedProxy.protocol, .ofConfig .empty unhurriedProxy⟩

/-- Without a deadline the tunnel stands when the proxy has granted it. -/
theorem granted_after (delay : Nat) : ∃ left,
    ((grantingRoute delay).run (unhurriedTunnel.talk "kafka.test:9093")).EndsAt delay (.ok ((), left)) :=
  ⟨_, rfl⟩

/-- A client and a broker may take an hour; a proxy may not take a nanosecond. -/
theorem zero_deadlines_unhurried :
    ∃ server, (Server.build Tls.relayFiles.storage .empty unhurried).outcome.1 = .ok server ∧
      (server.handler.accept ⟨"client", fun _ => some (3600000000000, .ok ())⟩).EndsAt
        3600000000000 (.ok ()) ∧
      (∃ stream, (server.handler.dial slowNetwork).EndsAt 3600000000000 (.ok stream)) ∧
      ∃ tunnel, server.chain.tunnel = some tunnel ∧
        (tunnel.negotiate "kafka.test:9093" (grantingRoute 1)).EndsAt 0
          (.error (.proxyHandshakeFailed "proxy:1080" "handshake timed out after 0ns")) := by
  obtain ⟨server, hserver⟩ :
      ∃ server, (Server.build Tls.relayFiles.storage .empty unhurried).outcome.1 = .ok server :=
    exists_built (by decide +kernel)
  obtain ⟨hclient, hbroker, hproxy⟩ := zero_deadlines hserver
  refine ⟨server, hserver, ?_, ?_, ?_⟩
  · obtain ⟨tls, -, haccept⟩ := hclient _ rfl rfl
    exact (haccept _ _ _).2 ⟨.ok (), rfl, rfl⟩
  · obtain ⟨tls, -, hdial⟩ := hbroker { Config.ClientTls.default with handshakeTimeoutMs := 0 } rfl rfl
    have hname : Chain.serverName unhurried.broker.address = .ok "kafka.test".toList := by
      decide +kernel
    obtain ⟨route, hbelow⟩ : ∃ route,
        (server.chain.connect slowNetwork "tcp" unhurried.broker.address).EndsAt 0 (.ok route) := by
      have hfollows := follows_of_build hserver
      unfold Chain.connect
      rw [hfollows.tunnel, hfollows.direct]
      exact ⟨_, rfl⟩
    exact ⟨_, (hdial _ hname slowNetwork _ _).2 (.inr ⟨0, route, _, _, hbelow, rfl, rfl, rfl⟩)⟩
  · obtain ⟨tunnel, htunnel, hnegotiate⟩ := hproxy unhurriedProxy rfl rfl
    obtain rfl : tunnel = unhurriedTunnel :=
      Option.some.inj (htunnel.symm.trans (follows_of_build hserver).tunnel)
    obtain ⟨left, hgranted⟩ := granted_after 1
    exact ⟨_, htunnel, (hnegotiate _ _ _ _).2 ⟨rfl, .inr ⟨hgranted.pendingAt Nat.one_pos, rfl⟩⟩⟩

/-- **A zero deadline of a forward proxy is not the same as none.** The proxy grants the connection after a
tenth of a second, and the negotiation with it has timed out before anything was waited for. -/
theorem zero_deadline_cuts_tunnel :
    (∃ left, ((grantingRoute 100000000).run (unhurriedTunnel.talk "kafka.test:9093")).EndsAt 100000000
      (.ok ((), left))) ∧
    (unhurriedTunnel.negotiate "kafka.test:9093" (grantingRoute 100000000)).EndsAt 0
      (.error (.proxyHandshakeFailed "proxy:1080" "handshake timed out after 0ns")) := by
  obtain ⟨left, hgranted⟩ := granted_after 100000000
  refine ⟨⟨left, hgranted⟩, Tunnel.negotiate_endsAt_iff.2 (.inr ⟨rfl, ?_, rfl⟩)⟩
  exact hgranted.pendingAt (by decide)

end Relay.Server

end BrokerRelay
