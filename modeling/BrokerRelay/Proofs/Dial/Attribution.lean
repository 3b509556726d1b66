import BrokerRelay.Proofs.Dial.Layers
import BrokerRelay.Proofs.Log
import Mathlib.Data.List.MinMax
/-!
# Dial failures say which stage failed

A dial goes through stages: it reaches the broker or a proxy, negotiates with the proxy, and secures
the connection. Each stage waits for something outside, under deadlines of its own and under the
deadline that TLS sets over the whole dial. `Busy` says which stage a dial is in, when the stage
started, what it waits for and which deadlines run.

`dial_failures_attributed` states for every chain that can be built what a failure tells: of which
stage it is, and that among several deadlines the first to expire decides.
-/

namespace BrokerRelay.Dial

open Activity

variable {storage : Storage} {env : Environment} {b : Config.Broker} {c : Chain} {net : Network}
  {network address : String}

namespace Chain

/-! ## The chain of a configuration -/

/-- The deadline of built client settings is the configured one. -/
theorem handshakeTimeout_of_build {t : Config.ClientTls} {s : Tls.ClientSettings}
    {log : List LogEvent} (h : (Tls.ClientSettings.build storage env t).value log = .ok s) :
    s.handshakeTimeout = t.handshakeTimeout := by
  simp only [Tls.ClientSettings.build, Logged.value_bind_eq_ok_iff] at h
  obtain ⟨p, -, identity, -, check, -, h⟩ := h
  cases identity with
  | none =>
    obtain rfl := Except.ok.inj h
    rfl
  | some i =>
    simp only [Logged.value_bind_eq_ok_iff, Logged.value_pure, Except.ok.injEq] at h
    obtain ⟨_, -, rfl⟩ := h
    rfl

/-- The chain has the layers and the deadlines of a configuration. -/
structure Follows (c : Chain) (env : Environment) (b : Config.Broker) : Prop where
  direct : c.direct = ⟨b.dialTimeout, b.keepAlive⟩
  tunnel : c.tunnel = b.forwardProxy.map fun p => ⟨p.protocol, .ofConfig env p⟩
  tls : c.tls.map Tls.ClientSettings.handshakeTimeout =
    b.enabledTls.map Config.ClientTls.handshakeTimeout

/-- TLS in the chain is TLS in the configuration, with its deadline. -/
theorem Follows.exists_enabledTls {tls : Tls.ClientSettings} (h : c.Follows env b)
    (htls : c.tls = some tls) :
    ∃ t, b.enabledTls = some t ∧ tls.handshakeTimeout = t.handshakeTimeout := by
  have hdeadlines := h.tls
  rw [htls] at hdeadlines
  obtain ⟨t, ht, heq⟩ := Option.map_eq_some_iff.1 hdeadlines.symm
  exact ⟨t, ht, heq.symm⟩

/-- TLS in the configuration is TLS in the chain, with its deadline. -/
theorem Follows.exists_tls {t : Config.ClientTls} (h : c.Follows env b)
    (ht : b.enabledTls = some t) :
    ∃ tls, c.tls = some tls ∧ tls.handshakeTimeout = t.handshakeTimeout := by
  have hdeadlines := h.tls
  rw [ht] at hdeadlines
  exact Option.map_eq_some_iff.1 hdeadlines

/-- What is built has the layers and the deadlines of the configuration. -/
theorem follows_of_build {log : List LogEvent} (h : (Chain.build storage env b).value log = .ok c) :
    c.Follows env b := by
  simp only [Chain.build, Logged.value_bind_eq_ok_iff] at h
  obtain ⟨tunnel, htunnel, h⟩ := h
  have htunnel : tunnel = b.forwardProxy.map fun p => ⟨p.protocol, .ofConfig env p⟩ := by
    cases hproxy : b.forwardProxy with
    | none =>
      rw [hproxy] at htunnel
      exact (Except.ok.inj htunnel).symm
    | some p =>
      rw [hproxy] at htunnel
      simp only [buildTunnel, Logged.value_bind_eq_ok_iff, Logged.value_pure, Except.ok.injEq]
        at htunnel
      obtain ⟨_, -, rfl⟩ := htunnel
      rfl
  cases htls : b.enabledTls with
  | none =>
    rw [htls] at h
    obtain rfl := Except.ok.inj h
    exact ⟨rfl, htunnel, by rw [htls]; rfl⟩
  | some t =>
    rw [htls] at h
    simp only [Logged.value_bind_eq_ok_iff, Logged.value_map_eq_ok_iff, Logged.value_pure,
      Except.ok.injEq] at h
    obtain ⟨_, ⟨s, hs, rfl⟩, rfl⟩ := h
    refine ⟨rfl, htunnel, ?_⟩
    rw [htls]
    exact congrArg some (handshakeTimeout_of_build hs)

/-! ## The deadline that expires first -/

/-- A stage of a dial: when it started, what it waits for, and the deadlines that run meanwhile, inner
ones first, each with its time and the failure that it causes. -/
structure Stage where
  start : Nat
  work : Activity Unit
  deadlines : List (Nat × DialFailure)

/-- The deadline over a whole dial, which TLS sets; a zero one is none. -/
def overall (c : Chain) (failure : Duration → DialFailure) : List (Nat × DialFailure) :=
  match c.tls with
  | none => []
  | some tls =>
    if tls.handshakeTimeout.isZero then []
    else [(tls.handshakeTimeout.toNanos, failure tls.handshakeTimeout)]

/-- The stages of a dial: reaching the broker or the proxy, negotiating with the proxy, and securing
the connection. -/
inductive Busy (c : Chain) (net : Network) (network address : String) : Stage → Prop
  | reachingBroker {family : Family} {target : HostPort} : c.tunnel = none → c.Starts address →
      checkNetwork network = .ok family → splitTarget address = .ok target →
      Busy c net network address ⟨0, (Direct.attempt net network family target).map fun _ => (),
        (c.direct.connectTimeout.toNanos, .timeout address c.direct.connectTimeout) ::
          c.overall (.timeout address)⟩
  | reachingProxy {t : Tunnel} {family : Family} {target : HostPort} : c.tunnel = some t →
      c.Starts address → t.precheck network address = .ok () →
      checkNetwork t.client.network = .ok family → splitTarget t.client.address = .ok target →
      Busy c net network address
        ⟨0, (Direct.attempt net t.client.network family target).map fun _ => (),
          (c.direct.connectTimeout.toNanos,
            t.unreachable (.timeout t.client.address c.direct.connectTimeout)) ::
          c.overall (t.deadlineExceeded address)⟩
  | negotiating {t : Tunnel} {start : Nat} {route : Route} : c.tunnel = some t →
      c.Starts address → t.precheck network address = .ok () →
      (c.direct.connect net t.client.network t.client.address).EndsAt start (.ok route) →
      Busy c net network address ⟨start, (route.run (t.talk address)).map fun _ => (),
        (start + t.client.handshakeTimeout.toNanos, t.handshakeTimedOut) ::
          c.overall (t.deadlineExceeded address)⟩
  | securing {tls : Tls.ClientSettings} {name : List Char} {start : Nat} {route : Route} :
      c.tls = some tls → serverName address = .ok name →
      (c.connect net network address).EndsAt start (.ok route) →
      Busy c net network address ⟨start, (waiting (net.secure tls name route)).map fun _ => (),
        c.overall fun after => .tlsHandshakeFailed address ("timed out after " ++ after.text)⟩

/-- Of two deadlines the earlier one expires first, and of two that expire together the former. -/
theorem argmin_pair (a b : Nat × DialFailure) :
    [a, b].argmin Prod.fst = some (if b.1 < a.1 then b else a) := by
  rw [List.argmin_cons, List.argmin_singleton]
  exact (apply_ite some (b.1 < a.1) b a).symm

/-- Of an inner deadline and the one over the whole dial, if there is one, the earlier one expires
first, and of two that expire together the inner one. -/
theorem argmin_overall_cases {own first : Nat × DialFailure} {failure : Duration → DialFailure}
    (h : (own :: c.overall failure).argmin Prod.fst = some first) :
    (first = own ∧ ∀ tls, c.tls = some tls → tls.handshakeTimeout.isZero = false →
      own.1 ≤ tls.handshakeTimeout.toNanos) ∨
    ∃ tls, c.tls = some tls ∧ tls.handshakeTimeout.isZero = false ∧
      tls.handshakeTimeout.toNanos < own.1 ∧
      first = (tls.handshakeTimeout.toNanos, failure tls.handshakeTimeout) := by
  unfold overall at h
  cases htls : c.tls with
  | none =>
    simp only [htls, List.argmin_singleton, Option.some.injEq] at h
    exact .inl ⟨h.symm, nofun⟩
  | some tls =>
    cases hzero : tls.handshakeTimeout.isZero with
    | true =>
      simp only [htls, hzero, if_true, List.argmin_singleton, Option.some.injEq] at h
      refine .inl ⟨h.symm, ?_⟩
      rintro _ ⟨⟩ hnonzero
      exact absurd (hzero.symm.trans hnonzero) (by decide)
    | false =>
      simp only [htls, hzero, Bool.false_eq_true, if_false, argmin_pair, Option.some.injEq] at h
      by_cases hlt : tls.handshakeTimeout.toNanos < own.1
      · rw [if_pos hlt] at h
        exact .inr ⟨tls, rfl, hzero, hlt, h.symm⟩
      · rw [if_neg hlt] at h
        refine .inl ⟨h.symm, ?_⟩
        rintro _ ⟨⟩ -
        exact Nat.le_of_not_lt hlt

/-- In a stage below TLS, the earlier of its own deadline and the TLS deadline decides: what has to be
shown is that the layers below TLS fail at their own deadline, and are pending before it. -/
theorem dial_of_first {start time : Nat} {e : DialFailure} {own : Nat × DialFailure}
    {work : Activity Unit} {failure : Duration → DialFailure} (hstarts : c.Starts address)
    (hfirst : (own :: c.overall failure).argmin Prod.fst = some (time, e))
    (hle : start ≤ time) (hpending : work.PendingAt (time - start))
    (hown : work.PendingAt (own.1 - start) →
      (c.connect net network address).EndsAt own.1 (.error own.2))
    (hbefore : ∀ before, start ≤ before → before < own.1 → work.PendingAt (before - start) →
      (c.connect net network address).PendingAt before)
    (hfailure : ∀ after, failure after = c.connectExceeded address after) :
    (c.dial net network address).EndsAt time (.error e) := by
  rcases argmin_overall_cases hfirst with ⟨rfl, hlimit⟩ | ⟨tls, htls, hzero, hlt, heq⟩
  · -- the stage fails at its own deadline, which TLS still allows
    exact dial_of_connect_failure hstarts (hown hpending) hlimit
  · obtain ⟨rfl, rfl⟩ := Prod.mk.inj heq
    rw [hfailure]
    exact dial_exceeded htls hzero hstarts (hbefore _ hle hlt hpending)

/-- **The deadline that expires first decides.** While a stage waits for something, the earliest of
the deadlines that run ends the dial, with its own failure. -/
theorem dial_of_earliest {stage : Stage} {time : Nat} {e : DialFailure}
    (hbusy : c.Busy net network address stage)
    (hfirst : stage.deadlines.argmin Prod.fst = some (time, e)) (hle : stage.start ≤ time)
    (hpending : stage.work.PendingAt (time - stage.start)) :
    (c.dial net network address).EndsAt time (.error e) := by
  cases hbusy with
  | @reachingBroker family target htunnel hstarts hfamily htarget =>
    have hbelow : c.connect net network address = c.direct.connect net network address := by
      simp only [connect, htunnel]
    refine dial_of_first hstarts hfirst hle hpending ?own ?before ?failure
    case own =>
      intro hwork
      rw [hbelow]
      exact Direct.connect_times_out hfamily htarget (pendingAt_map_iff.1 hwork)
    case before =>
      intro before _ hlt hwork
      rw [hbelow]
      exact Direct.connect_pendingAt hfamily htarget (pendingAt_map_iff.1 hwork) hlt
    case failure => simp [connectExceeded, htunnel]
  | @reachingProxy t family target htunnel hstarts hcheck hfamily htarget =>
    have hbelow : c.connect net network address = t.connect c.direct net network address := by
      simp only [connect, htunnel]
    refine dial_of_first hstarts hfirst hle hpending ?own ?before ?failure
    case own =>
      intro hwork
      rw [hbelow]
      apply Tunnel.connect_unreachable hcheck
      exact Direct.connect_times_out hfamily htarget (pendingAt_map_iff.1 hwork)
    case before =>
      intro before _ hlt hwork
      rw [hbelow, Tunnel.pendingAt_connect_iff]
      exact ⟨hcheck, .inl (Direct.connect_pendingAt hfamily htarget (pendingAt_map_iff.1 hwork) hlt)⟩
    case failure => simp [connectExceeded, htunnel]
  | @negotiating t start route htunnel hstarts hcheck hreach =>
    have hbelow : c.connect net network address = t.connect c.direct net network address := by
      simp only [connect, htunnel]
    refine dial_of_first hstarts hfirst hle hpending ?own ?before ?failure
    case own =>
      intro hwork
      rw [hbelow]
      rw [Nat.add_sub_cancel_left] at hwork
      exact Tunnel.connect_times_out hcheck hreach (pendingAt_map_iff.1 hwork)
    case before =>
      intro before hstart hlt hwork
      rw [hbelow, Tunnel.pendingAt_connect_iff]
      refine ⟨hcheck, .inr ⟨start, route, hstart, hreach, ?_, pendingAt_map_iff.1 hwork⟩⟩
      exact Nat.sub_lt_left_of_lt_add hstart hlt
    case failure => simp [connectExceeded, htunnel]
  | @securing tls name start route htls hname hbelow =>
    cases hzero : tls.handshakeTimeout.isZero with
    | true => simp [overall, htls, hzero] at hfirst
    | false =>
      simp only [overall, htls, hzero, Bool.false_eq_true, if_false, List.argmin_singleton,
        Option.some.injEq, Prod.mk.injEq] at hfirst
      obtain ⟨rfl, rfl⟩ := hfirst
      exact dial_handshake_exceeded htls hzero hname hbelow hle (pendingAt_map_iff.1 hpending)

/-! ## Attribution -/

/-- At a time a proxy is being reached or negotiated with, or one of the two has just failed. -/
inductive AtProxy (reach : Activity (Except DialFailure Route)) (talk : Talk DialFailure Unit)
    (time : Nat) : Prop
  | reaching : reach.PendingAt time → AtProxy reach talk time
  | unreached {cause : DialFailure} : reach.EndsAt time (.error cause) → AtProxy reach talk time
  | negotiating {start : Nat} {route : Route} : reach.EndsAt start (.ok route) → start ≤ time →
      (route.run talk).PendingAt (time - start) → AtProxy reach talk time
  | refused {start : Nat} {route : Route} {e : DialFailure} : reach.EndsAt start (.ok route) →
      start ≤ time → (route.run talk).EndsAt (time - start) (.error e) → AtProxy reach talk time

/-- A tunnel that fails as a proxy does was at work at the proxy. -/
theorem atProxy_of_failure {t : Tunnel} {time : Nat} {e : DialFailure}
    (h : (t.connect c.direct net network address).EndsAt time (.error e))
    (hkind : e.isProxyFailure = true) :
    AtProxy (c.direct.connect net t.client.network t.client.address) (t.talk address) time := by
  rcases Tunnel.connect_failure_cases h with
    ⟨-, hcheck⟩ | ⟨cause, hreach, -⟩ |
    ⟨start, route, hreach, ⟨spent, htalk, rfl⟩ | ⟨rfl, -, hwait⟩⟩
  · exact absurd ((Tunnel.precheck_fails hcheck).1.symm.trans hkind) (by decide)
  · exact .unreached hreach
  · refine .refused hreach (Nat.le_add_right ..) (e := e) ?_
    rwa [Nat.add_sub_cancel_left]
  · refine .negotiating hreach (Nat.le_add_right ..) ?_
    rwa [Nat.add_sub_cancel_left]

/-- A tunnel that is pending is at work at the proxy. -/
theorem atProxy_of_pending {t : Tunnel} {time : Nat}
    (h : (t.connect c.direct net network address).PendingAt time) :
    AtProxy (c.direct.connect net t.client.network t.client.address) (t.talk address) time := by
  rcases (Tunnel.pendingAt_connect_iff.1 h).2 with
    hreach | ⟨start, route, hle, hreach, -, hwait⟩
  · exact .reaching hreach
  · exact .negotiating hreach hle hwait

/-- A failure below TLS is one of the proxy only if it arose there. -/
theorem atProxy_of_connect_failure {time : Nat} {e : DialFailure}
    (h : (c.connect net network address).EndsAt time (.error e)) (hkind : e.isProxyFailure = true) :
    ∃ t, c.tunnel = some t ∧
      AtProxy (c.direct.connect net t.client.network t.client.address) (t.talk address) time := by
  unfold connect at h
  cases htunnel : c.tunnel with
  | none =>
    rw [htunnel] at h
    exact absurd ((Direct.connect_fails h).1.symm.trans hkind) (by decide)
  | some t =>
    rw [htunnel] at h
    exact ⟨t, rfl, atProxy_of_failure h hkind⟩

/-- A dial that fails as a proxy does was at work at the proxy when it failed. -/
theorem atProxy_of_dial {time : Nat} {e : DialFailure}
    (h : (c.dial net network address).EndsAt time (.error e)) (hkind : e.isProxyFailure = true) :
    ∃ t, c.tunnel = some t ∧
      AtProxy (c.direct.connect net t.client.network t.client.address) (t.talk address) time := by
  rcases dial_failure_cases h with
    hbelow | ⟨tls, htls, hname | ⟨rfl, rfl, hpending⟩ | ⟨start, route, reason, -, rfl, -⟩⟩
  · exact atProxy_of_connect_failure hbelow hkind
  · obtain rfl := serverName_fails hname
    cases hkind
  · -- the TLS deadline names the proxy only over a tunnel, which was pending then
    unfold connectExceeded at hkind
    unfold connect at hpending
    cases htunnel : c.tunnel with
    | none =>
      rw [htunnel] at hkind
      cases hkind
    | some t =>
      rw [htunnel] at hpending
      exact ⟨t, rfl, atProxy_of_pending hpending⟩
  · cases hkind

/-- The layers below TLS never fail as TLS does. -/
theorem connect_fails {time : Nat} {e : DialFailure}
    (h : (c.connect net network address).EndsAt time (.error e)) :
    ∀ target reason, e ≠ .tlsHandshakeFailed target reason := by
  unfold connect at h
  cases htunnel : c.tunnel with
  | none =>
    rw [htunnel] at h
    exact (Direct.connect_fails h).2
  | some t =>
    rw [htunnel] at h
    exact Tunnel.connect_fails h

/-- A dial that fails as TLS does had a connection to secure. -/
theorem connected_of_dial {time : Nat} {target reason : String}
    (h : (c.dial net network address).EndsAt time (.error (.tlsHandshakeFailed target reason))) :
    (∃ tls, c.tls = some tls) ∧ target = address ∧ ∃ start route, start ≤ time ∧
      (c.connect net network address).EndsAt start (.ok route) := by
  rcases dial_failure_cases h with
    hbelow | ⟨tls, htls, hname | ⟨-, hexceeded, -⟩ | ⟨start, route, reason', hle, he, hbelow⟩⟩
  · exact absurd rfl (connect_fails hbelow target reason)
  · cases serverName_fails hname
  · unfold connectExceeded at hexceeded
    split at hexceeded
    · cases hexceeded
    · cases hexceeded
  · obtain ⟨rfl, -⟩ := DialFailure.tlsHandshakeFailed.inj he
    exact ⟨⟨tls, htls⟩, rfl, start, route, hle, hbelow⟩

/-- **Dial failures are attributed to the stage that failed.** For the chain that is built for a
configuration, on every network and for every address:

* it has the layers and the deadlines of the configuration;
* a failure of the kind of a proxy comes out only if a proxy is configured, and at the time of the
  failure the dial was reaching it or negotiating with it, or had just failed to;
* a failure of TLS comes out only if TLS is on, and after the layers below had connected;
* a failure of the layers below comes out unchanged if it is there by the TLS deadline; they do not
  start only if TLS is on and could not check the address, which is then refused at once;
* when the TLS deadline expires while the layers below are pending, a direct chain times out with the
  address and that deadline, and one with a tunnel fails in the negotiation with the configured proxy;
* of the deadlines that run in a stage the one that expires first decides. -/
theorem dial_failures_attributed (hbuild : (Chain.build storage env b).outcome.1 = .ok c)
    (net : Network) (network address : String) :
    c.Follows env b ∧
    (∀ time e, (c.dial net network address).EndsAt time (.error e) → e.isProxyFailure = true →
      ∃ p, b.forwardProxy = some p ∧
        AtProxy (Direct.connect ⟨b.dialTimeout, b.keepAlive⟩ net p.network p.address)
          (Tunnel.talk ⟨p.protocol, .ofConfig env p⟩ address) time) ∧
    (∀ time target reason,
      (c.dial net network address).EndsAt time (.error (.tlsHandshakeFailed target reason)) →
        (∃ t, b.enabledTls = some t) ∧ target = address ∧ ∃ start route, start ≤ time ∧
          (c.connect net network address).EndsAt start (.ok route)) ∧
    (∀ time e, c.Starts address → (c.connect net network address).EndsAt time (.error e) →
      (∀ t, b.enabledTls = some t → t.handshakeTimeout.isZero = false →
        time ≤ t.handshakeTimeout.toNanos) →
      (c.dial net network address).EndsAt time (.error e)) ∧
    (¬c.Starts address → c.dial net network address = now (.error (.invalidAddress address))) ∧
    (∀ t, b.enabledTls = some t → t.handshakeTimeout.isZero = false → c.Starts address →
      (c.connect net network address).PendingAt t.handshakeTimeout.toNanos →
      ∃ e, (c.dial net network address).EndsAt t.handshakeTimeout.toNanos (.error e) ∧
        (b.forwardProxy = none → e = .timeout address t.handshakeTimeout) ∧
        ∀ p, b.forwardProxy = some p → ∃ reason, e = .proxyHandshakeFailed p.address reason) ∧
    (∀ stage time e, c.Busy net network address stage →
      stage.deadlines.argmin Prod.fst = some (time, e) → stage.start ≤ time →
      stage.work.PendingAt (time - stage.start) →
      (c.dial net network address).EndsAt time (.error e)) := by
  have hfollows := follows_of_build hbuild
  have hdirect := hfollows.direct
  have htunnel := hfollows.tunnel
  refine ⟨hfollows, ?proxy, ?tls, ?unchanged, dial_of_not_starts, ?exceeded, ?earliest⟩
  case proxy =>
    intro time e hends hkind
    obtain ⟨t, ht, hat⟩ := atProxy_of_dial hends hkind
    obtain ⟨p, hp, rfl⟩ := Option.map_eq_some_iff.1 (htunnel.symm.trans ht)
    exact ⟨p, hp, hdirect ▸ hat⟩
  case tls =>
    intro time target reason hends
    obtain ⟨⟨tls, htls⟩, rfl, hbelow⟩ := connected_of_dial hends
    obtain ⟨t, ht, -⟩ := hfollows.exists_enabledTls htls
    exact ⟨⟨t, ht⟩, rfl, hbelow⟩
  case unchanged =>
    intro time e hstarts hbelow hlimit
    refine dial_of_connect_failure hstarts hbelow ?_
    intro tls htls hzero
    obtain ⟨t, ht, heq⟩ := hfollows.exists_enabledTls htls
    rw [heq] at hzero ⊢
    exact hlimit t ht hzero
  case exceeded =>
    intro t ht hzero hstarts hpending
    obtain ⟨tls, htls, heq⟩ := hfollows.exists_tls ht
    rw [← heq] at hzero hpending ⊢
    refine ⟨_, dial_exceeded htls hzero hstarts hpending, ?_, ?_⟩
    · intro hnone
      simp [connectExceeded, htunnel, hnone]
    · intro p hp
      simp only [connectExceeded, htunnel, hp]
      exact ⟨_, rfl⟩
  case earliest =>
    intro stage time e hbusy hfirst hle hpending
    exact dial_of_earliest hbusy hfirst hle hpending

/-- A SOCKS5 proxy with the default deadline of ten seconds. -/
def quietProxy : Config.ForwardProxy := { Config.ForwardProxy.default with address := "proxy:1080" }

/-- TLS under a deadline of 300 ms. -/
def briefTls : Config.ClientTls :=
  { Config.ClientTls.default with skipVerify := true, handshakeTimeoutMs := 300 }

/-- A broker with this TLS behind this proxy. -/
def quietBroker : Config.Broker :=
  { Config.Broker.default with tls := some briefTls, forwardProxy := some quietProxy }

/-- A connection on which nothing is ever said. -/
def quietRoute : Route where
  socket := ⟨.v4 127 0 0 1, 1080⟩
  peer := ⟨[], .closed, none⟩
  arrival n := if n = 0 then some 0 else none

/-- A network in which every attempt ends in such a connection at once. -/
def quietNetwork : Network where
  resolve _ := some (0, .ok [.v4 127 0 0 1])
  connect _ := some (0, .ok quietRoute)
  prepare _ := .ok ()
  secure _ _ _ := none
  bind socket := .ok socket

/-- The proxy is reached at once and may take ten seconds to answer, so the TLS deadline is the first
to expire; its failure names the proxy. -/
theorem dial_failures_attributed_to_quiet_proxy :
    ∃ c, (Chain.build ⟨fun _ => .error .notFound⟩ .empty quietBroker).outcome.1 = .ok c ∧
      (c.dial quietNetwork "tcp" "broker:9093").EndsAt 300000000 (.error
        (.proxyHandshakeFailed "proxy:1080"
          "SOCKS5 tunnel to broker:9093 not ready after 300ms")) := by
  have hbuilt : (Chain.build ⟨fun _ => .error .notFound⟩ .empty
      quietBroker).outcome.1.toBool = true := by decide +kernel
  cases hc : (Chain.build ⟨fun _ => .error .notFound⟩ .empty quietBroker).outcome.1 with
  | error e =>
    rw [hc] at hbuilt
    cases hbuilt
  | ok c =>
    refine ⟨c, rfl, ?_⟩
    obtain ⟨hfollows, -, -, -, -, -, hearliest⟩ :=
      dial_failures_attributed hc quietNetwork "tcp" "broker:9093"
    obtain ⟨tls, htls, hdeadline⟩ := hfollows.exists_tls (t := briefTls) rfl
    have htunnel : c.tunnel = some ⟨.socks5, .ofConfig .empty quietProxy⟩ := hfollows.tunnel
    have hname : serverName "broker:9093" = .ok "broker".toList := by decide +kernel
    have hreach : (c.direct.connect quietNetwork "tcp" "proxy:1080").EndsAt 0 (.ok quietRoute) := by
      rw [hfollows.direct]
      rfl
    have hwait : (quietRoute.run (Tunnel.talk ⟨.socks5, .ofConfig .empty quietProxy⟩
        "broker:9093")).ended = none := rfl
    refine hearliest _ 300000000 _
      (.negotiating htunnel (.inr ⟨_, hname⟩) (by decide +kernel) hreach) ?_ (Nat.zero_le _) ?_
    · simp only [overall, htls, hdeadline]
      decide +kernel
    · rw [pendingAt_map_iff]
      intro t x hends
      exact absurd (hwait.symm.trans hends) nofun

end Chain

end BrokerRelay.Dial
