import BrokerRelay.Proofs.Dial.Attribution
/-!
# Arguments of a dial

A dial is given a network and an address. `Refuses` says which of them a chain refuses: a network that
there is not, an address that is not a host and a port, and under TLS a host that is no server name.

A refusal that comes first is the whole dial. It is there at once, on every network, so nothing was
resolved and no socket was opened for it. Each chain refuses a network in this way. An address is refused
so by a direct connection, by a tunnel through an HTTP proxy and by TLS; a tunnel through a SOCKS5 proxy
dials the proxy before it looks at the address (`bad_arguments_refused`).
-/

namespace BrokerRelay.Dial

open Activity

variable {network address : String}

/-! ## §1 What is refused -/

theorem splitTarget_of_none (h : HostPort.ofString? address = none) :
    splitTarget address = .error (.invalidAddress address) := by
  simp only [splitTarget, h]

/-- An argument of a dial is refused by a chain, with a failure that carries it. -/
inductive Chain.Refuses (c : Chain) (network address : String) : DialFailure → Prop
  | network : ¬IsNetwork network → c.Refuses network address (.unsupportedNetwork network)
  | address : HostPort.ofString? address = none → c.Refuses network address (.invalidAddress address)
  | serverName : ¬c.Starts address → c.Refuses network address (.invalidAddress address)

/-! ## §2 Refusals that come first -/

namespace Tunnel

variable {t : Tunnel} {d : Direct} {net : Network}

/-- What fails before the proxy is dialled is there at once. -/
theorem connect_of_precheck {e : DialFailure} (h : t.precheck network address = .error e) :
    t.connect d net network address = now (.error e) := by
  simp only [connect, h]

/-- Over a network that there is, a SOCKS5 client dials the proxy whatever the address is. -/
theorem precheck_of_socks5 (hnetwork : IsNetwork network) (hprotocol : t.protocol = .socks5) :
    t.precheck network address = .ok () := by
  obtain ⟨family, hfamily⟩ := exists_checkNetwork_iff.2 hnetwork
  simp only [precheck, hfamily, hprotocol]
  rfl

end Tunnel

namespace Chain

variable {c : Chain} {net : Network}

theorem connect_of_not_network (h : ¬IsNetwork network) :
    c.connect net network address = now (.error (.unsupportedNetwork network)) := by
  have hcheck := checkNetwork_of_not h
  unfold connect
  cases c.tunnel with
  | none => exact Direct.connect_of_unchecked hcheck
  | some t =>
    refine Tunnel.connect_of_precheck ?_
    rw [Tunnel.precheck, hcheck]
    rfl

/-- Without a SOCKS5 client an address is looked at before anything is dialled. -/
theorem connect_of_unsplit (hnetwork : IsNetwork network) (haddress : HostPort.ofString? address = none)
    (hprotocol : ∀ t, c.tunnel = some t → t.protocol ≠ .socks5) :
    c.connect net network address = now (.error (.invalidAddress address)) := by
  obtain ⟨family, hfamily⟩ := exists_checkNetwork_iff.2 hnetwork
  have hsplit := splitTarget_of_none haddress
  unfold connect
  cases htunnel : c.tunnel with
  | none => exact Direct.connect_of_unsplit hfamily hsplit
  | some t =>
    refine Tunnel.connect_of_precheck ?_
    cases hp : t.protocol with
    | socks5 => exact absurd hp (hprotocol t htunnel)
    | http =>
      simp only [Tunnel.precheck, hfamily, hp, hsplit]
      rfl

/-- TLS passes on what failed at once below it, under any deadline. -/
theorem dial_of_connect_now {e : DialFailure} (hstarts : c.Starts address)
    (h : c.connect net network address = now (.error e)) :
    c.dial net network address = now (.error e) := by
  unfold dial
  cases htls : c.tls with
  | none => simp only [h]; rfl
  | some tls =>
    obtain ⟨name, hname⟩ := hstarts.resolve_left (by simp [htls])
    simp only [dialSecured, hname, h, within_now, bind_now, andThen_now_error, ite_self]

/-- Where TLS lets the layers below start, the address can be split. -/
theorem ofString?_ne_none_of_starts (hstarts : c.Starts address) (htls : c.tls ≠ none) :
    HostPort.ofString? address ≠ none := by
  intro hnone
  obtain ⟨name, hname⟩ := hstarts.resolve_left htls
  rw [serverName, splitTarget_of_none hnone] at hname
  cases hname

/-- **A chain refuses at once what it looks at first**: any network, and any address but for a SOCKS5 client
without TLS over it. -/
theorem dial_refused (hbad : ¬IsNetwork network ∨ HostPort.ofString? address = none)
    (hfirst : ¬IsNetwork network ∨ c.tls ≠ none ∨ ∀ t, c.tunnel = some t → t.protocol ≠ .socks5) :
    ∃ e, c.Refuses network address e ∧ ∀ net, c.dial net network address = now (.error e) := by
  by_cases hstarts : c.Starts address
  · by_cases hnetwork : IsNetwork network
    · -- it is the address, so TLS is off and the protocol looks at the address
      have haddress := hbad.resolve_left (not_not_intro hnetwork)
      have hprotocol : ∀ t, c.tunnel = some t → t.protocol ≠ .socks5 :=
        (hfirst.resolve_left (not_not_intro hnetwork)).resolve_left fun htls =>
          ofString?_ne_none_of_starts hstarts htls haddress
      refine ⟨_, .address haddress, fun net => ?_⟩
      exact dial_of_connect_now hstarts (connect_of_unsplit hnetwork haddress hprotocol)
    · refine ⟨_, .network hnetwork, fun net => ?_⟩
      exact dial_of_connect_now hstarts (connect_of_not_network hnetwork)
  · exact ⟨_, .serverName hstarts, fun net => dial_of_not_starts hstarts⟩

end Chain

/-! ## §3 An address that a SOCKS5 client is given -/

/-- A negotiation that fails before it says anything is over at once, if no bytes need no waiting. -/
theorem Route.endsAt_run_fail {route : Route} (h : route.arrival 0 = some 0) (e : DialFailure) :
    (route.run (Talk.fail e : Talk DialFailure Unit)).EndsAt 0 (.error e) := by
  simp only [Route.run, EndsAt, waiting, Talk.demand, Talk.fail, h]
  rfl

namespace Tunnel

variable {t : Tunnel} {d : Direct} {net : Network}

/-- A negotiation opens no sockets: those of a tunnel are the ones to the proxy. -/
theorem opened_connect (hcheck : t.precheck network address = .ok ()) :
    (t.connect d net network address).opened =
      (d.connect net t.client.network t.client.address).opened := by
  simp only [connect, hcheck]
  exact opened_andThen fun route => opened_within_of_nil (by rfl) _

/-- A SOCKS5 client looks at the address when the proxy has been reached, and says nothing to it then. -/
theorem connect_of_unsplit (hcheck : t.precheck network address = .ok ())
    (hprotocol : t.protocol = .socks5) (haddress : HostPort.ofString? address = none) {time : Nat}
    {route : Route} (hreach : (d.connect net t.client.network t.client.address).EndsAt time (.ok route))
    (hready : route.arrival 0 = some 0) :
    (t.connect d net network address).EndsAt time (.error (.invalidAddress address)) := by
  have htalk : t.talk address = .fail (.invalidAddress address) := by
    simp only [talk, hprotocol, Socks5.handshake, splitTarget_of_none haddress]
  have hfails : (t.negotiate address route).EndsAt 0 (.error (.invalidAddress address)) := by
    refine negotiate_endsAt_iff.2 (.inl ⟨.error (.invalidAddress address), ?_, Nat.zero_le _, rfl⟩)
    rw [htalk]
    exact Route.endsAt_run_fail hready _
  simp only [connect, hcheck]
  exact endsAt_andThen_error_iff.2
    (.inr ⟨time, route, 0, endsAt_map_iff.2 ⟨_, hreach, rfl⟩, hfails, (Nat.add_zero time).symm⟩)

end Tunnel

namespace Chain

variable {c : Chain}

/-- Without TLS the sockets of a dial are those of the layers below. -/
theorem opened_dial_of_no_tls {net : Network} (hoff : c.tls = none) :
    (c.dial net network address).opened = (c.connect net network address).opened := by
  simp only [dial, hoff]
  rfl

/-- **A SOCKS5 client without TLS over it dials the proxy first**, and looks at the address when the proxy has
been reached. -/
theorem dial_of_socks5 {t : Tunnel} (hoff : c.tls = none) (htunnel : c.tunnel = some t)
    (hprotocol : t.protocol = .socks5) (hnetwork : IsNetwork network)
    (haddress : HostPort.ofString? address = none) (net : Network) :
    (c.dial net network address).opened =
        (c.direct.connect net t.client.network t.client.address).opened ∧
      (∀ time cause,
        (c.direct.connect net t.client.network t.client.address).EndsAt time (.error cause) →
        (c.dial net network address).EndsAt time (.error (.proxyUnreachable t.client.address cause))) ∧
      ∀ time route, (c.direct.connect net t.client.network t.client.address).EndsAt time (.ok route) →
        route.arrival 0 = some 0 →
        (c.dial net network address).EndsAt time (.error (.invalidAddress address)) := by
  have hcheck : t.precheck network address = .ok () := Tunnel.precheck_of_socks5 hnetwork hprotocol
  have hbelow : c.connect net network address = t.connect c.direct net network address := by
    simp only [connect, htunnel]
  -- without TLS a failure of the tunnel is the outcome of the dial
  have hends : ∀ time e, (t.connect c.direct net network address).EndsAt time (.error e) →
      (c.dial net network address).EndsAt time (.error e) := by
    intro time e h
    rw [← hbelow] at h
    exact dial_of_connect_failure (.inl hoff) h fun tls htls =>
      absurd (htls.symm.trans hoff) (Option.some_ne_none tls)
  refine ⟨?_, fun time cause hreach => ?_, fun time route hreach hready => ?_⟩
  · rw [opened_dial_of_no_tls hoff, hbelow]
    exact Tunnel.opened_connect hcheck
  · exact hends _ _ (Tunnel.connect_unreachable hcheck hreach)
  · exact hends _ _ (Tunnel.connect_of_unsplit hcheck hprotocol haddress hreach hready)

/-! ## §4 The chains of a configuration -/

variable {storage : Storage} {env : Environment} {b : Config.Broker}

/-- **Bad arguments are refused before anything is dialled, but an address by a SOCKS5 client.** For every
configuration that a chain is built from, and for every network that there is not and every address that is
not a host and a port:

* unless it is only the address that is bad, TLS is off and the proxy is a SOCKS5 proxy, the dial is refused
  at once with a failure that carries the argument, whatever the network, the proxy and the broker are like;
* else the dial opens the sockets to the proxy, fails as the dial to the proxy fails, and refuses the address
  when the proxy has been reached. -/
theorem bad_arguments_refused (hbuild : (Chain.build storage env b).outcome.1 = .ok c)
    (hbad : ¬IsNetwork network ∨ HostPort.ofString? address = none) :
    ((¬IsNetwork network ∨ b.enabledTls ≠ none ∨
        ∀ p, b.forwardProxy = some p → p.protocol ≠ .socks5) →
      ∃ e, c.Refuses network address e ∧ ∀ net, c.dial net network address = now (.error e)) ∧
    ∀ p, IsNetwork network → b.enabledTls = none → b.forwardProxy = some p → p.protocol = .socks5 →
      ∀ net, (c.dial net network address).opened = (c.direct.connect net p.network p.address).opened ∧
        (∀ time cause, (c.direct.connect net p.network p.address).EndsAt time (.error cause) →
          (c.dial net network address).EndsAt time (.error (.proxyUnreachable p.address cause))) ∧
        ∀ time route, (c.direct.connect net p.network p.address).EndsAt time (.ok route) →
          route.arrival 0 = some 0 →
          (c.dial net network address).EndsAt time (.error (.invalidAddress address)) := by
  have hfollows := follows_of_build hbuild
  constructor
  · intro hfirst
    refine dial_refused hbad (hfirst.imp_right (Or.imp (fun htls => ?_) fun hprotocol t ht => ?_))
    · obtain ⟨tls, hsome⟩ := Option.ne_none_iff_exists'.1 htls
      obtain ⟨tls', htls', -⟩ := hfollows.exists_tls hsome
      simp [htls']
    · obtain ⟨p, hp, rfl⟩ := Option.map_eq_some_iff.1 (hfollows.tunnel.symm.trans ht)
      exact hprotocol p hp
  · intro p hnetwork htls hp hprotocol net
    have hoff : c.tls = none := by
      have hmap := hfollows.tls
      rw [htls] at hmap
      exact Option.map_eq_none_iff.1 hmap
    have htunnel : c.tunnel = some ⟨p.protocol, .ofConfig env p⟩ := by
      rw [hfollows.tunnel, hp]
      rfl
    exact dial_of_socks5 hoff htunnel hprotocol hnetwork (hbad.resolve_left (not_not_intro hnetwork)) net

/-! ### A bad address behind a proxy -/

/-- The broker behind the quiet proxy, without TLS. -/
def plainBroker : Config.Broker := { quietBroker with tls := none }

/-- A network in which every connection is refused at once. -/
def refusingNetwork : Network := { quietNetwork with connect := fun _ => some (0, .error .refused) }

/-- Without any files. -/
def noFiles : Storage := ⟨fun _ => .error .notFound⟩

theorem noport_unsplit : HostPort.ofString? "noport" = none := by decide +kernel

/-- TLS refuses the address on every network; without it the proxy is dialled first. -/
theorem bad_arguments_refused_behind_proxy :
    (∃ c, (Chain.build noFiles .empty quietBroker).outcome.1 = .ok c ∧
      ∀ net, c.dial net "tcp" "noport" = now (.error (.invalidAddress "noport"))) ∧
    ∃ c, (Chain.build noFiles .empty plainBroker).outcome.1 = .ok c ∧
      (c.dial quietNetwork "tcp" "noport").EndsAt 0 (.error (.invalidAddress "noport")) := by
  constructor
  · obtain ⟨c, hbuild⟩ : ∃ c, (Chain.build noFiles .empty quietBroker).outcome.1 = .ok c :=
      exists_eq_ok_of_toBool (by decide +kernel)
    obtain ⟨e, hrefuses, hdial⟩ : ∃ e, c.Refuses "tcp" "noport" e ∧
        ∀ net, c.dial net "tcp" "noport" = now (.error e) :=
      (bad_arguments_refused hbuild (.inr noport_unsplit)).1 (.inr (.inl (Option.some_ne_none briefTls)))
    refine ⟨c, hbuild, ?_⟩
    cases hrefuses with
    | network hnetwork => exact absurd (.inl rfl) hnetwork
    | address _ => exact hdial
    | serverName _ => exact hdial
  · have hbuild : (Chain.build noFiles .empty plainBroker).outcome.1 = .ok _ := rfl
    have htcp : IsNetwork "tcp" := .inl rfl
    obtain ⟨-, hsocks⟩ := bad_arguments_refused hbuild (.inr noport_unsplit)
    obtain ⟨-, -, hreached⟩ := hsocks quietProxy htcp rfl rfl rfl quietNetwork
    exact ⟨_, hbuild, hreached 0 quietRoute rfl rfl⟩

/-- **A SOCKS5 client dials the proxy for an address that is none.** A socket is opened to the proxy, and a
proxy that is not there hides what is wrong with the address. -/
theorem bad_address_dials_proxy :
    ∃ c, (Chain.build noFiles .empty plainBroker).outcome.1 = .ok c ∧
      HostPort.ofString? "noport" = none ∧
      (c.dial quietNetwork "tcp" "noport").targets = [⟨.v4 127 0 0 1, 1080⟩] ∧
      (c.dial refusingNetwork "tcp" "noport").EndsAt 0
        (.error (.proxyUnreachable "proxy:1080" (.refused "proxy:1080"))) :=
  ⟨_, rfl, noport_unsplit, rfl, rfl⟩

end Chain

end BrokerRelay.Dial
