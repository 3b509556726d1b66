import BrokerRelay.Proofs.Address.Grammar
import BrokerRelay.Proofs.Dial.Attribution
import BrokerRelay.Relay.Server
/-!
# What start-up leaves to the first dial

A relay starts when its configuration has been read and its server has been built. By then every
address in the configuration is known to name a host and a port. Two things that a dial needs are
checked by the dial alone: that the broker's host is a name that TLS can check a certificate against,
and that the proxy is to be reached over a network that there is. `Dialable` states them.

`dials_iff_dialable` shows that this is the whole difference between starting and dialling: where both
hold no dial fails for a reason that lies in the configuration, whatever the network does. Where the
first one does not hold, every dial refuses the address of the broker at once. Where only the second
one does not, every dial reports at once that the proxy cannot be reached over its network.
-/

namespace BrokerRelay

namespace Dial

open Activity

/-! ## Failures that lie in the configuration -/

/-- The dial failed on what the configuration says, its own or that of the dial to the proxy. -/
inductive Misconfigured : DialFailure → Prop
  | address (address : String) : Misconfigured (.invalidAddress address)
  | network (network : String) : Misconfigured (.unsupportedNetwork network)
  | atProxy (proxy : String) {cause : DialFailure} : Misconfigured cause →
      Misconfigured (.proxyUnreachable proxy cause)

/-- What goes wrong in a negotiation does not lie in the configuration. -/
theorem OfNegotiation.not_misconfigured {e : DialFailure} (h : OfNegotiation e) :
    ¬Misconfigured e := by
  rintro (_ | _ | _) <;> cases h

namespace Direct

variable {d : Direct} {net : Network} {network address : String}

theorem Carries.not_misconfigured {e : DialFailure} (h : Carries address e) : ¬Misconfigured e := by
  cases h <;> nofun

/-- A direct connection to an address, over a network that there is, does not fail on the
configuration. -/
theorem connect_not_misconfigured {family : Family} {target : HostPort} {time : Nat} {e : DialFailure}
    (hfamily : checkNetwork network = .ok family) (htarget : splitTarget address = .ok target)
    (h : (d.connect net network address).EndsAt time (.error e)) : ¬Misconfigured e :=
  (connect_carries hfamily htarget h).not_misconfigured

end Direct

namespace Tunnel

variable {t : Tunnel} {d : Direct} {net : Network} {target : String} {destination : HostPort}

/-- An address passes what is checked before the proxy is dialled. -/
theorem precheck_of_target (htarget : splitTarget target = .ok destination) :
    t.precheck "tcp" target = .ok () := by
  unfold precheck
  cases t.protocol with
  | socks5 => rfl
  | http =>
    rw [htarget]
    rfl

/-- A tunnel to an address through a proxy that can be dialled does not fail on the configuration. -/
theorem connect_not_misconfigured {family : Family} {proxy : HostPort} {time : Nat} {e : DialFailure}
    (htarget : splitTarget target = .ok destination)
    (hfamily : checkNetwork t.client.network = .ok family)
    (hproxy : splitTarget t.client.address = .ok proxy)
    (h : (t.connect d net "tcp" target).EndsAt time (.error e)) : ¬Misconfigured e := by
  rcases connect_failure_cases h with
    ⟨-, hcheck⟩ | ⟨cause, hreach, rfl⟩ | ⟨start, route, -, ⟨spent, htalk, -⟩ | ⟨-, rfl, -⟩⟩
  · cases (precheck_of_target htarget).symm.trans hcheck
  · rintro (_ | _ | ⟨_, hcause⟩)
    exact Direct.connect_not_misconfigured hfamily hproxy hreach hcause
  · rcases talk_fails (run_of_endsAt htalk) with hnegotiation | hsplit
    · exact hnegotiation.not_misconfigured
    · cases htarget.symm.trans hsplit
  · nofun

/-- A proxy on a network that there is not is unreachable, at once and for that reason. -/
theorem connect_of_not_network (htarget : splitTarget target = .ok destination)
    (hnetwork : ¬IsNetwork t.client.network) :
    (t.connect d net "tcp" target).EndsAt 0
      (.error (.proxyUnreachable t.client.address (.unsupportedNetwork t.client.network))) := by
  refine connect_unreachable (precheck_of_target htarget) ?_
  rw [Direct.connect_of_unchecked (checkNetwork_of_not hnetwork)]
  exact endsAt_now_iff.2 ⟨rfl, rfl⟩

end Tunnel

/-! ## What a dial needs beyond addresses -/

/-- The host of the broker is a server name, if TLS is on. -/
def Named (b : Config.Broker) : Prop :=
  ∀ t target, b.enabledTls = some t → HostPort.ofString? b.address = some target →
    ServerName.isValid target.host = true

/-- The broker can be dialled as the configuration says: if TLS is on its host is a server name, and
if there is a proxy its network is one that there is. -/
structure Dialable (b : Config.Broker) : Prop where
  named : Named b
  network : ∀ p, b.forwardProxy = some p → IsNetwork p.network

/-- What cannot be dialled lacks the server name, or only the network of the proxy. -/
theorem not_named_or_not_network {b : Config.Broker} (h : ¬Dialable b) :
    ¬Named b ∨ Named b ∧ ∃ p, b.forwardProxy = some p ∧ ¬IsNetwork p.network := by
  by_cases hnamed : Named b
  · refine .inr ⟨hnamed, ?_⟩
    by_contra hnone
    refine h ⟨hnamed, fun p hp => ?_⟩
    by_contra hnetwork
    exact hnone ⟨p, hp, hnetwork⟩
  · exact .inl hnamed

namespace Chain

variable {c : Chain} {env : Environment} {b : Config.Broker} {net : Network} {target : HostPort}

theorem serverName_of_valid {address : String} (htarget : splitTarget address = .ok target)
    (hvalid : ServerName.isValid target.host = true) : serverName address = .ok target.host := by
  unfold serverName
  rw [htarget]
  show (if ServerName.isValid target.host = true then _ else _) = _
  rw [if_pos hvalid]
  rfl

theorem serverName_of_invalid {address : String} (htarget : splitTarget address = .ok target)
    (hinvalid : ¬ServerName.isValid target.host = true) :
    serverName address = .error (.invalidAddress address) := by
  unfold serverName
  rw [htarget]
  show (if ServerName.isValid target.host = true then _ else _) = _
  rw [if_neg hinvalid]
  rfl

/-- The broker's address, and the proxy's if there is one, name a host and a port. -/
structure Addressed (b : Config.Broker) (target : HostPort) : Prop where
  broker : HostPort.ofString? b.address = some target
  proxy : ∀ p, b.forwardProxy = some p → ∃ a, HostPort.ofString? p.address = some a

/-- What can be dialled does not fail on the configuration. -/
theorem dial_not_misconfigured (hc : c.Follows env b) (ha : Addressed b target) (hb : Dialable b)
    {time : Nat} {e : DialFailure} (h : (c.dial net "tcp" b.address).EndsAt time (.error e)) :
    ¬Misconfigured e := by
  have htarget := splitTarget_eq_ok_iff.2 ha.broker
  rcases dial_failure_cases h with
    hbelow | ⟨tls, htls, hname | ⟨-, rfl, -⟩ | ⟨_, _, reason, -, rfl, -⟩⟩
  · unfold connect at hbelow
    cases hproxy : b.forwardProxy with
    | none =>
      rw [hc.tunnel, hproxy] at hbelow
      obtain ⟨family, hfamily⟩ := exists_checkNetwork_iff.2 (.inl rfl)
      exact Direct.connect_not_misconfigured hfamily htarget hbelow
    | some p =>
      rw [hc.tunnel, hproxy] at hbelow
      obtain ⟨family, hfamily⟩ := exists_checkNetwork_iff.2 (hb.network p hproxy)
      obtain ⟨a, haddress⟩ := ha.proxy p hproxy
      exact Tunnel.connect_not_misconfigured htarget hfamily (splitTarget_eq_ok_iff.2 haddress) hbelow
  · obtain ⟨t, ht, -⟩ := hc.exists_enabledTls htls
    cases (serverName_of_valid htarget (hb.named t target ht ha.broker)).symm.trans hname
  · unfold connectExceeded
    cases c.tunnel <;> nofun
  · nofun

/-- TLS lets the layers below start exactly if it is off or the host is a server name. -/
theorem starts_iff (hc : c.Follows env b) (ha : Addressed b target) : c.Starts b.address ↔ Named b := by
  have htarget := splitTarget_eq_ok_iff.2 ha.broker
  constructor
  · intro hstarts t target' ht htarget'
    obtain rfl := Option.some.inj (ha.broker.symm.trans htarget')
    obtain ⟨tls, htls, -⟩ := hc.exists_tls ht
    obtain ⟨name, hname⟩ := hstarts.resolve_left (by simp [htls])
    by_contra hinvalid
    cases (serverName_of_invalid htarget hinvalid).symm.trans hname
  · intro hnamed
    cases htls : c.tls with
    | none => exact .inl htls
    | some tls =>
      obtain ⟨t, ht, -⟩ := hc.exists_enabledTls htls
      exact .inr ⟨_, serverName_of_valid htarget (hnamed t target ht ha.broker)⟩

/-- A broker whose host is no server name cannot be dialled under TLS: its address is refused, at once
and whatever the network does. -/
theorem dial_of_not_named (hc : c.Follows env b) (ha : Addressed b target) (hb : ¬Named b) :
    (c.dial net "tcp" b.address).EndsAt 0 (.error (.invalidAddress b.address)) := by
  have hstarts : ¬c.Starts b.address := fun h => hb ((starts_iff hc ha).1 h)
  rw [dial_of_not_starts hstarts]
  exact endsAt_now_iff.2 ⟨rfl, rfl⟩

/-- Nor can one behind a proxy on a network that there is not: the proxy is unreachable, at once and
whatever the network does. -/
theorem dial_of_not_network (hc : c.Follows env b) (ha : Addressed b target) (hb : Named b)
    {p : Config.ForwardProxy} (hproxy : b.forwardProxy = some p) (hnetwork : ¬IsNetwork p.network) :
    (c.dial net "tcp" b.address).EndsAt 0
      (.error (.proxyUnreachable p.address (.unsupportedNetwork p.network))) := by
  have htarget := splitTarget_eq_ok_iff.2 ha.broker
  have hbelow : (c.connect net "tcp" b.address).EndsAt 0
      (.error (.proxyUnreachable p.address (.unsupportedNetwork p.network))) := by
    unfold connect
    rw [hc.tunnel, hproxy]
    exact Tunnel.connect_of_not_network htarget hnetwork
  exact dial_of_connect_failure ((starts_iff hc ha).2 hb) hbelow fun _ _ _ => Nat.zero_le _

end Chain

end Dial

/-! ## Starting -/

namespace Config

/-- What is read has been checked. -/
theorem Settings.validate_of_ofText {text : String} {s : Settings}
    (h : Settings.ofText text = .ok s) : s.validate = .ok () := by
  unfold Settings.ofText at h
  cases hparsed : (Settings.parse text).mapError ConfigFailure.unparsable with
  | error e =>
    rw [hparsed] at h
    cases h
  | ok parsed =>
    rw [hparsed] at h
    cases hvalid : parsed.validate with
    | error e => simp [hvalid, bind, Except.bind] at h
    | ok _ =>
      simp only [hvalid, bind, Except.bind, pure, Except.pure, Except.ok.injEq] at h
      obtain rfl := h
      exact hvalid

/-- In a checked configuration the broker and the proxy have addresses. -/
theorem Settings.addressed_of_validate {s : Settings} (h : s.validate = .ok ()) :
    ∃ target, Dial.Chain.Addressed s.broker target := by
  unfold Settings.validate at h
  cases hlisten : splitAddress s.listen.address with
  | error e => simp [hlisten, bind, Except.bind] at h
  | ok _ =>
    cases hbroker : splitAddress s.broker.address with
    | error e => simp [hlisten, hbroker, bind, Except.bind] at h
    | ok target =>
      refine ⟨target, splitAddress_eq_ok_iff.1 hbroker, fun p hp => ?_⟩
      simp only [hlisten, hbroker, hp, bind, Except.bind] at h
      cases hproxy : splitAddress p.address with
      | error e => simp [hproxy] at h
      | ok a => exact ⟨a, splitAddress_eq_ok_iff.1 hproxy⟩

end Config

namespace Relay.Server

variable {storage : Storage} {env : Environment} {s : Config.Settings} {server : Server}

/-- The chain of a server is the one that its configuration describes. -/
theorem follows_of_build (h : (Server.build storage env s).outcome.1 = .ok server) :
    server.chain.Follows env s.broker := by
  rw [Logged.outcome_fst, build, Logged.value_mapFailure, mapError_eq_ok_iff] at h
  simp only [Logged.value_bind_eq_ok_iff, Logged.value_pure, Except.ok.injEq] at h
  obtain ⟨tls, -, chain, hchain, rfl⟩ := h
  exact Dial.Chain.follows_of_build hchain

/-- **Start-up checks all that a dial needs but the server name and the proxy's network.** For every
text that is read as a configuration, and for which a server is built:

* if the broker is `Dialable`, no dial to it fails on the configuration, however it ends;
* if TLS is on and the host of the broker is no server name, every dial fails at once with an invalid
  address, that of the broker;
* if that is not so, but the proxy is to be reached over a network that there is not, every dial fails at
  once with a proxy that is unreachable because its network is not supported.

The last two hold on every network, and a broker that is not `Dialable` is in one of them. -/
theorem dials_iff_dialable {text : String} (hs : Config.Settings.ofText text = .ok s)
    (hserver : (Server.build storage env s).outcome.1 = .ok server) :
    (Dial.Dialable s.broker → ∀ (net : Dial.Network) (time : Nat) (e : DialFailure),
      (server.chain.dial net "tcp" s.broker.address).EndsAt time (.error e) →
        ¬Dial.Misconfigured e) ∧
    (¬Dial.Named s.broker → ∀ net : Dial.Network,
      (server.chain.dial net "tcp" s.broker.address).EndsAt 0
        (.error (.invalidAddress s.broker.address))) ∧
    (Dial.Named s.broker → ∀ p, s.broker.forwardProxy = some p → ¬Dial.IsNetwork p.network →
      ∀ net : Dial.Network, (server.chain.dial net "tcp" s.broker.address).EndsAt 0
        (.error (.proxyUnreachable p.address (.unsupportedNetwork p.network)))) ∧
    (¬Dial.Dialable s.broker → ¬Dial.Named s.broker ∨
      Dial.Named s.broker ∧ ∃ p, s.broker.forwardProxy = some p ∧ ¬Dial.IsNetwork p.network) := by
  obtain ⟨target, ha⟩ :=
    Config.Settings.addressed_of_validate (Config.Settings.validate_of_ofText hs)
  have hchain := follows_of_build hserver
  refine ⟨?_, ?_, ?_, Dial.not_named_or_not_network⟩
  · intro hb net time e h
    exact Dial.Chain.dial_not_misconfigured hchain ha hb h
  · intro hb net
    exact Dial.Chain.dial_of_not_named hchain ha hb
  · intro hb p hproxy hnetwork net
    exact Dial.Chain.dial_of_not_network hchain ha hb hproxy hnetwork

/-! ### Configurations that start -/

/-- A relay to a broker under TLS; the host is no server name. -/
def unnamedText : String :=
  "listen:\nkafka:\n  address: 'not a host:9093'\n  tls:\n    enabled: true\n"

/-- What it says. -/
def unnamed : Config.Settings :=
  { Config.Settings.default with
    broker := { Config.Broker.default with
      address := "not a host:9093", tls := some Config.ClientTls.default } }

/-- A relay through a proxy that is to be reached over UDP. -/
def strayText : String :=
  "listen:\nkafka:\n  address: kafka:9092\n  forward_proxy:\n    protocol: socks5\n" ++
    "    network: udp\n    address: 127.0.0.1:1080\n"

/-- What it says. -/
def stray : Config.Settings :=
  { Config.Settings.default with
    broker := { Config.Broker.default with
      address := "kafka:9092",
      forwardProxy := some { Config.ForwardProxy.default with
        network := "udp", address := "127.0.0.1:1080" } } }

/-- A relay under TLS, through a proxy that is to be reached over IPv4. -/
def soundText : String :=
  "listen:\nkafka:\n  address: kafka.test:9093\n  tls:\n    enabled: true\n" ++
    "  forward_proxy:\n    protocol: http\n    network: tcp4\n    address: proxy:3128\n"

/-- What it says. -/
def sound : Config.Settings :=
  { Config.Settings.default with
    broker := { Config.Broker.default with
      address := "kafka.test:9093", tls := some Config.ClientTls.default,
      forwardProxy := some { Config.ForwardProxy.default with
        protocol := .http, network := "tcp4", address := "proxy:3128" } } }

/-- A relay without any files. -/
def bare : Storage := (FileTree.ofList []).storage

theorem ofText_of_toOption {text : String}
    (h : (Config.Settings.ofText text).toOption = some s) : Config.Settings.ofText text = .ok s := by
  cases hread : Config.Settings.ofText text with
  | error e =>
    rw [hread] at h
    cases h
  | ok s' =>
    rw [hread] at h
    exact congrArg Except.ok (Option.some.inj h)

theorem exists_built (h : (Server.build storage env s).outcome.1.toBool = true) :
    ∃ server, (Server.build storage env s).outcome.1 = .ok server :=
  exists_eq_ok_of_toBool h

theorem unnamed_starts : Config.Settings.ofText unnamedText = .ok unnamed ∧
    ∃ server, (Server.build bare .empty unnamed).outcome.1 = .ok server :=
  ⟨ofText_of_toOption (by decide +kernel), exists_built (by decide +kernel)⟩

theorem stray_starts : Config.Settings.ofText strayText = .ok stray ∧
    ∃ server, (Server.build bare .empty stray).outcome.1 = .ok server :=
  ⟨ofText_of_toOption (by decide +kernel), exists_built (by decide +kernel)⟩

theorem unnamed_not_named : ¬Dial.Named unnamed.broker := by
  intro h
  have hvalid := h Config.ClientTls.default ⟨"not a host".toList, 9093⟩ rfl (by decide +kernel)
  exact absurd hvalid (by decide +kernel)

/-- Without TLS no name is needed. -/
theorem stray_named : Dial.Named stray.broker := fun _ _ htls => nomatch htls

/-- **A relay that starts can be unable to dial for what its configuration says.** Both of these
start. The first refuses the address of each dial, the second the network of each dial to its proxy,
although the network would answer. -/
theorem dial_fails_on_configuration :
    (∃ server, Config.Settings.ofText unnamedText = .ok unnamed ∧
      (Server.build bare .empty unnamed).outcome.1 = .ok server ∧
      (server.chain.dial Dial.Chain.quietNetwork "tcp" "not a host:9093").EndsAt 0
        (.error (.invalidAddress "not a host:9093"))) ∧
    ∃ server, Config.Settings.ofText strayText = .ok stray ∧
      (Server.build bare .empty stray).outcome.1 = .ok server ∧
      (server.chain.dial Dial.Chain.quietNetwork "tcp" "kafka:9092").EndsAt 0
        (.error (.proxyUnreachable "127.0.0.1:1080" (.unsupportedNetwork "udp"))) := by
  constructor
  · obtain ⟨hread, server, hserver⟩ := unnamed_starts
    obtain ⟨target, ha⟩ :=
      Config.Settings.addressed_of_validate (Config.Settings.validate_of_ofText hread)
    exact ⟨server, hread, hserver,
      Dial.Chain.dial_of_not_named (follows_of_build hserver) ha unnamed_not_named⟩
  · obtain ⟨hread, server, hserver⟩ := stray_starts
    obtain ⟨target, ha⟩ :=
      Config.Settings.addressed_of_validate (Config.Settings.validate_of_ofText hread)
    exact ⟨server, hread, hserver,
      Dial.Chain.dial_of_not_network (follows_of_build hserver) ha stray_named rfl (by decide)⟩

/-- The sound configuration never fails on what it says; the one without a server name and the one with
a proxy over UDP always do, each in its own way. -/
theorem dials_iff_dialable_sound_and_unnamed :
    (∃ server, (Server.build bare .empty sound).outcome.1 = .ok server ∧
      ∀ (net : Dial.Network) (time : Nat) (e : DialFailure),
        (server.chain.dial net "tcp" "kafka.test:9093").EndsAt time (.error e) →
          ¬Dial.Misconfigured e) ∧
    (∃ server, (Server.build bare .empty unnamed).outcome.1 = .ok server ∧
      ∀ net : Dial.Network, (server.chain.dial net "tcp" "not a host:9093").EndsAt 0
        (.error (.invalidAddress "not a host:9093"))) ∧
    ∃ server, (Server.build bare .empty stray).outcome.1 = .ok server ∧
      ∀ net : Dial.Network, (server.chain.dial net "tcp" "kafka:9092").EndsAt 0
        (.error (.proxyUnreachable "127.0.0.1:1080" (.unsupportedNetwork "udp"))) := by
  refine ⟨?_, ?_, ?_⟩
  · obtain ⟨server, hserver⟩ : ∃ server, (Server.build bare .empty sound).outcome.1 = .ok server :=
      exists_built (by decide +kernel)
    have hread : Config.Settings.ofText soundText = .ok sound :=
      ofText_of_toOption (by decide +kernel)
    have hdialable : Dial.Dialable sound.broker := by
      refine ⟨fun t target ht htarget => ?_, fun p hp => ?_⟩
      · obtain rfl : target = ⟨"kafka.test".toList, 9093⟩ :=
          Option.some.inj (htarget.symm.trans (by decide +kernel))
        decide +kernel
      · obtain rfl := Option.some.inj hp
        exact .inr (.inl rfl)
    exact ⟨server, hserver, (dials_iff_dialable hread hserver).1 hdialable⟩
  · obtain ⟨hread, server, hserver⟩ := unnamed_starts
    exact ⟨server, hserver, (dials_iff_dialable hread hserver).2.1 unnamed_not_named⟩
  · obtain ⟨hread, server, hserver⟩ := stray_starts
    obtain ⟨-, -, hunreachable, -⟩ := dials_iff_dialable hread hserver
    exact ⟨server, hserver, hunreachable stray_named _ rfl (by decide)⟩

end Relay.Server

end BrokerRelay
