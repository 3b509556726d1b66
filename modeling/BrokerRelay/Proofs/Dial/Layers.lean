import BrokerRelay.Dial.Chain
import BrokerRelay.Proofs.Dial.Activity
import BrokerRelay.Proofs.Dial.HttpConnect.ResponseHead
/-!
# How the layers of a chain fail

For each layer of a dial, the ways in which it can fail and the times at which it is pending, in terms
of the layer below: first the direct connection, then the negotiation with a proxy and the tunnel, and
last TLS over either. A failure keeps the kind of the layer where it arose, and nothing above the
layer changes it.
-/

namespace BrokerRelay.Dial

open Activity

/-! ## Kinds of failures -/

/-- The failure is one of a connection: neither of a proxy nor of TLS. -/
def OfConnection (e : DialFailure) : Prop :=
  e.isProxyFailure = false ∧ ∀ address reason, e ≠ .tlsHandshakeFailed address reason

/-- The failure is one of a negotiation with a proxy that has been reached. -/
inductive OfNegotiation : DialFailure → Prop
  | rejected (proxy reason : String) : OfNegotiation (.proxyAuthRejected proxy reason)
  | refused (proxy target : String) (reply : UInt8) (reason : String) :
      OfNegotiation (.proxyRefused proxy target reply reason)
  | failed (proxy reason : String) : OfNegotiation (.proxyHandshakeFailed proxy reason)

/-- One of the networks that there are. -/
def IsNetwork (network : String) : Prop := network = "tcp" ∨ network = "tcp4" ∨ network = "tcp6"

instance (network : String) : Decidable (IsNetwork network) :=
  inferInstanceAs (Decidable (_ ∨ _ ∨ _))

theorem exists_checkNetwork_iff {network : String} :
    (∃ family, checkNetwork network = .ok family) ↔ IsNetwork network := by
  unfold checkNetwork Family.ofNetwork? IsNetwork
  by_cases h : network = "tcp"
  · simp [h]
  · by_cases h4 : network = "tcp4"
    · simp [h4]
    · by_cases h6 : network = "tcp6"
      · simp [h6]
      · simp [h, h4, h6]

theorem checkNetwork_eq_error {network : String} {e : DialFailure}
    (h : checkNetwork network = .error e) : e = .unsupportedNetwork network := by
  unfold checkNetwork at h
  split at h
  · cases h
  · cases h
    rfl

theorem checkNetwork_of_not {network : String} (h : ¬IsNetwork network) :
    checkNetwork network = .error (.unsupportedNetwork network) := by
  cases hcheck : checkNetwork network with
  | ok family => exact absurd (exists_checkNetwork_iff.1 ⟨family, hcheck⟩) h
  | error e => rw [checkNetwork_eq_error hcheck]

theorem checkNetwork_fails {network : String} {e : DialFailure}
    (h : checkNetwork network = .error e) : OfConnection e := by
  obtain rfl := checkNetwork_eq_error h
  exact ⟨rfl, nofun⟩

theorem splitTarget_eq_ok_iff {address : String} {target : HostPort} :
    splitTarget address = .ok target ↔ HostPort.ofString? address = some target := by
  unfold splitTarget
  split
  · next h => simp [h]
  · next h => simp [h]

theorem splitTarget_eq_error {address : String} {e : DialFailure}
    (h : splitTarget address = .error e) : e = .invalidAddress address := by
  unfold splitTarget at h
  split at h
  · cases h
  · cases h
    rfl

theorem splitTarget_fails {address : String} {e : DialFailure}
    (h : splitTarget address = .error e) : OfConnection e := by
  obtain rfl := splitTarget_eq_error h
  exact ⟨rfl, nofun⟩

/-! ## Direct connections -/

namespace Direct

variable {d : Direct} {net : Network} {network address : String}

/-- The failure is one of a direct connection to an address, and carries it. -/
inductive Carries (address : String) : DialFailure → Prop
  | timeout (after : Duration) : Carries address (.timeout address after)
  | refused : Carries address (.refused address)
  | unreachable (cause : IoFailure) : Carries address (.unreachable address cause)

theorem Carries.ofConnection {e : DialFailure} (h : Carries address e) : OfConnection e := by
  cases h <;> exact ⟨rfl, nofun⟩

/-- A failure that carries an address tells it first. -/
theorem Carries.message {e : DialFailure} (h : Carries address e) :
    ∃ reason, e.message = "dial " ++ address ++ ": " ++ reason := by
  cases h with
  | timeout after =>
    have hwords : ": i/o timeout after " = ": " ++ "i/o timeout after " := by decide
    refine ⟨"i/o timeout after " ++ after.text, ?_⟩
    show "dial " ++ address ++ ": i/o timeout after " ++ after.text = _
    rw [hwords, ← String.append_assoc, ← String.append_assoc]
  | refused =>
    have hwords : ": connection refused" = ": " ++ "connection refused" := by decide
    refine ⟨"connection refused", ?_⟩
    show "dial " ++ address ++ ": connection refused" = _
    rw [hwords, ← String.append_assoc]
  | unreachable cause => exact ⟨cause.message, rfl⟩

theorem failureOf_carries (d : Direct) (address : String) (cause : IoFailure) :
    Carries address (d.failureOf address cause) := by
  unfold failureOf
  split
  · exact .refused
  · exact .timeout _
  · exact .unreachable _

/-- However an attempt ended, a failure of its dial carries the address. -/
theorem settle_carries {r : Option (Except IoFailure Route)} {e : DialFailure}
    (h : d.settle net address r = .error e) : Carries address e := by
  rcases r with _ | ⟨cause⟩ | ⟨route⟩
  · obtain rfl := Except.error.inj h
    exact .timeout _
  · obtain rfl := Except.error.inj h
    exact failureOf_carries d address cause
  · unfold settle at h
    cases hprepare : net.prepare route.socket with
    | ok _ => simp [hprepare] at h
    | error cause =>
      simp only [hprepare] at h
      obtain rfl := Except.error.inj h
      exact .unreachable cause

/-- A direct connection never fails as a proxy or as TLS does. -/
theorem connect_fails {t : Nat} {e : DialFailure}
    (h : (d.connect net network address).EndsAt t (.error e)) : OfConnection e := by
  unfold connect at h
  cases hfamily : checkNetwork network with
  | error e' =>
    rw [hfamily] at h
    obtain ⟨-, he⟩ := endsAt_now_iff.1 h
    obtain rfl := Except.error.inj he
    exact checkNetwork_fails hfamily
  | ok family =>
    rw [hfamily] at h
    cases htarget : splitTarget address with
    | error e' =>
      rw [htarget] at h
      obtain ⟨-, he⟩ := endsAt_now_iff.1 h
      obtain rfl := Except.error.inj he
      exact splitTarget_fails htarget
    | ok target =>
      rw [htarget] at h
      obtain ⟨r, -, he⟩ := endsAt_map_iff.1 h
      exact (settle_carries he.symm).ofConnection

/-- A network that there is not fails before anything is dialled. -/
theorem connect_of_unchecked {e : DialFailure} (h : checkNetwork network = .error e) :
    d.connect net network address = .now (.error e) := by
  simp only [connect, h]

/-- An address that cannot be split fails before anything is dialled. -/
theorem connect_of_unsplit {family : Family} {e : DialFailure}
    (hfamily : checkNetwork network = .ok family) (h : splitTarget address = .error e) :
    d.connect net network address = .now (.error e) := by
  simp only [connect, hfamily, h]

/-- A network and an address that pass the checks leave the attempt under its deadline. -/
theorem connect_of_checked {family : Family} {target : HostPort}
    (hfamily : checkNetwork network = .ok family) (htarget : splitTarget address = .ok target) :
    d.connect net network address =
      ((attempt net network family target).within d.connectTimeout.toNanos).map
        (d.settle net address) := by
  simp only [connect, hfamily, htarget]

/-- Every failure of a dial to an address that can be dialled carries it. -/
theorem connect_carries {family : Family} {target : HostPort} {time : Nat} {e : DialFailure}
    (hfamily : checkNetwork network = .ok family) (htarget : splitTarget address = .ok target)
    (h : (d.connect net network address).EndsAt time (.error e)) : Carries address e := by
  rw [connect_of_checked hfamily htarget] at h
  obtain ⟨r, -, he⟩ := endsAt_map_iff.1 h
  exact settle_carries he.symm

/-- An attempt that is pending when its deadline expires times out there. -/
theorem connect_times_out {family : Family} {target : HostPort}
    (hfamily : checkNetwork network = .ok family) (htarget : splitTarget address = .ok target)
    (hpending : (attempt net network family target).PendingAt d.connectTimeout.toNanos) :
    (d.connect net network address).EndsAt d.connectTimeout.toNanos
      (.error (.timeout address d.connectTimeout)) := by
  rw [connect_of_checked hfamily htarget, endsAt_map_iff]
  exact ⟨none, endsAt_within_none_iff.2 ⟨rfl, hpending⟩, rfl⟩

/-- Until its deadline a connection is pending as long as its attempt. -/
theorem connect_pendingAt {family : Family} {target : HostPort} {time : Nat}
    (hfamily : checkNetwork network = .ok family) (htarget : splitTarget address = .ok target)
    (hpending : (attempt net network family target).PendingAt time)
    (hlt : time < d.connectTimeout.toNanos) :
    (d.connect net network address).PendingAt time := by
  rw [connect_of_checked hfamily htarget, pendingAt_map_iff, pendingAt_within_iff]
  exact ⟨hlt, hpending⟩

end Direct

/-! ## Negotiations -/

namespace Socks5

variable (c : ProxyClient)

/-- The failure is one of this client's negotiation for a target: it names the client's proxy, and a
refusal names the target with the reply code and its text. -/
inductive OfClient (target : String) : DialFailure → Prop
  | rejected (reason : String) : OfClient target (.proxyAuthRejected c.address reason)
  | refused (code : UInt8) : OfClient target (.proxyRefused c.address target code (replyText code))
  | failed (reason : String) : OfClient target (.proxyHandshakeFailed c.address reason)

theorem OfClient.ofNegotiation {target : String} {e : DialFailure} (h : OfClient c target e) :
    OfNegotiation e := by
  cases h with
  | rejected reason => exact .rejected ..
  | refused code => exact .refused ..
  | failed reason => exact .failed ..

theorem authenticate_failsWith (k : Config.Credentials) (target : String) :
    (authenticate c k).FailsWith (OfClient c target) := by
  unfold authenticate
  split
  · exact .failed ..
  · refine ⟨fun _ => .failed .., fun _ => .failed .., fun answer => ?_⟩
    show (Talk.FailsWith _ (if _ then _ else if _ then _ else _))
    split
    · exact .failed ..
    · split
      · exact .rejected ..
      · trivial

theorem negotiate_failsWith (target : String) : (negotiate c).FailsWith (OfClient c target) := by
  refine ⟨fun _ => .failed .., fun _ => .failed .., fun choice => ?_⟩
  show (Talk.FailsWith _ (if _ then _ else if _ then _ else if _ then _ else _))
  split
  · exact .failed ..
  · split
    · trivial
    · split
      · exact .rejected ..
      · split
        · split
          · exact authenticate_failsWith c _ target
          · exact .failed ..
        · exact .failed ..

theorem skipBoundAddress_failsWith (addressType : UInt8) (target : String) :
    (skipBoundAddress c addressType).FailsWith (OfClient c target) := by
  unfold skipBoundAddress
  split
  · exact ⟨fun _ => .failed .., fun _ => trivial⟩
  · split
    · exact ⟨fun _ => .failed .., fun _ => trivial⟩
    · split
      · exact ⟨fun _ => .failed .., fun _ => ⟨fun _ => .failed .., fun _ => trivial⟩⟩
      · exact .failed ..

theorem connect_failsWith (target : String) (destination : HostPort) :
    (connect c target destination).FailsWith (OfClient c target) := by
  unfold connect
  split
  · exact .failed ..
  · refine ⟨fun _ => .failed .., fun _ => .failed .., fun answer => ?_⟩
    show (Talk.FailsWith _ (if _ then _ else if _ then _ else _))
    split
    · exact .failed ..
    · split
      · exact .refused ..
      · exact skipBoundAddress_failsWith c _ target

/-- The negotiation fails at the client's proxy, or because the target is no address. -/
theorem handshake_failsWith (target : String) :
    (handshake c target).FailsWith fun e => OfClient c target e ∨ splitTarget target = .error e := by
  unfold handshake
  split
  · next e he => exact .inr he
  · next destination _ =>
    have hproxy := Talk.bind_failsWith (negotiate_failsWith c target) fun _ =>
      connect_failsWith c target destination
    exact hproxy.mono fun _ => .inl

end Socks5

/-! ## Tunnels -/

namespace Tunnel

variable {t : Tunnel} {d : Direct} {net : Network} {network target : String}

/-- A negotiation fails at the proxy, or because the target is no address. -/
theorem talk_fails {p : Peer} {e : DialFailure} (h : ((t.talk target).run p).result = .error e) :
    OfNegotiation e ∨ splitTarget target = .error e := by
  unfold talk at h
  cases hprotocol : t.protocol with
  | socks5 =>
    rw [hprotocol] at h
    have hfailure := Talk.error_of_failsWith (Socks5.handshake_failsWith t.client target) h
    exact hfailure.imp_left (Socks5.OfClient.ofNegotiation t.client)
  | http =>
    rw [hprotocol] at h
    obtain ⟨reason, rfl⟩ :=
      Talk.error_of_failsWith (HttpConnect.handshake_failsWith t.client target) h
    exact .inl (.failed ..)

/-- A talk that ends over a connection has the result of its run. -/
theorem run_of_endsAt {route : Route} {talk : Talk DialFailure Unit} {time : Nat} {e : DialFailure}
    (h : (route.run talk).EndsAt time (.error e)) : (talk.run route.peer).result = .error e := by
  unfold Route.run EndsAt waiting at h
  obtain ⟨arrived, -, heq⟩ := Option.map_eq_some_iff.1 h
  obtain ⟨-, hresult⟩ := Prod.mk.inj heq
  cases hr : (talk.run route.peer).result with
  | ok x => simp [hr, Except.map] at hresult
  | error e' =>
    rw [hr] at hresult
    exact congrArg Except.error (Except.error.inj hresult)

theorem precheck_fails {e : DialFailure} (h : t.precheck network target = .error e) :
    OfConnection e := by
  unfold precheck at h
  cases hfamily : checkNetwork network with
  | error e' =>
    rw [hfamily] at h
    obtain rfl := Except.error.inj h
    exact checkNetwork_fails hfamily
  | ok family =>
    rw [hfamily] at h
    cases hprotocol : t.protocol with
    | socks5 => simp [hprotocol, Bind.bind, Except.bind, Pure.pure, Except.pure] at h
    | http =>
      cases htarget : splitTarget target with
      | error e' =>
        simp only [hprotocol, htarget, Bind.bind, Except.bind, Except.error.injEq] at h
        obtain rfl := h
        exact splitTarget_fails htarget
      | ok _ => simp [hprotocol, htarget, Bind.bind, Except.bind, Pure.pure, Except.pure] at h

/-- The negotiation with a proxy ends with what it came to, or its deadline expires, also if it is zero. -/
theorem negotiate_endsAt_iff {time : Nat} {route : Route}
    {r : Except DialFailure Route} : (t.negotiate target route).EndsAt time r ↔
    (∃ x, (route.run (t.talk target)).EndsAt time x ∧ time ≤ t.client.handshakeTimeout.toNanos ∧
      r = x.map Prod.snd) ∨
    time = t.client.handshakeTimeout.toNanos ∧ (route.run (t.talk target)).PendingAt time ∧
      r = .error t.handshakeTimedOut := by
  unfold negotiate
  rw [endsAt_map_iff]
  constructor
  · rintro ⟨ended, hended, rfl⟩
    cases ended with
    | none =>
      obtain ⟨rfl, hpending⟩ := endsAt_within_none_iff.1 hended
      exact .inr ⟨rfl, hpending, rfl⟩
    | some x =>
      obtain ⟨hx, hle⟩ := endsAt_within_some_iff.1 hended
      exact .inl ⟨x, hx, hle, rfl⟩
  · rintro (⟨x, hx, hle, rfl⟩ | ⟨rfl, hpending, rfl⟩)
    · exact ⟨some x, endsAt_within_some_iff.2 ⟨hx, hle⟩, rfl⟩
    · exact ⟨none, endsAt_within_none_iff.2 ⟨rfl, hpending⟩, rfl⟩

/-- How a tunnel fails: before the proxy is dialled, with the dial to it, or in the negotiation,
which its own deadline may cut short. -/
theorem connect_failure_cases {time : Nat} {e : DialFailure}
    (h : (t.connect d net network target).EndsAt time (.error e)) :
    (time = 0 ∧ t.precheck network target = .error e) ∨
      (∃ cause, (d.connect net t.client.network t.client.address).EndsAt time (.error cause) ∧
        e = t.unreachable cause) ∨
      ∃ start route, (d.connect net t.client.network t.client.address).EndsAt start (.ok route) ∧
        ((∃ spent, (route.run (t.talk target)).EndsAt spent (.error e) ∧ time = start + spent) ∨
          (time = start + t.client.handshakeTimeout.toNanos ∧ e = t.handshakeTimedOut ∧
            (route.run (t.talk target)).PendingAt t.client.handshakeTimeout.toNanos)) := by
  unfold connect at h
  cases hcheck : t.precheck network target with
  | error e' =>
    rw [hcheck] at h
    obtain ⟨rfl, he⟩ := endsAt_now_iff.1 h
    obtain rfl := Except.error.inj he
    exact .inl ⟨rfl, rfl⟩
  | ok _ =>
    rw [hcheck] at h
    rcases endsAt_andThen_error_iff.1 h with hreach | ⟨start, route, spent, hreach, htalk, rfl⟩
    · -- the proxy was not reached
      obtain ⟨r, hr, he⟩ := endsAt_map_iff.1 hreach
      cases r with
      | ok route => cases he
      | error cause => exact .inr (.inl ⟨cause, hr, Except.error.inj he⟩)
    · -- it was, and the negotiation failed or was cut short
      obtain ⟨r, hr, he⟩ := endsAt_map_iff.1 hreach
      cases r with
      | error cause => cases he
      | ok route' =>
        obtain rfl := Except.ok.inj he
        refine .inr (.inr ⟨start, route, hr, ?_⟩)
        rcases negotiate_endsAt_iff.1 htalk with ⟨x, hends, -, he⟩ | ⟨rfl, hpending, he⟩
        · cases x with
          | ok x => cases he
          | error e' =>
            obtain rfl := Except.error.inj he
            exact .inl ⟨spent, hends, rfl⟩
        · exact .inr ⟨rfl, Except.error.inj he, hpending⟩

/-- A tunnel is pending while the proxy is dialled, and then while the negotiation goes on and its
deadline has not expired. -/
theorem pendingAt_connect_iff {time : Nat} :
    (t.connect d net network target).PendingAt time ↔ t.precheck network target = .ok () ∧
      ((d.connect net t.client.network t.client.address).PendingAt time ∨
        ∃ start route, start ≤ time ∧
          (d.connect net t.client.network t.client.address).EndsAt start (.ok route) ∧
          time - start < t.client.handshakeTimeout.toNanos ∧
          (route.run (t.talk target)).PendingAt (time - start)) := by
  unfold connect
  cases hcheck : t.precheck network target with
  | error e =>
    simp only [reduceCtorEq, false_and, iff_false]
    exact not_pendingAt_now _ _
  | ok _ =>
    simp only [true_and]
    rw [pendingAt_andThen_iff, pendingAt_map_iff]
    apply or_congr_right
    constructor
    · rintro ⟨start, route, hreach, hle, hpending⟩
      obtain ⟨r, hr, heq⟩ := endsAt_map_iff.1 hreach
      cases r with
      | error cause => cases heq
      | ok route' =>
        obtain rfl := Except.ok.inj heq
        rw [negotiate, pendingAt_map_iff, pendingAt_within_iff] at hpending
        exact ⟨start, route, hle, hr, hpending⟩
    · rintro ⟨start, route, hle, hr, hpending⟩
      refine ⟨start, route, endsAt_map_iff.2 ⟨_, hr, rfl⟩, hle, ?_⟩
      rw [negotiate, pendingAt_map_iff, pendingAt_within_iff]
      exact hpending

/-- A dial to the proxy that fails is the failure of the tunnel. -/
theorem connect_unreachable {time : Nat} {cause : DialFailure}
    (hcheck : t.precheck network target = .ok ())
    (h : (d.connect net t.client.network t.client.address).EndsAt time (.error cause)) :
    (t.connect d net network target).EndsAt time (.error (t.unreachable cause)) := by
  simp only [connect, hcheck]
  exact endsAt_andThen_error_iff.2 (.inl (endsAt_map_iff.2 ⟨_, h, rfl⟩))

/-- A negotiation that is pending when its deadline expires times out there. -/
theorem connect_times_out {start : Nat} {route : Route}
    (hcheck : t.precheck network target = .ok ())
    (hreach : (d.connect net t.client.network t.client.address).EndsAt start (.ok route))
    (hpending : (route.run (t.talk target)).PendingAt t.client.handshakeTimeout.toNanos) :
    (t.connect d net network target).EndsAt (start + t.client.handshakeTimeout.toNanos)
      (.error t.handshakeTimedOut) := by
  simp only [connect, hcheck]
  refine endsAt_andThen_error_iff.2 (.inr ⟨start, route, _, ?_, ?_, rfl⟩)
  · exact endsAt_map_iff.2 ⟨_, hreach, rfl⟩
  · exact negotiate_endsAt_iff.2 (.inr ⟨rfl, hpending, rfl⟩)

/-- A tunnel never fails as TLS does. -/
theorem connect_fails {time : Nat} {e : DialFailure}
    (h : (t.connect d net network target).EndsAt time (.error e)) :
    ∀ address reason, e ≠ .tlsHandshakeFailed address reason := by
  rcases connect_failure_cases h with
    ⟨-, hcheck⟩ | ⟨cause, -, rfl⟩ | ⟨start, route, -, ⟨spent, htalk, -⟩ | ⟨-, rfl, -⟩⟩
  · exact (precheck_fails hcheck).2
  · nofun
  · rcases talk_fails (run_of_endsAt htalk) with hproxy | hsplit
    · rintro address reason rfl
      cases hproxy
    · exact (splitTarget_fails hsplit).2
  · nofun

end Tunnel

/-! ## TLS over the layers below -/

namespace Chain

variable {c : Chain} {net : Network} {network address : String}

theorem serverName_fails {e : DialFailure} (h : serverName address = .error e) :
    e = .invalidAddress address := by
  unfold serverName at h
  cases htarget : splitTarget address with
  | error e' =>
    rw [htarget] at h
    obtain rfl := Except.error.inj h
    exact splitTarget_eq_error htarget
  | ok target =>
    rw [htarget] at h
    change (if ServerName.isValid target.host then Except.ok target.host
      else Except.error (.invalidAddress address)) = .error e at h
    split at h
    · cases h
    · exact (Except.error.inj h).symm

theorem handshake_fails {tls : Tls.ClientSettings} {name : List Char} {left : Option Nat}
    {route : Route} {time : Nat} {e : DialFailure}
    (h : (handshake net tls address name left route).EndsAt time (.error e)) :
    ∃ reason, e = .tlsHandshakeFailed address reason := by
  unfold handshake at h
  cases left with
  | none =>
    obtain ⟨r, -, he⟩ := endsAt_map_iff.1 h
    cases r with
    | ok session => cases he
    | error reason => exact ⟨reason, Except.error.inj he⟩
  | some limit =>
    obtain ⟨r, -, he⟩ := endsAt_map_iff.1 h
    rcases r with _ | ⟨reason⟩ | ⟨session⟩
    · exact ⟨_, Except.error.inj he⟩
    · exact ⟨reason, Except.error.inj he⟩
    · cases he

/-- How a dial fails: on an address that TLS cannot check, in the layers below TLS, or under TLS;
there its deadline may expire while the layers below are at work. -/
theorem dial_failure_cases {time : Nat} {e : DialFailure}
    (h : (c.dial net network address).EndsAt time (.error e)) :
    (c.connect net network address).EndsAt time (.error e) ∨
      ∃ tls, c.tls = some tls ∧
        (serverName address = .error e ∨
          (time = tls.handshakeTimeout.toNanos ∧ e = c.connectExceeded address tls.handshakeTimeout ∧
            (c.connect net network address).PendingAt time) ∨
          ∃ start route reason, start ≤ time ∧ e = .tlsHandshakeFailed address reason ∧
            (c.connect net network address).EndsAt start (.ok route)) := by
  unfold dial at h
  cases htls : c.tls with
  | none =>
    rw [htls] at h
    obtain ⟨r, hr, he⟩ := endsAt_map_iff.1 h
    cases r with
    | ok route => cases he
    | error e' =>
      obtain rfl := Except.error.inj he
      exact .inl hr
  | some tls =>
    simp only [htls, dialSecured] at h
    cases hname : serverName address with
    | error e' =>
      rw [hname] at h
      obtain ⟨-, he⟩ := endsAt_now_iff.1 h
      obtain rfl := Except.error.inj he
      exact .inr ⟨tls, rfl, .inl rfl⟩
    | ok name =>
      simp only [hname] at h
      by_cases hzero : tls.handshakeTimeout.isZero = true
      · -- a zero deadline is none, so only the layers can fail
        rw [if_pos hzero] at h
        rcases endsAt_andThen_error_iff.1 h with hbelow | ⟨start, route, spent, hbelow, hsecure, rfl⟩
        · exact .inl hbelow
        · obtain ⟨reason, rfl⟩ := handshake_fails hsecure
          exact .inr ⟨tls, rfl, .inr (.inr ⟨start, route, reason, Nat.le_add_right .., rfl, hbelow⟩)⟩
      · -- the layers below are cut short, fail in time, or leave the rest of the deadline to TLS
        rw [if_neg hzero] at h
        obtain ⟨start, r, spent, hr, hnext, rfl⟩ := endsAt_bind_iff.1 h
        rcases r with _ | ⟨e'⟩ | ⟨route⟩
        · obtain ⟨rfl, hpending⟩ := endsAt_within_none_iff.1 hr
          obtain ⟨rfl, he⟩ := endsAt_now_iff.1 hnext
          rw [Nat.add_zero]
          exact .inr ⟨tls, rfl, .inr (.inl ⟨rfl, Except.error.inj he, hpending⟩)⟩
        · obtain ⟨hbelow, -⟩ := endsAt_within_some_iff.1 hr
          obtain ⟨rfl, he⟩ := endsAt_now_iff.1 hnext
          obtain rfl := Except.error.inj he
          exact .inl hbelow
        · obtain ⟨hbelow, -⟩ := endsAt_within_some_iff.1 hr
          obtain ⟨reason, rfl⟩ := handshake_fails hnext
          exact .inr ⟨tls, rfl, .inr (.inr ⟨start, route, reason, Nat.le_add_right .., rfl, hbelow⟩)⟩

/-- TLS, where it is on, lets the layers below start. -/
def Starts (c : Chain) (address : String) : Prop :=
  c.tls = none ∨ ∃ name, serverName address = .ok name

/-- An address that TLS cannot check is refused before anything is dialled. -/
theorem dial_of_not_starts (h : ¬c.Starts address) :
    c.dial net network address = now (.error (.invalidAddress address)) := by
  cases htls : c.tls with
  | none => exact absurd (.inl htls) h
  | some tls =>
    simp only [dial, htls, dialSecured]
    cases hname : serverName address with
    | ok name => exact absurd (.inr ⟨name, hname⟩) h
    | error e => rw [serverName_fails hname]

/-- Until the TLS deadline, a failure below TLS is the failure of the dial. -/
theorem dial_of_connect_failure {time : Nat} {e : DialFailure} (hstarts : c.Starts address)
    (h : (c.connect net network address).EndsAt time (.error e))
    (hlimit : ∀ tls, c.tls = some tls → tls.handshakeTimeout.isZero = false →
      time ≤ tls.handshakeTimeout.toNanos) :
    (c.dial net network address).EndsAt time (.error e) := by
  unfold dial
  cases htls : c.tls with
  | none => exact endsAt_map_iff.2 ⟨_, h, rfl⟩
  | some tls =>
    obtain ⟨name, hname⟩ := hstarts.resolve_left (by simp [htls])
    simp only [dialSecured, hname]
    cases hzero : tls.handshakeTimeout.isZero with
    | true => exact endsAt_andThen_error_iff.2 (.inl h)
    | false =>
      have hcut := endsAt_within_some_iff.2 ⟨h, hlimit tls htls hzero⟩
      exact endsAt_bind_iff.2 ⟨time, _, 0, hcut, rfl, (Nat.add_zero _).symm⟩

/-- When the TLS deadline expires while the layers below are at work, they name the failure. -/
theorem dial_exceeded {tls : Tls.ClientSettings} (htls : c.tls = some tls)
    (hzero : tls.handshakeTimeout.isZero = false) (hstarts : c.Starts address)
    (hpending : (c.connect net network address).PendingAt tls.handshakeTimeout.toNanos) :
    (c.dial net network address).EndsAt tls.handshakeTimeout.toNanos
      (.error (c.connectExceeded address tls.handshakeTimeout)) := by
  obtain ⟨name, hname⟩ := hstarts.resolve_left (by simp [htls])
  simp only [dial, htls, dialSecured, hname, hzero]
  have hcut := endsAt_within_none_iff.2 ⟨rfl, hpending⟩
  exact endsAt_bind_iff.2 ⟨_, none, 0, hcut, rfl, (Nat.add_zero _).symm⟩

/-- When the TLS deadline expires during the handshake, TLS names the failure. -/
theorem dial_handshake_exceeded {tls : Tls.ClientSettings} {name : List Char} {start : Nat}
    {route : Route} (htls : c.tls = some tls) (hzero : tls.handshakeTimeout.isZero = false)
    (hname : serverName address = .ok name)
    (hbelow : (c.connect net network address).EndsAt start (.ok route))
    (hle : start ≤ tls.handshakeTimeout.toNanos)
    (hpending : (Activity.waiting (net.secure tls name route)).PendingAt
      (tls.handshakeTimeout.toNanos - start)) :
    (c.dial net network address).EndsAt tls.handshakeTimeout.toNanos
      (.error (.tlsHandshakeFailed address ("timed out after " ++ tls.handshakeTimeout.text))) := by
  have hspent : ((c.connect net network address).ended.map Prod.fst).getD 0 = start := by
    rw [show (c.connect net network address).ended = some (start, .ok route) from hbelow]
    rfl
  simp only [dial, htls, dialSecured, hname, hzero, hspent]
  have hcut := endsAt_within_some_iff.2 ⟨hbelow, hle⟩
  refine endsAt_bind_iff.2 ⟨start, _, tls.handshakeTimeout.toNanos - start, hcut, ?_, by omega⟩
  exact endsAt_map_iff.2 ⟨none, endsAt_within_none_iff.2 ⟨rfl, hpending⟩, rfl⟩

end Chain

end BrokerRelay.Dial
