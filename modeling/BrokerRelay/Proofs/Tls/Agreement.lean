import BrokerRelay.Proofs.Tls.Parameters
import BrokerRelay.Proofs.Tls.Policy
/-!
# Both sides of the relay read their key material alike

The settings of a listener and of a client are built by two rows of steps that share their middle:
the names of suites and curves are resolved, the identity is loaded from its two files, and its key is
checked against its certificate. Each of these steps can fail, and several can be bound to fail at
once; the order of the rows decides which failure is reported.

`shared` is that middle alone. When neither side has a CA chain to read, each side comes to what
`shared` comes to, with its own policy put beside it (`listener_echoes`, `client_echoes`), so the
sides fail together and alike. Beyond what `shared` logs each side logs only in its own name.
-/

namespace BrokerRelay.Tls

variable {storage : Storage} {env : Environment} {path : String}

/-! ## What loading logs -/

theorem collectCertificates_appends {ε : Type} (sections : List Pem.Section) :
    (collectCertificates path sections : Logged ε (List Bytes)).Appends (LogEvent.Says .keyFiles) := by
  induction sections with
  | nil => exact .pure _
  | cons s rest ih =>
    cases s with
    | malformed reason => exact .bind (.event rfl) fun _ => ih
    | item kind der =>
      cases kind with
      | certificate => exact .bind ih fun _ => .pure _
      | _ => exact ih

theorem certificatesOf_appends (text : Bytes) :
    (certificatesOf path text).Appends (LogEvent.Says .keyFiles) := by
  refine .bind (collectCertificates_appends _) fun certificates => ?_
  refine .ite (.bind (.throw _) fun _ => ?_) ?_
  · exact .bind (.event rfl) fun _ => .pure _
  · exact .bind (.event rfl) fun _ => .pure _

theorem privateKeyOf_appends (text : Bytes) :
    (privateKeyOf path text).Appends (LogEvent.Says .keyFiles) :=
  .bind (.ofExcept _) fun _ => .bind (.event rfl) fun _ => .pure _

/-- Loading an identity says nothing in another name than that of the key files. -/
theorem Identity.load_appends (storage : Storage) (certPath keyPath password : String) :
    (Identity.load storage certPath keyPath password).Appends (LogEvent.Says .keyFiles) := by
  refine .bind (.ofExcept _) fun certText => .bind (.ofExcept _) fun sealed => ?_
  refine .bind (.ofExcept _) fun keyText => .bind (certificatesOf_appends certText) fun chain => ?_
  exact .bind (privateKeyOf_appends keyText) fun _ => .pure _

/-! ## The shared steps -/

/-- The steps that both builders have in common: parameters, identity, and the check of the key. -/
def shared (storage : Storage) (env : Environment) (l : Config.ListenerTls) :
    Logged TlsFailure (Parameters × Identity) := do
  let parameters ← Parameters.resolve l.cipherSuites l.curves
  let identity ← Identity.load storage l.certPath l.keyPath (l.password env)
  Logged.ofExcept identity.check
  pure (parameters, identity)

/-- A listener and a client are to use one key pair and the same parameters, and neither reads a CA
chain: the listener because none is stated, the client for that reason or because it checks nothing. -/
structure Counterparts (env : Environment) (l : Config.ListenerTls) (c : Config.ClientTls) : Prop where
  certPath : Stated c.certPath l.certPath
  keyPath : Stated c.keyPath l.keyPath
  password : c.password env = l.password env
  cipherSuites : c.cipherSuites = l.cipherSuites
  curves : c.curves = l.curves
  unasked : ∀ path, ¬Stated l.caChainPath path
  chainUnread : c.skipVerify = true ∨ ∀ path, ¬Stated c.caChainPath path

variable {l : Config.ListenerTls} {c : Config.ClientTls}

/-- A listener without a CA chain echoes the shared steps: beside what they come to it has its policy,
and it logs only in its own name. -/
theorem listener_echoes (storage : Storage) (hcert : l.certPath ≠ "") (hkey : l.keyPath ≠ "")
    (hunasked : ∀ path, ¬Stated l.caChainPath path) :
    Logged.Echoes .listenerTls (fun p => ⟨p.1, p.2, .none, true⟩) (shared storage env l)
      (ListenerSettings.build storage env l) := by
  have hchain : l.caChain = none := nonEmpty_eq_none_iff.2 hunasked
  have hpaths : ¬(l.certPath.isEmpty || l.keyPath.isEmpty) = true := by
    simp [hcert, hkey]
  unfold ListenerSettings.build
  rw [if_neg hpaths, hchain]
  refine .bind (.of_appends (Parameters.resolve_appends _ _)) fun parameters => ?_
  refine .bind (.of_appends (Identity.load_appends _ _ _ _)) fun identity => ?_
  unfold ClientAuth.load
  rw [bind_assoc]
  refine .event_bind rfl ?_
  rw [pure_bind]
  exact .bind (.ofExcept _) fun _ => .event_bind rfl (.pure _)

/-- A client with both paths loads its identity, and says so. -/
theorem loadIdentity_of_stated {certPath keyPath : String} (hcert : Stated c.certPath certPath)
    (hkey : Stated c.keyPath keyPath) :
    ClientSettings.loadIdentity storage env c = (do
      Logged.event ⟨.debug, .clientTls, "loading client certificate for mTLS", []⟩
      let identity ← Identity.load storage certPath keyPath (c.password env)
      pure (some identity)) := by
  unfold ClientSettings.loadIdentity
  rw [keyPair_eq_some_iff.2 ⟨hcert, hkey⟩]
  rfl

/-- How a client that reads no CA chain checks the broker. -/
def checkWithoutChain (c : Config.ClientTls) : PeerCheck :=
  if c.skipVerify then .disabled else .bundled

/-- A client that reads no CA chain decides how it checks the broker, and says so. -/
theorem load_of_chainUnread (storage : Storage)
    (h : c.skipVerify = true ∨ ∀ path, ¬Stated c.caChainPath path) :
    ∃ event : LogEvent, event.source = .clientTls ∧
      PeerCheck.load storage c = (do
        Logged.event event
        pure (checkWithoutChain c)) := by
  unfold PeerCheck.load checkWithoutChain
  cases hskip : c.skipVerify with
  | true => exact ⟨_, rfl, rfl⟩
  | false =>
    have hnone : c.caChain = none := by
      refine nonEmpty_eq_none_iff.2 (h.resolve_left ?_)
      rw [hskip]
      exact Bool.false_ne_true
    rw [hnone]
    exact ⟨_, rfl, rfl⟩

/-- A client without a CA chain to read echoes the shared steps of its counterpart: beside what they
come to it has its policy, and it logs only in its own name. -/
theorem client_echoes (storage : Storage) (h : Counterparts env l c) :
    Logged.Echoes .clientTls
      (fun p => ⟨p.1, some p.2, checkWithoutChain c, c.handshakeTimeout⟩)
      (shared storage env l) (ClientSettings.build storage env c) := by
  obtain ⟨event, hsource, hpeer⟩ := load_of_chainUnread storage h.chainUnread
  unfold ClientSettings.build
  rw [h.cipherSuites, h.curves, loadIdentity_of_stated h.certPath h.keyPath, h.password, hpeer]
  refine .bind (.of_appends (Parameters.resolve_appends _ _)) fun parameters => ?_
  rw [bind_assoc]
  refine .event_bind rfl ?_
  rw [bind_assoc]
  refine .bind (.of_appends (Identity.load_appends _ _ _ _)) fun identity => ?_
  rw [pure_bind, bind_assoc]
  refine .event_bind hsource ?_
  rw [pure_bind]
  exact .bind (.ofExcept _) fun _ => .pure _

/-! ## Agreement -/

/-- What has resolved parameters has logged the warnings about them, and beside these from the same
source only that there is a provider. -/
theorem eventsOf_ciphers_shared {p : Parameters × Identity}
    (h : (shared storage env l).outcome.1 = .ok p) :
    eventsOf .ciphers (shared storage env l).outcome.2 =
      Provider.warnings p.1.suites p.1.curves ++ [p.1.provider.built] := by
  unfold shared at h ⊢
  simp only [Logged.outcome_fst, Logged.value_bind_eq_ok_iff, Logged.value_ofExcept, Logged.value_pure,
    Except.ok.injEq] at h
  obtain ⟨parameters, hparameters, identity, hidentity, _, hcheck, rfl⟩ := h
  obtain ⟨_, warned, -, hresolved, hciphers⟩ := Parameters.resolve_appends l.cipherSuites l.curves
  obtain ⟨_, loaded, -, hloaded, hkeyFiles⟩ :=
    Identity.load_appends storage l.certPath l.keyPath (l.password env)
  have hwarnings : warned =
      Provider.warnings parameters.suites parameters.curves ++ [parameters.provider.built] := by
    have hlog := (hresolved []).symm.trans (Parameters.grown_resolve hparameters)
    rwa [List.nil_append, List.nil_append] at hlog
  rw [hresolved, List.nil_append] at hidentity
  simp only [Logged.outcome_snd, Logged.grown_bind, hparameters, hresolved, List.nil_append, hidentity,
    Logged.value_ofExcept, hcheck, Logged.grown_pure, Logged.grown_ofExcept, hloaded]
  rw [eventsOf_append, eventsOf_own hciphers, eventsOf_other (by decide) hkeyFiles, List.append_nil,
    hwarnings]

/-- **The builders of both sides agree.** For a listener and a client that are to use one key pair and
the same parameters, and that read no CA chain:

* building one fails exactly if building the other fails, and with the same failure;
* if both succeed they hold the same parameters (suites, curves and provider) and the same identity,
  and both have logged the same warnings about suites and curves that were left out;
* in any case what they log differs only in what each says in its own name. -/
theorem builders_agree (storage : Storage) (h : Counterparts env l c) :
    (∀ e, (ListenerSettings.build storage env l).outcome.1 = .error e ↔
      (ClientSettings.build storage env c).outcome.1 = .error e) ∧
    (∀ s s', (ListenerSettings.build storage env l).outcome.1 = .ok s →
      (ClientSettings.build storage env c).outcome.1 = .ok s' →
      s'.parameters = s.parameters ∧ s'.identity = some s.identity ∧
      eventsOf .ciphers (ListenerSettings.build storage env l).outcome.2 =
        Provider.warnings s.parameters.suites s.parameters.curves ++
          [s.parameters.provider.built] ∧
      eventsOf .ciphers (ClientSettings.build storage env c).outcome.2 =
        Provider.warnings s.parameters.suites s.parameters.curves ++
          [s.parameters.provider.built]) ∧
    (∀ source, source ≠ .listenerTls → source ≠ .clientTls →
      eventsOf source (ListenerSettings.build storage env l).outcome.2 =
        eventsOf source (ClientSettings.build storage env c).outcome.2) := by
  obtain ⟨hlistener, hsaidByListener⟩ :=
    (listener_echoes storage h.certPath.2 h.keyPath.2 h.unasked).outcome
  obtain ⟨hclient, hsaidByClient⟩ := (client_echoes storage h).outcome
  rw [hlistener, hclient]
  refine ⟨fun e => ?failure, fun s s' hs hs' => ?success, fun source hown hown' => ?log⟩
  case failure =>
    cases (shared storage env l).outcome.1 with
    | ok p => exact ⟨nofun, nofun⟩
    | error e' =>
      show Except.error e' = .error e ↔ Except.error e' = .error e
      rw [Except.error.injEq, Except.error.injEq]
  case success =>
    cases hshared : (shared storage env l).outcome.1 with
    | error e' =>
      rw [hshared] at hs
      cases hs
    | ok p =>
      rw [hshared] at hs hs'
      obtain rfl := Except.ok.inj hs
      obtain rfl := Except.ok.inj hs'
      have hwarned := eventsOf_ciphers_shared hshared
      refine ⟨rfl, rfl, ?_, ?_⟩
      · exact (hsaidByListener .ciphers (by decide)).trans hwarned
      · exact (hsaidByClient .ciphers (by decide)).trans hwarned
  case log => exact (hsaidByListener source hown).trans (hsaidByClient source hown').symm

/-! ### One key pair for both sides -/

/-- A listener that asks no one for certificates, with a curve that the backend lacks. -/
def openListener : Config.ListenerTls :=
  { Config.ListenerTls.default with
    certPath := "relay.pem", keyPath := "key.pem", curves := ["P521", "P256"] }

/-- A client that shows the same certificate and checks the broker against the bundled roots. -/
def matchingClient : Config.ClientTls :=
  { Config.ClientTls.default with
    certPath := some "relay.pem", keyPath := some "key.pem", curves := ["P521", "P256"] }

/-- With its files both sides are built alike and both warn of the curve; without them both fail
alike. -/
theorem builders_agree_with_one_key_pair :
    Counterparts .empty openListener matchingClient ∧
    (∃ s s', (ListenerSettings.build relayFiles.storage .empty openListener).outcome.1 = .ok s ∧
      (ClientSettings.build relayFiles.storage .empty matchingClient).outcome.1 = .ok s' ∧
      s'.parameters = s.parameters ∧ s'.identity = some s.identity) ∧
    Provider.curveSkipped ⟨0x19⟩ ∈ eventsOf .ciphers
      (ClientSettings.build relayFiles.storage .empty matchingClient).outcome.2 ∧
    (ClientSettings.build (FileTree.ofList []).storage .empty matchingClient).outcome.1 =
      .error (.unreadable "relay.pem" .notFound) := by
  have hcounterparts : Counterparts .empty openListener matchingClient :=
    ⟨⟨rfl, by decide⟩, ⟨rfl, by decide⟩, rfl, rfl, rfl, nofun, .inr nofun⟩
  obtain ⟨hfailure, hsuccess, hlog⟩ := builders_agree relayFiles.storage hcounterparts
  refine ⟨hcounterparts, ?_, ?_, ?_⟩
  · have hbuilt :
        (ListenerSettings.build relayFiles.storage .empty openListener).outcome.1.toBool = true := by
      decide +kernel
    cases hs : (ListenerSettings.build relayFiles.storage .empty openListener).outcome.1 with
    | error e => rw [hs] at hbuilt; cases hbuilt
    | ok s =>
      -- a client that failed would have failed the listener
      cases hs' : (ClientSettings.build relayFiles.storage .empty matchingClient).outcome.1 with
      | error e => exact absurd (hs.symm.trans ((hfailure e).2 hs')) nofun
      | ok s' =>
        obtain ⟨hparameters, hidentity, -⟩ := hsuccess s s' hs hs'
        exact ⟨s, s', rfl, rfl, hparameters, hidentity⟩
  · rw [← hlog .ciphers (by decide) (by decide)]
    decide +kernel
  · have hmissing : (ListenerSettings.build (FileTree.ofList []).storage .empty openListener).outcome.1 =
        .error (.unreadable "relay.pem" .notFound) := by decide +kernel
    exact ((builders_agree (FileTree.ofList []).storage hcounterparts).1 _).1 hmissing

end BrokerRelay.Tls
