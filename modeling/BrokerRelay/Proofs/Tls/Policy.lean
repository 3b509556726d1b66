import BrokerRelay.Proofs.Tls.Trust
import BrokerRelay.Tls.Settings
/-!
# The trust policy of TLS settings

Settings are built or refused. What they are if they are built is said here once for each side, as a
structure with one field for each part of the policy, and building is shown to succeed exactly with
settings of this form. `trust_policy_kept` reads the policy off, in terms of the configuration as it
was written and of the texts of the files: nothing that is missing, unreadable or malformed ever
weakens it.
-/

namespace BrokerRelay.Tls

variable {storage : Storage} {env : Environment} {log : List LogEvent}

/-! ## Paths as they are written -/

/-- A path is stated and not empty. -/
def Stated (field : Option String) (path : String) : Prop := field = some path ∧ path ≠ ""

/-- Only one path can be stated in a field. -/
theorem Stated.unique {field : Option String} {path path' : String} (h : Stated field path)
    (h' : Stated field path') : path = path' :=
  Option.some.inj (h.1.symm.trans h'.1)

theorem nonEmpty_eq_some_iff {field : Option String} {path : String} :
    Config.nonEmpty field = some path ↔ Stated field path := by
  rw [Config.nonEmpty, Option.filter_eq_some_iff, bne_iff_ne]
  exact Iff.rfl

theorem nonEmpty_eq_none_iff {field : Option String} :
    Config.nonEmpty field = none ↔ ∀ path, ¬Stated field path := by
  rw [Option.eq_none_iff_forall_ne_some]
  simp only [ne_eq, nonEmpty_eq_some_iff]

/-- The client has a key pair if both paths are stated. -/
theorem keyPair_eq_some_iff {t : Config.ClientTls} {certPath keyPath : String} :
    t.keyPair = .ok (some (certPath, keyPath)) ↔
      Stated t.certPath certPath ∧ Stated t.keyPath keyPath := by
  rw [← nonEmpty_eq_some_iff, ← nonEmpty_eq_some_iff, Config.ClientTls.keyPair]
  cases Config.nonEmpty t.certPath <;> cases Config.nonEmpty t.keyPath <;> simp

/-- The client has no key pair if neither path is stated. -/
theorem keyPair_eq_none_iff {t : Config.ClientTls} :
    t.keyPair = .ok none ↔
      (∀ path, ¬Stated t.certPath path) ∧ ∀ path, ¬Stated t.keyPath path := by
  rw [← nonEmpty_eq_none_iff, ← nonEmpty_eq_none_iff, Config.ClientTls.keyPair]
  cases Config.nonEmpty t.certPath <;> cases Config.nonEmpty t.keyPath <;> simp

/-! ## Towards clients -/

/-- The policy that the field for the CA chain asks for: certificates are required if a file is
stated, and are checked against exactly its anchors. -/
inductive ClientAuth.Follows (storage : Storage) (field : Option String) : ClientAuth → Prop
  | unasked : (∀ path, ¬Stated field path) → Follows storage field .none
  | required {path : String} {pool : TrustPool} : Stated field path →
      pool.ReadFrom storage path → Follows storage field (.requireAndVerify pool)

theorem ClientAuth.value_load_eq_ok_iff {field : Option String} {auth : ClientAuth} :
    (ClientAuth.load storage (Config.nonEmpty field)).value log = .ok auth ↔
      auth.Follows storage field := by
  cases hfield : Config.nonEmpty field with
  | none =>
    have hnone := nonEmpty_eq_none_iff.1 hfield
    constructor
    · intro h
      obtain rfl := Except.ok.inj h
      exact .unasked hnone
    · rintro (_ | ⟨hstated, -⟩)
      · rfl
      · exact absurd hstated (hnone _)
  | some path =>
    have hstated := nonEmpty_eq_some_iff.1 hfield
    simp only [ClientAuth.load, Logged.value_bind_eq_ok_iff, Logged.value_event,
      TrustPool.value_load_eq_ok_iff, Logged.value_pure, Except.ok.injEq]
    constructor
    · rintro ⟨_, -, pool, hpool, rfl⟩
      exact .required hstated hpool
    · rintro (hnone | @⟨path', pool, hstated', hpool⟩)
      · exact absurd hstated (hnone path)
      · obtain rfl := hstated.unique hstated'
        exact ⟨(), trivial, pool, hpool, rfl⟩

/-- The settings of a listener are those that its configuration asks for. -/
structure ListenerSettings.Follows (s : ListenerSettings) (storage : Storage) (env : Environment)
    (t : Config.ListenerTls) : Prop where
  certPath_ne : t.certPath ≠ ""
  keyPath_ne : t.keyPath ≠ ""
  parameters : (Parameters.resolve t.cipherSuites t.curves).outcome.1 = .ok s.parameters
  identity : s.identity.StandsIn storage t.certPath t.keyPath (t.password env)
  usable : s.identity.check = .ok ()
  clientAuth : s.clientAuth.Follows storage t.caChainPath
  ownOrder : s.ignoreClientOrder = true

/-- A listener's settings are built exactly when they can be as configured. -/
theorem ListenerSettings.outcome_build_eq_ok_iff {t : Config.ListenerTls} {s : ListenerSettings} :
    (ListenerSettings.build storage env t).outcome.1 = .ok s ↔ s.Follows storage env t := by
  simp only [Logged.outcome_fst, ListenerSettings.build, Config.ListenerTls.caChain,
    Logged.value_guard_eq_ok_iff, Logged.value_bind_eq_ok_iff, Logged.value_event,
    Identity.value_load_eq_ok_iff, ClientAuth.value_load_eq_ok_iff, Logged.value_ofExcept,
    Logged.value_pure, Except.ok.injEq, Bool.or_eq_true, String.isEmpty_iff, not_or]
  constructor
  · rintro ⟨⟨hcert, hkey⟩, p, hp, i, hi, auth, hauth, _, hcheck, _, -, rfl⟩
    exact ⟨hcert, hkey, hp, hi, hcheck, hauth, rfl⟩
  · rintro ⟨hcert, hkey, hp, hi, hcheck, hauth, horder⟩
    refine ⟨⟨hcert, hkey⟩, _, hp, _, hi, _, hauth, (), hcheck, (), trivial, ?_⟩
    cases s
    rw [← horder]

/-! ## Towards the broker -/

/-- The check that a configuration asks for: none if it says so, and otherwise against exactly the
anchors of the stated CA chain, or the bundled roots where none is stated. -/
inductive PeerCheck.Follows (storage : Storage) (t : Config.ClientTls) : PeerCheck → Prop
  | disabled : t.skipVerify = true → Follows storage t .disabled
  | bundled : t.skipVerify = false → (∀ path, ¬Stated t.caChainPath path) →
      Follows storage t .bundled
  | anchored {path : String} {pool : TrustPool} : t.skipVerify = false →
      Stated t.caChainPath path → pool.ReadFrom storage path → Follows storage t (.anchored pool)

theorem PeerCheck.value_load_eq_ok_iff {t : Config.ClientTls} {check : PeerCheck} :
    (PeerCheck.load storage t).value log = .ok check ↔ check.Follows storage t := by
  rw [PeerCheck.load]
  cases hskip : t.skipVerify with
  | true =>
    constructor
    · intro h
      obtain rfl := Except.ok.inj h
      exact .disabled hskip
    · rintro (_ | ⟨hcheck, -⟩ | ⟨hcheck, -, -⟩)
      · rfl
      · exact absurd (hskip.symm.trans hcheck) (by decide)
      · exact absurd (hskip.symm.trans hcheck) (by decide)
  | false =>
    cases hfield : t.caChain with
    | none =>
      have hnone := nonEmpty_eq_none_iff.1 hfield
      constructor
      · intro h
        obtain rfl := Except.ok.inj h
        exact .bundled hskip hnone
      · rintro (hskip' | _ | ⟨-, hstated, -⟩)
        · exact absurd (hskip.symm.trans hskip') (by decide)
        · rfl
        · exact absurd hstated (hnone _)
    | some path =>
      have hstated := nonEmpty_eq_some_iff.1 hfield
      simp only [Bool.false_eq_true, if_false, Logged.value_bind_eq_ok_iff,
        TrustPool.value_load_eq_ok_iff, Logged.value_pure, Except.ok.injEq]
      constructor
      · rintro ⟨pool, hpool, rfl⟩
        exact .anchored hskip hstated hpool
      · rintro (hskip' | ⟨-, hnone⟩ | @⟨path', pool, -, hstated', hpool⟩)
        · exact absurd (hskip.symm.trans hskip') (by decide)
        · exact absurd hstated (hnone path)
        · obtain rfl := hstated.unique hstated'
          exact ⟨pool, hpool, rfl⟩

/-- The identity that a configuration asks for: the one that stands in the stated files, or none if
neither file is stated. -/
inductive Identity.Follows (storage : Storage) (env : Environment) (t : Config.ClientTls) :
    Option Identity → Prop
  | missing : (∀ path, ¬Stated t.certPath path) → (∀ path, ¬Stated t.keyPath path) →
      Follows storage env t none
  | loaded {certPath keyPath : String} {identity : Identity} : Stated t.certPath certPath →
      Stated t.keyPath keyPath → identity.StandsIn storage certPath keyPath (t.password env) →
      Follows storage env t (some identity)

theorem ClientSettings.value_loadIdentity_eq_ok_iff {t : Config.ClientTls}
    {identity : Option Identity} :
    (ClientSettings.loadIdentity storage env t).value log = .ok identity ↔
      Identity.Follows storage env t identity := by
  simp only [ClientSettings.loadIdentity, Logged.value_bind_eq_ok_iff, Logged.value_ofExcept,
    mapError_eq_ok_iff]
  constructor
  · rintro ⟨pair, hpair, h⟩
    rcases pair with _ | ⟨certPath, keyPath⟩
    · obtain ⟨hcert, hkey⟩ := keyPair_eq_none_iff.1 hpair
      obtain rfl := Except.ok.inj h
      exact .missing hcert hkey
    · obtain ⟨hcert, hkey⟩ := keyPair_eq_some_iff.1 hpair
      simp only [Logged.value_bind_eq_ok_iff, Identity.value_load_eq_ok_iff, Logged.value_pure,
        Except.ok.injEq] at h
      obtain ⟨_, -, i, hi, rfl⟩ := h
      exact .loaded hcert hkey hi
  · rintro (⟨hcert, hkey⟩ | ⟨hcert, hkey, hi⟩)
    · exact ⟨none, keyPair_eq_none_iff.2 ⟨hcert, hkey⟩, rfl⟩
    · refine ⟨_, keyPair_eq_some_iff.2 ⟨hcert, hkey⟩, ?_⟩
      simp only [Logged.value_bind_eq_ok_iff, Identity.value_load_eq_ok_iff, Logged.value_event,
        Logged.value_pure, Except.ok.injEq]
      exact ⟨(), trivial, _, hi, rfl⟩

/-- The settings of a client are those that its configuration asks for. -/
structure ClientSettings.Follows (s : ClientSettings) (storage : Storage) (env : Environment)
    (t : Config.ClientTls) : Prop where
  parameters : (Parameters.resolve t.cipherSuites t.curves).outcome.1 = .ok s.parameters
  identity : Identity.Follows storage env t s.identity
  usable : ∀ i, s.identity = some i → i.check = .ok ()
  peerCheck : s.peerCheck.Follows storage t
  deadline : s.handshakeTimeout = t.handshakeTimeout

/-- A client's settings are built exactly when they can be as configured. -/
theorem ClientSettings.outcome_build_eq_ok_iff {t : Config.ClientTls} {s : ClientSettings} :
    (ClientSettings.build storage env t).outcome.1 = .ok s ↔ s.Follows storage env t := by
  simp only [Logged.outcome_fst, ClientSettings.build, Logged.value_bind_eq_ok_iff,
    ClientSettings.value_loadIdentity_eq_ok_iff, PeerCheck.value_load_eq_ok_iff]
  constructor
  · rintro ⟨p, hp, identity, hi, check, hcheck, h⟩
    cases identity with
    | none =>
      obtain rfl := Except.ok.inj h
      refine ⟨hp, hi, ?_, hcheck, rfl⟩
      rintro _ ⟨⟩
    | some i =>
      simp only [Logged.value_bind_eq_ok_iff, Logged.value_ofExcept, Logged.value_pure,
        Except.ok.injEq] at h
      obtain ⟨_, husable, rfl⟩ := h
      refine ⟨hp, hi, ?_, hcheck, rfl⟩
      rintro _ ⟨⟩
      exact husable
  · intro h
    obtain ⟨p, identity, check, deadline⟩ := s
    refine ⟨p, h.parameters, identity, h.identity, check, h.peerCheck, ?_⟩
    obtain rfl : deadline = t.handshakeTimeout := h.deadline
    cases identity with
    | none => rfl
    | some i =>
      simp only [Logged.value_bind_eq_ok_iff, Logged.value_ofExcept, Logged.value_pure]
      exact ⟨(), h.usable i rfl, trivial⟩

/-! ## The policy -/

/-- Client certificates are required exactly if a CA chain is stated. -/
theorem ClientAuth.Follows.required_iff {auth : ClientAuth} {field : Option String}
    (h : auth.Follows storage field) :
    (∃ pool, auth = .requireAndVerify pool) ↔ ∃ path, Stated field path := by
  cases h with
  | unasked hnone => simp [hnone]
  | required hstated _ => exact ⟨fun _ => ⟨_, hstated⟩, fun _ => ⟨_, rfl⟩⟩

/-- What client certificates are checked against stands in the file of the CA chain. -/
theorem ClientAuth.Follows.readFrom {pool : TrustPool} {field : Option String}
    (h : (ClientAuth.requireAndVerify pool).Follows storage field) :
    ∃ path, Stated field path ∧ pool.ReadFrom storage path := by
  cases h with
  | required hstated hpool => exact ⟨_, hstated, hpool⟩

/-- The broker's certificate goes unchecked exactly if the configuration says so. -/
theorem PeerCheck.Follows.disabled_iff {check : PeerCheck} {t : Config.ClientTls}
    (h : check.Follows storage t) : check = .disabled ↔ t.skipVerify = true := by
  cases h with
  | disabled hskip => simp [hskip]
  | bundled hskip _ => simp [hskip]
  | anchored hskip _ _ => simp [hskip]

/-- The bundled roots are used exactly if the check is on and no CA chain is stated. -/
theorem PeerCheck.Follows.bundled_iff {check : PeerCheck} {t : Config.ClientTls}
    (h : check.Follows storage t) :
    check = .bundled ↔ t.skipVerify = false ∧ ∀ path, ¬Stated t.caChainPath path := by
  cases h with
  | disabled hskip => simp [hskip]
  | bundled hskip hnone => simp [hskip, hnone]
  | anchored hskip hstated _ =>
    constructor
    · nofun
    · rintro ⟨-, hnone⟩
      exact absurd hstated (hnone _)

/-- A stated CA chain replaces the bundled roots by exactly its anchors. -/
theorem PeerCheck.Follows.exists_pool {check : PeerCheck} {t : Config.ClientTls} {path : String}
    (h : check.Follows storage t) (hskip : t.skipVerify = false)
    (hpath : Stated t.caChainPath path) :
    ∃ pool, check = .anchored pool ∧ pool.ReadFrom storage path := by
  cases h with
  | disabled hskip' => exact absurd (hskip.symm.trans hskip') (by decide)
  | bundled _ hnone => exact absurd hpath (hnone path)
  | anchored _ hstated hpool =>
    obtain rfl := hpath.unique hstated
    exact ⟨_, rfl, hpool⟩

/-- There is an identity exactly if both of its files are stated. -/
theorem Identity.Follows.isSome_iff {identity : Option Identity} {t : Config.ClientTls}
    (h : Identity.Follows storage env t identity) :
    identity.isSome = true ↔ (∃ path, Stated t.certPath path) ∧ ∃ path, Stated t.keyPath path := by
  cases h with
  | missing hcert _ => simp [hcert]
  | loaded hcert hkey _ => exact ⟨fun _ => ⟨⟨_, hcert⟩, ⟨_, hkey⟩⟩, fun _ => rfl⟩

/-- Of the two files of an identity both are stated or neither is. -/
theorem Identity.Follows.stated_iff {identity : Option Identity} {t : Config.ClientTls}
    (h : Identity.Follows storage env t identity) :
    (∃ path, Stated t.certPath path) ↔ ∃ path, Stated t.keyPath path := by
  cases h with
  | missing hcert hkey => simp [hcert, hkey]
  | loaded hcert hkey _ => exact ⟨fun _ => ⟨_, hkey⟩, fun _ => ⟨_, hcert⟩⟩

/-- Two stated files hold the identity. -/
theorem Identity.Follows.exists_standsIn {identity : Option Identity} {t : Config.ClientTls}
    {certPath keyPath : String} (h : Identity.Follows storage env t identity)
    (hcert : Stated t.certPath certPath) (hkey : Stated t.keyPath keyPath) :
    ∃ i : Identity, i.StandsIn storage certPath keyPath (t.password env) := by
  cases h with
  | missing hnone _ => exact absurd hcert (hnone certPath)
  | loaded hcert' hkey' hstands =>
    obtain rfl := hcert.unique hcert'
    obtain rfl := hkey.unique hkey'
    exact ⟨_, hstands⟩

/-- What has no outcome to succeed with fails. -/
theorem exists_error_of_forall_ne_ok {ε α : Type} {r : Except ε α} (h : ∀ a, r ≠ .ok a) :
    ∃ e, r = .error e := by
  cases r with
  | ok a => exact absurd rfl (h a)
  | error e => exact ⟨e, rfl⟩

/-- A pool cannot be read from a file that is unreadable or has no anchor. -/
theorem TrustPool.not_readFrom {pool : TrustPool} {path : String}
    (hfile : ∀ text, storage.read path = .ok text → anchorsIn text = []) :
    ¬pool.ReadFrom storage path := by
  rintro ⟨text, hread, -, hne⟩
  exact hne (hfile text hread)

/-- **TLS settings follow the configuration or are refused.** Whatever the files, the environment and
the configuration are:

* the settings of a listener require client certificates exactly if a CA chain is stated, and check
  them against exactly the anchors of its file, of which there is one at least; the listener shows the
  identity in its two files;
* the settings of a client leave the broker unchecked exactly if the configuration says so, use the
  bundled roots exactly if it does not and no CA chain is stated, and use exactly the anchors of the
  file, one at least, if one is; they have an identity exactly if both its files are stated, and it
  stands in them;
* there are no settings where a CA chain is unreadable or has no anchor, where a listener lacks one of
  its paths or a client has only one, and where no identity stands in the files of a key pair. -/
theorem trust_policy_kept (storage : Storage) (env : Environment) (l : Config.ListenerTls)
    (c : Config.ClientTls) :
    (∀ s, (ListenerSettings.build storage env l).outcome.1 = .ok s →
      ((∃ pool, s.clientAuth = .requireAndVerify pool) ↔ ∃ path, Stated l.caChainPath path) ∧
      (∀ pool, s.clientAuth = .requireAndVerify pool →
        ∃ path, Stated l.caChainPath path ∧ pool.ReadFrom storage path) ∧
      s.identity.StandsIn storage l.certPath l.keyPath (l.password env)) ∧
    (∀ s, (ClientSettings.build storage env c).outcome.1 = .ok s →
      (s.peerCheck = .disabled ↔ c.skipVerify = true) ∧
      (s.peerCheck = .bundled ↔ c.skipVerify = false ∧ ∀ path, ¬Stated c.caChainPath path) ∧
      (∀ path, c.skipVerify = false → Stated c.caChainPath path →
        ∃ pool, s.peerCheck = .anchored pool ∧ pool.ReadFrom storage path) ∧
      (s.identity.isSome = true ↔
        (∃ path, Stated c.certPath path) ∧ ∃ path, Stated c.keyPath path) ∧
      ∀ identity, s.identity = some identity → ∃ certPath keyPath,
        Stated c.certPath certPath ∧ Stated c.keyPath keyPath ∧
          identity.StandsIn storage certPath keyPath (c.password env)) ∧
    (l.certPath = "" ∨ l.keyPath = "" →
      ∃ e, (ListenerSettings.build storage env l).outcome.1 = .error e) ∧
    (∀ path, Stated l.caChainPath path →
      (∀ text, storage.read path = .ok text → anchorsIn text = []) →
        ∃ e, (ListenerSettings.build storage env l).outcome.1 = .error e) ∧
    (∀ path, c.skipVerify = false → Stated c.caChainPath path →
      (∀ text, storage.read path = .ok text → anchorsIn text = []) →
        ∃ e, (ClientSettings.build storage env c).outcome.1 = .error e) ∧
    (¬((∃ path, Stated c.certPath path) ↔ ∃ path, Stated c.keyPath path) →
      ∃ e, (ClientSettings.build storage env c).outcome.1 = .error e) ∧
    ((∀ identity : Identity, ¬identity.StandsIn storage l.certPath l.keyPath (l.password env)) →
      ∃ e, (ListenerSettings.build storage env l).outcome.1 = .error e) ∧
    (∀ certPath keyPath, Stated c.certPath certPath → Stated c.keyPath keyPath →
      (∀ identity : Identity, ¬identity.StandsIn storage certPath keyPath (c.password env)) →
        ∃ e, (ClientSettings.build storage env c).outcome.1 = .error e) := by
  refine ⟨fun s hs => ?listener, fun s hs => ?client, fun hmissing => ?paths,
    fun path hstated hfile => ?clientChain, fun path hskip hstated hfile => ?brokerChain,
    fun hone => ?keyPair, fun hfiles => ?ownFiles,
    fun certPath keyPath hcert hkey hfiles => ?shownFiles⟩
  case listener =>
    have h := ListenerSettings.outcome_build_eq_ok_iff.1 hs
    refine ⟨h.clientAuth.required_iff, fun pool hpool => ?_, h.identity⟩
    obtain ⟨path, hstated, hread⟩ := (hpool ▸ h.clientAuth).readFrom
    exact ⟨path, hstated, hread⟩
  case client =>
    have h := ClientSettings.outcome_build_eq_ok_iff.1 hs
    refine ⟨h.peerCheck.disabled_iff, h.peerCheck.bundled_iff,
      fun path hskip hstated => h.peerCheck.exists_pool hskip hstated, h.identity.isSome_iff,
      fun identity hidentity => ?_⟩
    cases hidentity ▸ h.identity with
    | loaded hcert hkey hstands => exact ⟨_, _, hcert, hkey, hstands⟩
  case paths =>
    apply exists_error_of_forall_ne_ok
    intro s hs
    have h := ListenerSettings.outcome_build_eq_ok_iff.1 hs
    exact hmissing.elim h.certPath_ne h.keyPath_ne
  case clientChain =>
    apply exists_error_of_forall_ne_ok
    intro s hs
    have h := ListenerSettings.outcome_build_eq_ok_iff.1 hs
    obtain ⟨pool, hpool⟩ := h.clientAuth.required_iff.2 ⟨path, hstated⟩
    obtain ⟨path', hstated', hread⟩ := (hpool ▸ h.clientAuth).readFrom
    -- the pool would have been read from the very file that has no anchor
    obtain rfl := hstated.unique hstated'
    exact TrustPool.not_readFrom hfile hread
  case brokerChain =>
    apply exists_error_of_forall_ne_ok
    intro s hs
    have h := ClientSettings.outcome_build_eq_ok_iff.1 hs
    obtain ⟨pool, -, hread⟩ := h.peerCheck.exists_pool hskip hstated
    exact TrustPool.not_readFrom hfile hread
  case keyPair =>
    apply exists_error_of_forall_ne_ok
    intro s hs
    apply hone
    exact (ClientSettings.outcome_build_eq_ok_iff.1 hs).identity.stated_iff
  case ownFiles =>
    apply exists_error_of_forall_ne_ok
    intro s hs
    exact hfiles s.identity (ListenerSettings.outcome_build_eq_ok_iff.1 hs).identity
  case shownFiles =>
    apply exists_error_of_forall_ne_ok
    intro s hs
    obtain ⟨identity, hstands⟩ :=
      (ClientSettings.outcome_build_eq_ok_iff.1 hs).identity.exists_standsIn hcert hkey
    exact hfiles identity hstands

/-! ### Files of both sides

A key on P-256, a certificate that states it, and a CA chain whose first certificate is unreadable. -/

open Der

/-- The private number one, with the public point that belongs to it. -/
def unitKey : Bytes :=
  write Tag.sequence (write Tag.integer [1] ++ write Tag.octetString (Bytes.ofNatBE 32 1) ++
    write (Tag.constructed 1) (writeBits (Crypto.p256.publicKey 1)))

/-- A certificate that states a public key and nothing else. -/
def bareCertificate (publicKeyInfo : Bytes) : Bytes :=
  let nothing := write Tag.sequence []
  let signed := write (Tag.constructed 0) (write Tag.integer [2]) ++ write Tag.integer [1] ++
    nothing ++ nothing ++ nothing ++ nothing ++ write Tag.sequence publicKeyInfo
  write Tag.sequence (write Tag.sequence signed ++ nothing ++ writeBits [])

/-- A section of a file. -/
def sectionText (kind : Pem.SectionKind) (contents : Bytes) : Bytes :=
  let label := Bytes.encodeUtf8 kind.label
  Pem.beginMark ++ label ++ Pem.dashes ++ [10] ++ Base64.encode contents ++ [10] ++
    Pem.endMark ++ label ++ Pem.dashes ++ [10]

/-- The files of a relay with a CA chain. -/
def relayFiles : FileTree := .ofList [
  ("ca.pem", sectionText .certificate [] ++ sectionText .certificate (bareCertificate [])),
  ("relay.pem", sectionText .certificate (bareCertificate (SigningKey.publicKeyInfo
    ⟨SigningKey.namedP256.algorithm, Crypto.p256.publicKey 1⟩))),
  ("key.pem", sectionText .ecPrivateKey unitKey)]

/-- A listener that asks clients for certificates. -/
def guardedListener : Config.ListenerTls :=
  { Config.ListenerTls.default with
    certPath := "relay.pem", keyPath := "key.pem", caChainPath := some "ca.pem" }

/-- A client that checks the broker against a CA chain. -/
def guardedClient : Config.ClientTls :=
  { Config.ClientTls.default with caChainPath := some "ca.pem" }

theorem trust_policy_kept_with_ca_chain :
    (∃ s pool, (ListenerSettings.build relayFiles.storage .empty guardedListener).outcome.1 = .ok s ∧
      s.clientAuth = .requireAndVerify pool ∧ pool.ReadFrom relayFiles.storage "ca.pem") ∧
    ∃ s pool, (ClientSettings.build relayFiles.storage .empty guardedClient).outcome.1 = .ok s ∧
      s.peerCheck = .anchored pool ∧ pool.ReadFrom relayFiles.storage "ca.pem" := by
  obtain ⟨hlistener, hclient, -⟩ :=
    trust_policy_kept relayFiles.storage .empty guardedListener guardedClient
  have hchain : Stated (some "ca.pem") "ca.pem" := ⟨rfl, by decide⟩
  constructor
  · -- the curve arithmetic and the parsing are evaluated once, to see that there are settings
    have hbuilt : (ListenerSettings.build relayFiles.storage .empty
        guardedListener).outcome.1.toBool = true := by decide +kernel
    cases hs : (ListenerSettings.build relayFiles.storage .empty guardedListener).outcome.1 with
    | error e => rw [hs] at hbuilt; cases hbuilt
    | ok s =>
      obtain ⟨hrequired, hpool, -⟩ := hlistener s hs
      obtain ⟨pool, hauth⟩ := hrequired.2 ⟨"ca.pem", hchain⟩
      obtain ⟨path, hstated, hread⟩ := hpool pool hauth
      obtain rfl := hchain.unique hstated
      exact ⟨s, pool, rfl, hauth, hread⟩
  · have hbuilt : (ClientSettings.build relayFiles.storage .empty
        guardedClient).outcome.1.toBool = true := by decide +kernel
    cases hs : (ClientSettings.build relayFiles.storage .empty guardedClient).outcome.1 with
    | error e => rw [hs] at hbuilt; cases hbuilt
    | ok s =>
      obtain ⟨-, -, hanchored, -⟩ := hclient s hs
      obtain ⟨pool, hcheck, hread⟩ := hanchored "ca.pem" rfl hchain
      exact ⟨s, pool, rfl, hcheck, hread⟩

end BrokerRelay.Tls
