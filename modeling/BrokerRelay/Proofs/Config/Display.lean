import BrokerRelay.Config.Display
import BrokerRelay.Dial.ProxyClient
import BrokerRelay.Proofs.Text.Quoted
/-!
# Displays keep secrets

The display of a configuration is a function of the configuration without its secrets: a stated
password shows that it is stated and nothing else. Everything that is no secret is shown, and in a
form that cannot be mistaken for another one, so two configurations have one display exactly when
they differ in the texts of their secrets only (`Settings.tells_display`). The display of a client of
a forward proxy tells its network, its address, its user name and its deadline, and not the password
behind the user name (`displays_tell_all_but_secrets`).
-/

namespace BrokerRelay

open Text

/-! ## §1 Durations -/

/-- The fraction of a duration is written with digits and a point. -/
theorem Duration.mem_fraction {width part : Nat} {c : Char}
    (h : c ∈ (Duration.fraction width part).toList) : c = '.' ∨ c.isDigit := by
  unfold Duration.fraction at h
  simp only at h
  split at h
  · simp at h
  · rw [String.toList_append, List.mem_append, String.toList_ofList] at h
    rcases h with hpoint | hdigit
    · exact .inl (List.mem_singleton.mp hpoint)
    · rw [String.toList_ofList, List.mem_reverse] at hdigit
      have hpadded := List.mem_reverse.mp ((List.dropWhile_sublist _).subset hdigit)
      rcases List.mem_append.mp hpadded with hzero | hdigit
      · exact .inr (List.eq_of_mem_replicate hzero ▸ rfl)
      · exact .inr (Nat.isDigit_of_mem_toDigits (by decide) (by decide) hdigit)

/-- The unit of a duration ends in the first `s` of its written form. -/
theorem Duration.text_eq_append (d : Duration) :
    ∃ front, 's' ∉ front ∧ d.text.toList = front ++ ['s'] := by
  have hnumber : ∀ n : Nat, 's' ∉ Nat.toDigits 10 n := fun n h =>
    absurd (Nat.isDigit_of_mem_toDigits (by decide) (by decide) h) (by decide)
  have hfraction : ∀ width part, 's' ∉ (fraction width part).toList := fun width part h =>
    (mem_fraction h).elim (by decide) (by decide)
  unfold text
  split_ifs
  · exact ⟨Nat.toDigits 10 d.secs ++ (fraction 9 d.nanos).toList,
      by simp [hnumber, hfraction], by simp⟩
  · exact ⟨Nat.toDigits 10 (d.nanos / 1000000) ++ (fraction 6 (d.nanos % 1000000)).toList ++ ['m'],
      by simp [hnumber, hfraction], by simp⟩
  · exact ⟨Nat.toDigits 10 (d.nanos / 1000) ++ (fraction 3 (d.nanos % 1000)).toList ++ ['µ'],
      by simp [hnumber, hfraction], by simp⟩
  · exact ⟨Nat.toDigits 10 d.nanos ++ ['n'], by simp [hnumber], by simp; rfl⟩

theorem Duration.tells_text : Tells Duration.text fun d d' => d.text = d'.text := by
  intro d d' r r' _ _
  refine ⟨fun heq => ?_, by rintro ⟨htext, rfl⟩; rw [htext]⟩
  obtain ⟨front, hfront, htext⟩ := d.text_eq_append
  obtain ⟨front', hfront', htext'⟩ := d'.text_eq_append
  rw [htext, htext', List.append_assoc, List.append_assoc] at heq
  have hcut := congrArg (cutFirst? 's') heq
  rw [List.singleton_append, List.singleton_append, cutFirst?_append hfront,
    cutFirst?_append hfront', Option.some.injEq, Prod.mk.injEq] at hcut
  obtain ⟨rfl, rfl⟩ := hcut
  exact ⟨String.toList_inj.mp (htext.trans htext'.symm), rfl⟩

/-! ## §2 Configurations -/

namespace Config

/-- A secret of which only is left whether it is stated. -/
def hidden (s : Option String) : Option String := s.map fun _ => ""

theorem tells_redacted : Tells redacted fun s s' => hidden s = hidden s' :=
  (tells_constant (quoted "<redacted>")).congr (fun _ _ => (eq_self_iff_true "").symm) |>.optional

theorem tells_optionalText : Tells optionalText Eq :=
  (tells_quoted.optional (f := id)).congr fun s s' => by simp

theorem tells_optionalPath : Tells optionalPath Eq :=
  (tells_quotedPath.optional (f := id)).congr fun s s' => by simp

theorem ProxyProtocol.tells_display : Tells ProxyProtocol.display Eq := fun p p' r r' _ _ => by
  cases p <;> cases p' <;> simp [ProxyProtocol.display]

/-! What each record shows, and what is left of it when its secrets are hidden. -/

namespace ListenerTls

def fields : List (RecordField ListenerTls) := [
  .of "cert_path" certPath tells_quotedPath,
  .of "key_path" keyPath tells_quotedPath,
  .of "key_password" keyPassword tells_redacted,
  .of "ca_chain_path" caChainPath tells_optionalPath,
  .of "cipher_suites" cipherSuites tells_quotedList,
  .of "curve_preferences" curves tells_quotedList]

/-- TLS for accepted connections without the password of the key. -/
def masked (t : ListenerTls) : ListenerTls := { t with keyPassword := hidden t.keyPassword }

theorem tells_display : Tells display fun t t' => t.masked = t'.masked :=
  (Tells.record "ListenerTlsConfig" fields true).congr fun t t' => by
    simp [fields, RecordField.of, masked]

end ListenerTls

namespace Listen

def fields : List (RecordField Listen) := [
  .of "address" address tells_quoted,
  .of "max_connections" maxConnections tells_number,
  .of "tls_handshake_timeout_ms" handshakeTimeoutMs tells_number,
  .of "tls" tls ListenerTls.tells_display.optional]

/-- The client-facing side without its secret. -/
def masked (l : Listen) : Listen := { l with tls := l.tls.map ListenerTls.masked }

theorem tells_display : Tells display fun l l' => l.masked = l'.masked :=
  (Tells.record "ListenConfig" fields true).congr fun l l' => by
    simp [fields, RecordField.of, masked]

end Listen

namespace ClientTls

def fields : List (RecordField ClientTls) := [
  .of "enabled" enabled tells_truth,
  .of "cert_path" certPath tells_optionalPath,
  .of "key_path" keyPath tells_optionalPath,
  .of "key_password" keyPassword tells_redacted,
  .of "ca_chain_path" caChainPath tells_optionalPath,
  .of "insecure_skip_verify" skipVerify tells_truth,
  .of "handshake_timeout_ms" handshakeTimeoutMs tells_number,
  .of "cipher_suites" cipherSuites tells_quotedList,
  .of "curve_preferences" curves tells_quotedList]

/-- TLS towards the broker without the password of the key. -/
def masked (t : ClientTls) : ClientTls := { t with keyPassword := hidden t.keyPassword }

theorem tells_display : Tells display fun t t' => t.masked = t'.masked :=
  (Tells.record "ClientTlsConfig" fields true).congr fun t t' => by
    simp [fields, RecordField.of, masked]

end ClientTls

namespace ForwardProxy

def fields : List (RecordField ForwardProxy) := [
  .of "protocol" protocol ProxyProtocol.tells_display,
  .of "network" network tells_quoted,
  .of "address" address tells_quoted,
  .of "username" username tells_optionalText,
  .of "password" password tells_redacted,
  .of "handshake_timeout_ms" handshakeTimeoutMs tells_number]

/-- A forward proxy without the password for it. -/
def masked (p : ForwardProxy) : ForwardProxy := { p with password := hidden p.password }

theorem tells_display : Tells display fun p p' => p.masked = p'.masked :=
  (Tells.record "ForwardProxyConfig" fields true).congr fun p p' => by
    simp [fields, RecordField.of, masked]

end ForwardProxy

namespace Broker

def fields : List (RecordField Broker) := [
  .of "address" address tells_quoted,
  .of "dial_timeout_ms" dialTimeoutMs tells_number,
  .of "keep_alive_secs" keepAliveSecs tells_number,
  .of "tls" tls ClientTls.tells_display.optional,
  .of "forward_proxy" forwardProxy ForwardProxy.tells_display.optional]

/-- The broker and the way to it without secrets. -/
def masked (b : Broker) : Broker :=
  { b with
    tls := b.tls.map ClientTls.masked
    forwardProxy := b.forwardProxy.map ForwardProxy.masked }

theorem tells_display : Tells display fun b b' => b.masked = b'.masked :=
  (Tells.record "KafkaConfig" fields true).congr fun b b' => by
    simp [fields, RecordField.of, masked]

end Broker

namespace Logging

def fields : List (RecordField Logging) := [
  .of "level" level tells_quoted,
  .of "json" json tells_truth]

theorem tells_display : Tells display Eq :=
  (Tells.record "LoggingConfig" fields true).congr fun l l' => by
    cases l; cases l'; simp [fields, RecordField.of]

end Logging

namespace Settings

def fields : List (RecordField Settings) := [
  .of "listen" listen Listen.tells_display,
  .of "kafka" broker Broker.tells_display,
  .of "logging" logging Logging.tells_display]

/-- A configuration in which every stated secret says nothing. -/
def masked (s : Settings) : Settings :=
  { s with listen := s.listen.masked, broker := s.broker.masked }

theorem tells_display : Tells display fun s s' => s.masked = s'.masked :=
  (Tells.record "ProxyConfig" fields true).congr fun s s' => by
    simp [fields, RecordField.of, masked]

end Settings

end Config

/-! ## §3 Clients of a forward proxy -/

namespace Dial.ProxyClient

def fields : List (RecordField ProxyClient) := [
  .of "proxy_network" network tells_quoted,
  .of "proxy_address" address tells_quoted,
  .of "username" credentials (tells_quoted.comp Config.Credentials.username).optional,
  .of "handshake_timeout" handshakeTimeout Duration.tells_text]

/-- A client of either kind shows everything about it but the password. -/
theorem tells_display (kind : String) : Tells (fun c => display c kind) fun c c' =>
    c.network = c'.network ∧ c.address = c'.address ∧
      c.credentials.map (·.username) = c'.credentials.map (·.username) ∧
      c.handshakeTimeout.text = c'.handshakeTimeout.text := by
  have hrecord : (fun c => display c kind)
      = fun c => record kind (fields.map (RecordField.entry c)) false := by
    funext c
    rfl
  rw [hrecord]
  exact (Tells.record kind fields false).congr fun c c' => by simp [fields, RecordField.of]

/-- A user name is shown together with any password that is not empty. -/
theorem map_username_credentials (c : ProxyClient) (username : String) {password : String}
    (h : password ≠ "") : (c.withCredentials username password).credentials.map (·.username)
      = if username = "" then none else some username := by
  unfold withCredentials Config.Credentials.of?
  by_cases husername : username = "" <;> simp [husername, h]

end Dial.ProxyClient

/-! ## §4 The statement -/

/-- **A display tells everything but the secrets.** Two configurations have one display exactly when
they are equal once every stated secret is emptied: the texts of the two key passwords and of the
password for the forward proxy are not shown, only whether they are stated, and nothing else is left
out. Two clients of a forward proxy have one display exactly when their networks, addresses, user
names and written deadlines are equal; so a client made with one password that is not empty shows
what the same client shows with any other. -/
theorem displays_tell_all_but_secrets :
    (∀ s s' : Config.Settings, s.display = s'.display ↔ s.masked = s'.masked) ∧
    (∀ (c c' : Dial.ProxyClient) (kind : String), c.display kind = c'.display kind ↔
      c.network = c'.network ∧ c.address = c'.address ∧
        c.credentials.map (·.username) = c'.credentials.map (·.username) ∧
        c.handshakeTimeout.text = c'.handshakeTimeout.text) ∧
    ∀ (c : Dial.ProxyClient) (kind username password password' : String),
      password ≠ "" → password' ≠ "" →
        (c.withCredentials username password).display kind
          = (c.withCredentials username password').display kind := by
  have hclients : ∀ (c c' : Dial.ProxyClient) (kind : String), c.display kind = c'.display kind ↔
      c.network = c'.network ∧ c.address = c'.address ∧
        c.credentials.map (·.username) = c'.credentials.map (·.username) ∧
        c.handshakeTimeout.text = c'.handshakeTimeout.text := fun c c' kind =>
    (Dial.ProxyClient.tells_display kind).text_eq_iff c c'
  refine ⟨Config.Settings.tells_display.text_eq_iff, hclients, ?_⟩
  intro c kind username password password' h h'
  refine (hclients _ _ kind).mpr ⟨rfl, rfl, ?_, rfl⟩
  rw [c.map_username_credentials username h, c.map_username_credentials username h']

/-- A configuration with nothing stated but a forward proxy and a password for it. -/
def behindProxy (password : String) : Config.Settings :=
  { Config.Settings.default with
    broker := { Config.Broker.default with
      forwardProxy := some { Config.ForwardProxy.default with password := some password } } }

/-- Two passwords make two configurations and two clients, but one display of either. -/
theorem one_display_of_two_passwords :
    behindProxy "first" ≠ behindProxy "second" ∧
    (behindProxy "first").display = (behindProxy "second").display ∧
    (Dial.ProxyClient.make "tcp" "proxy:1080").withCredentials "user" "first"
      ≠ (Dial.ProxyClient.make "tcp" "proxy:1080").withCredentials "user" "second" ∧
    ((Dial.ProxyClient.make "tcp" "proxy:1080").withCredentials "user" "first").display
        "Socks5Dialer"
      = ((Dial.ProxyClient.make "tcp" "proxy:1080").withCredentials "user" "second").display
          "Socks5Dialer" :=
  ⟨by decide, (displays_tell_all_but_secrets.1 _ _).mpr rfl, by decide,
    displays_tell_all_but_secrets.2.2 _ _ _ _ _ (by decide) (by decide)⟩

example : ((Dial.ProxyClient.make "tcp" "proxy:1080").withCredentials "user" "secret").display
      "Socks5Dialer" =
    "Socks5Dialer \x7b proxy_network: \"tcp\", proxy_address: \"proxy:1080\", " ++
      "username: Some(\"user\"), handshake_timeout: 10s, .. \x7d" := by
  decide +kernel

end BrokerRelay
