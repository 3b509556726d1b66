import BrokerRelay.Proofs.Dial.Socks5.Tunnel
import BrokerRelay.Proofs.Dial.Transcript
/-!
# When SOCKS5 credentials are shown

User name and password are sent only to a proxy that asks for them, and the connection is asked for
only from a proxy that has let this side pass. Main statement (`credentials_shown_only_on_request`):

* unless the proxy's first two bytes ask for a login, a run does not depend on the credentials;
* each write of a run is the greeting before anything was heard, the login right after it was asked
  for, or the request to connect right after an admission, and never anything later;
* so a login that cannot be given or is not accepted is the end, and nothing is written after it.

`handshake_speaks_iff` lists what the negotiation says and after which bytes; the laws about runs are
read off it through the transcripts.
-/

namespace BrokerRelay.Dial.Socks5

variable {c : ProxyClient} {target : String} {heard said message : Bytes}

/-! ## §1 What is said, and after which bytes -/

theorem authenticate_speaks_iff {k : Config.Credentials} :
    (authenticate c k).Speaks heard said message ↔
      heard = [] ∧ said = [] ∧ passwordRequest? k = some message := by
  unfold authenticate
  cases hreq : passwordRequest? k with
  | none => simp
  | some request =>
    simp only [Talk.bind_eq, Talk.say_bind, Talk.hear_bind, Talk.speaks_send_iff,
      Talk.speaks_receive_iff, Option.some.injEq]
    constructor
    · rintro (⟨rfl, rfl, rfl⟩ | ⟨more, rfl, answer, rest, rfl, -, h⟩)
      · exact ⟨rfl, rfl, rfl⟩
      · -- whatever the answer is, it is not answered
        split at h
        · simp at h
        split at h
        · simp at h
        · simp at h
    · rintro ⟨rfl, rfl, rfl⟩
      exact .inl ⟨rfl, rfl, rfl⟩

theorem negotiate_speaks_iff :
    (negotiate c).Speaks heard said message ↔
      (heard = [] ∧ said = [] ∧ message = greeting c) ∨
      ∃ k, c.credentials = some k ∧ passwordRequest? k = some message ∧
        heard = [5, 2] ∧ said = greeting c := by
  unfold negotiate
  simp only [Talk.bind_eq, Talk.say_bind, Talk.hear_bind, Talk.speaks_send_iff,
    Talk.speaks_receive_iff]
  refine or_congr_right ?_
  constructor
  · rintro ⟨more, rfl, choice, rest, rfl, hlen, h⟩
    obtain ⟨v, method, rfl⟩ := List.length_eq_two.mp hlen
    simp only [List.getD_cons_zero, List.getD_cons_succ] at h
    split at h
    · simp at h
    rename_i hv
    split at h
    · simp at h
    split at h
    · simp at h
    -- only credentials and the method that asks for them lead on
    cases hk : c.credentials with
    | none => simp [hk] at h
    | some k =>
      simp only [hk] at h
      split at h
      · rename_i hm
        obtain ⟨rfl, rfl, hreq⟩ := authenticate_speaks_iff.mp h
        refine ⟨k, rfl, hreq, ?_, List.append_nil _⟩
        rw [not_not.mp hv, hm]
        rfl
      · simp at h
  · rintro ⟨k, hk, hreq, rfl, rfl⟩
    refine ⟨[], (List.append_nil _).symm, [5, 2], [], rfl, rfl, ?_⟩
    have hauth := authenticate_speaks_iff (c := c).mpr ⟨rfl, rfl, hreq⟩
    simpa [version, methodNone, methodRefused, methodPassword, hk] using hauth

theorem not_speaks_skipBoundAddress {addressType : UInt8} :
    ¬ (skipBoundAddress c addressType).Speaks heard said message := by
  unfold skipBoundAddress
  simp only [Talk.bind_eq, Talk.hear_bind, Talk.hearByte_bind, Talk.pure_eq, Talk.fail_eq]
  split
  · simp
  split
  · simp
  split
  · simp
  · simp

theorem connect_speaks_iff {destination : HostPort} :
    (connect c target destination).Speaks heard said message ↔
      heard = [] ∧ said = [] ∧ connectRequest? destination = some message := by
  unfold connect
  cases hreq : connectRequest? destination with
  | none => simp
  | some request =>
    simp only [Talk.bind_eq, Talk.say_bind, Talk.hear_bind, Talk.speaks_send_iff,
      Talk.speaks_receive_iff, Option.some.injEq]
    constructor
    · rintro (⟨rfl, rfl, rfl⟩ | ⟨more, rfl, answer, rest, rfl, -, h⟩)
      · exact ⟨rfl, rfl, rfl⟩
      · split at h
        · simp at h
        split at h
        · simp at h
        · exact absurd h not_speaks_skipBoundAddress
    · rintro ⟨rfl, rfl, rfl⟩
      exact .inl ⟨rfl, rfl, rfl⟩

/-- All that the negotiation says: the greeting first, the login when `[5, 2]` asks for it, and the
request to connect after an exchange that lets this side pass. -/
theorem handshake_speaks_iff :
    (handshake c target).Speaks heard said message ↔
      ∃ destination, splitTarget target = .ok destination ∧
        ((heard = [] ∧ said = [] ∧ message = greeting c) ∨
          (∃ k, c.credentials = some k ∧ passwordRequest? k = some message ∧
            heard = [5, 2] ∧ said = greeting c) ∨
          ((negotiate c).Ends heard said (.ok ()) ∧ connectRequest? destination = some message)) := by
  unfold handshake
  cases hsplit : splitTarget target with
  | error e => simp
  | ok destination =>
    simp only [Talk.bind_eq, Talk.bind_speaks_iff, negotiate_speaks_iff, connect_speaks_iff,
      Except.ok.injEq, exists_eq_left', or_assoc]
    refine or_congr_right (or_congr_right ?_)
    constructor
    · rintro ⟨x, heard, said, _, _, hneg, ⟨rfl, rfl, hreq⟩, rfl, rfl⟩
      rw [List.append_nil, List.append_nil]
      exact ⟨hneg, hreq⟩
    · rintro ⟨hneg, hreq⟩
      exact ⟨(), heard, said, [], [], hneg, ⟨rfl, rfl, hreq⟩, (List.append_nil _).symm,
        (List.append_nil _).symm⟩

/-! ## §2 Runs -/

/-- A connection is granted only after an admission. -/
theorem admission_of_run_ok {p : Peer} (h : ((handshake c target).run p).result = .ok ()) :
    ∃ s, Admission c s ∧ s <+: p.said := by
  obtain ⟨heard, hends, hsaid, -⟩ := Talk.ends_of_run_ok h
  cases hsplit : splitTarget target with
  | error e => simp [handshake, hsplit] at hends
  | ok destination =>
    obtain ⟨s, said, r, _, hneg, -, -, rfl, -⟩ := (handshake_ends_ok_iff hsplit).mp hends
    refine ⟨s, negotiate_passes_iff_admission.mp ⟨said, hneg⟩, ?_⟩
    rw [hsaid, List.append_assoc]
    exact List.prefix_append ..

/-- Against a proxy that does not let this side pass the run fails. -/
theorem run_error_of_no_admission {p : Peer} (h : ∀ s, Admission c s → ¬ s <+: p.said) :
    ∃ e, ((handshake c target).run p).result = .error e := by
  cases hresult : ((handshake c target).run p).result with
  | error e => exact ⟨e, rfl⟩
  | ok x =>
    obtain ⟨s, hs, hprefix⟩ := admission_of_run_ok hresult
    exact absurd hprefix (h s hs)

/-- What a run writes against a proxy that does not let this side pass: at most the greeting, and the
login if the proxy asked for it. -/
theorem written_of_no_admission {p : Peer} (h : ∀ s, Admission c s → ¬ s <+: p.said) :
    ((handshake c target).run p).written <+: greeting c ∨
      ∃ k request, c.credentials = some k ∧ passwordRequest? k = some request ∧ [5, 2] <+: p.said ∧
        ((handshake c target).run p).written <+: greeting c ++ request := by
  rcases Talk.written_prefix_of_run (handshake c target) p with
    hnil | ⟨heard, said, message, hspeaks, hheard, hwritten⟩
  · rw [hnil]
    exact .inl List.nil_prefix
  · obtain ⟨destination, -, ⟨rfl, rfl, rfl⟩ | ⟨k, hk, hreq, rfl, rfl⟩ | ⟨hneg, -⟩⟩ :=
      handshake_speaks_iff.mp hspeaks
    · exact .inl hwritten
    · exact .inr ⟨k, message, hk, hreq, hheard, hwritten⟩
    · -- asking for a connection is preceded by an admission
      exact absurd hheard (h heard (negotiate_passes_iff_admission.mp ⟨said, hneg⟩))

/-- The negotiation of two clients with credentials differs only after `[5, 2]`. -/
theorem negotiate_run_congr {k₁ k₂ : Config.Credentials} {p : Peer} (h : ¬ [5, 2] <+: p.said)
    (f : Unit → Talk DialFailure Unit) :
    ((negotiate { c with credentials := some k₁ }).bind f).run p =
      ((negotiate { c with credentials := some k₂ }).bind f).run p := by
  unfold negotiate
  simp only [Talk.bind_eq, Talk.say_bind, Talk.hear_bind, Talk.bind]
  apply Talk.run_send_congr
  intro q hq
  apply Talk.run_receive_congr
  intro choice hlen hchoice
  obtain ⟨v, method, rfl⟩ := List.length_eq_two.mp hlen
  rw [hq] at hchoice
  simp only [List.getD_cons_zero, List.getD_cons_succ]
  by_cases hv : v = version
  · by_cases hm : method = methodPassword
    · -- the one choice that would tell the two clients apart
      subst hv hm
      exact absurd hchoice h
    · simp only [hm, if_false]
      rfl
  · simp only [ne_eq, hv, not_false_eq_true, if_true]
    rfl

/-! ## §3 The main statement -/

/-- **Credentials are shown only on request, and a login is never passed over.** Two clients that
differ only in the credentials they hold have the same run against every proxy whose first two bytes
are not `[5, 2]`. Each write of a run is the start of the greeting, before anything was read; of the
login, right after `[5, 2]` and for a client with credentials; or of the request to connect, right
after an admission. A client without credentials goes no further than the greeting when the proxy
asks for a login, and no client goes further than the login when the proxy does not accept it. -/
theorem credentials_shown_only_on_request :
    (∀ (c : ProxyClient) (k₁ k₂ : Config.Credentials) (target : String) (p : Peer),
      ¬ [5, 2] <+: p.said →
        (handshake { c with credentials := some k₁ } target).run p =
          (handshake { c with credentials := some k₂ } target).run p) ∧
    (∀ (c : ProxyClient) (target : String) (p : Peer) (pre post : List Passage) (bytes : Bytes),
      ((handshake c target).run p).passages = pre ++ .wrote bytes :: post →
        let heard := p.said.take (Passage.allConsumed pre)
        (heard = [] ∧ Passage.allWritten pre = [] ∧ bytes <+: greeting c) ∨
        (heard = [5, 2] ∧ Passage.allWritten pre = greeting c ∧
          ∃ k request, c.credentials = some k ∧ passwordRequest? k = some request ∧
            bytes <+: request) ∨
        ((heard = [5, 0] ∨ (c.credentials.isSome ∧ heard = [5, 2, 1, 0])) ∧
          ∃ destination request, splitTarget target = .ok destination ∧
            connectRequest? destination = some request ∧ bytes <+: request)) ∧
    (∀ (c : ProxyClient) (target : String) (p : Peer), c.credentials = none → [5, 2] <+: p.said →
      ((handshake c target).run p).written <+: greeting c ∧
        ∃ e, ((handshake c target).run p).result = .error e) ∧
    (∀ (c : ProxyClient) (k : Config.Credentials) (target : String) (p : Peer) (v status : UInt8),
      c.credentials = some k → [5, 2, v, status] <+: p.said → [v, status] ≠ [1, 0] →
        ((handshake c target).run p).written <+: greeting c ++ (passwordRequest? k).getD [] ∧
          ∃ e, ((handshake c target).run p).result = .error e) := by
  refine ⟨?_, ?_, ?_, ?_⟩
  · intro c k₁ k₂ target p h
    unfold handshake
    cases splitTarget target with
    | error e => rfl
    | ok destination => exact negotiate_run_congr h fun _ => connect c target destination
  · intro c target p pre post bytes hpassages heard
    obtain ⟨message, hspeaks, hprefix⟩ := Talk.speaks_of_passages hpassages
    obtain ⟨destination, hsplit,
      ⟨hheard, hsaid, rfl⟩ | ⟨k, hk, hreq, hheard, hsaid⟩ | ⟨hneg, hreq⟩⟩ :=
        handshake_speaks_iff.mp hspeaks
    · exact .inl ⟨hheard, hsaid, hprefix⟩
    · exact .inr (.inl ⟨hheard, hsaid, k, message, hk, hreq, hprefix⟩)
    · refine .inr (.inr ⟨?_, destination, message, hsplit, hreq, hprefix⟩)
      rcases negotiate_ends_ok_iff.mp hneg with ⟨hheard, -⟩ | ⟨k, request, hk, -, hheard, -⟩
      · exact .inl hheard
      · exact .inr ⟨Option.isSome_iff_exists.mpr ⟨k, hk⟩, hheard⟩
  · intro c target p hnone hasks
    have hno : ∀ s, Admission c s → ¬ s <+: p.said := by
      rintro _ (_ | ⟨hk, -, -⟩) hprefix
      · have := List.prefix_of_prefix_length_le hprefix hasks (by simp)
        simp at this
      · rw [hnone] at hk
        cases hk
    refine ⟨?_, run_error_of_no_admission hno⟩
    rcases written_of_no_admission hno with hwritten | ⟨k, request, hk, -⟩
    · exact hwritten
    · rw [hnone] at hk
      cases hk
  · intro c k target p v status hk hasks hrefused
    have hno : ∀ s, Admission c s → ¬ s <+: p.said := by
      rintro _ (_ | ⟨-, -, -⟩) hprefix
      · have := List.prefix_of_prefix_length_le hprefix hasks (by simp)
        simp at this
      · have := List.prefix_of_prefix_length_le hprefix hasks (by simp)
        simp at this hrefused
        exact hrefused this.1.symm this.2.symm
    refine ⟨?_, run_error_of_no_admission hno⟩
    rcases written_of_no_admission hno with hwritten | ⟨k', request, hk', hreq, -, hwritten⟩
    · exact hwritten.trans (List.prefix_append ..)
    · obtain rfl := Option.some.inj (hk.symm.trans hk')
      rw [hreq]
      exact hwritten

/-- A proxy asks for a login and refuses it: the login is the last write, and another login would have
had the same fate only up to that point. The same client against a proxy that asks for none, and a
client without credentials against this one, show neither. -/
theorem credentials_shown_to_refusing_proxy :
    let k : Config.Credentials := ⟨"user", "secret", by decide, by decide⟩
    let other : Config.Credentials := ⟨"admin", "letmein", by decide, by decide⟩
    let c : ProxyClient := ⟨"tcp", "127.0.0.1:1080", some k, .ofSecs 10⟩
    let anonymous : ProxyClient := { c with credentials := none }
    let refusing : Peer := ⟨[5, 2, 1, 1, 5, 0], .closed, none⟩
    let willing : Peer := ⟨[5, 0, 5, 0, 0, 1, 0, 0, 0, 0, 0, 0], .closed, none⟩
    let login : Bytes := [1, 4, 117, 115, 101, 114, 6, 115, 101, 99, 114, 101, 116]
    ¬ [5, 2] <+: willing.said ∧
      (handshake { c with credentials := some k } "kafka:9092").run willing =
        (handshake { c with credentials := some other } "kafka:9092").run willing ∧
      ((handshake c "kafka:9092").run refusing).passages =
        [.wrote [5, 2, 0, 2], .read 2] ++ .wrote login :: [.read 2] ∧
      (∃ k' request, c.credentials = some k' ∧ passwordRequest? k' = some request ∧
        login <+: request) ∧
      ((handshake anonymous "kafka:9092").run refusing).written <+: greeting anonymous ∧
      ((handshake c "kafka:9092").run refusing).written <+:
        greeting c ++ (passwordRequest? k).getD [] := by
  intro k other c anonymous refusing willing login
  have hwilling : ¬ [5, 2] <+: willing.said := by decide
  have hpassages : ((handshake c "kafka:9092").run refusing).passages =
      [.wrote [5, 2, 0, 2], .read 2] ++ .wrote login :: [.read 2] := by decide
  obtain ⟨hsame, hwrites, hanonymous, hrefused⟩ := credentials_shown_only_on_request
  refine ⟨hwilling, hsame c k other _ _ hwilling, hpassages, ?_, ?_, ?_⟩
  · rcases hwrites c "kafka:9092" refusing _ _ _ hpassages with ⟨h, -⟩ | ⟨-, -, h⟩ | ⟨h, -⟩
    · exact absurd h (by decide)
    · exact h
    · exact absurd h (by decide)
  · exact (hanonymous anonymous _ refusing rfl (by decide)).1
  · exact (hrefused c k _ refusing 1 1 rfl (by decide) (by decide)).1

end BrokerRelay.Dial.Socks5
