import BrokerRelay.Proofs.Dial.Layers
import BrokerRelay.Proofs.Dial.Socks5.Tunnel
import BrokerRelay.Proofs.Dial.Truncation
/-!
# How a SOCKS5 negotiation fails

A negotiation that fails says why by the kind of its failure: the target is no address, the proxy
rejects this side, the proxy refuses the connection, or the negotiation broke down in another way. The
first is decided before anything is said or read. The next two are decided by the bytes of the proxy
alone, as `Rejected` and `Refused` state them, and everything else is the last kind. A refusal tells the
reply code and what it means, `ReplyText`.

Of the exchanges of each step only those are computed here that end in a failure of a kind of its own
(`authenticate_ends_error_iff`, `negotiate_ends_error_iff`, `connect_ends_error_iff`); their
composition is what the whole negotiation can end with (`handshake_ends_error_iff`). A run ends with
such a failure exactly when the proxy's bytes start with such an exchange (`Talk.run_error_iff`).
-/

namespace BrokerRelay

/-! ## §1 Runs that end in a failure -/

/-- A run against a peer that accepts all writes ends in a failure that is no failed read exactly when
the peer's bytes start with an exchange that does. -/
theorem Talk.run_error_iff {ε α : Type} {f : IoFailure → ε} {t : Talk ε α}
    (hreads : t.ReadsFailAs f) {p : Peer} (hroom : p.room = none) {e : ε} (he : ∀ i, e ≠ f i) :
    (t.run p).result = .error e ↔
      ∃ heard said rest, t.Ends heard said (.error e) ∧ p.said = heard ++ rest := by
  constructor
  · intro h
    induction t generalizing p with
    | done r =>
      obtain rfl : r = .error e := h
      exact ⟨[], [], p.said, .done _, rfl⟩
    | send bytes failed next ih =>
      have hall : p.accepts bytes = bytes.length := by simp [Peer.accepts, hroom]
      have hafter : (p.after bytes.length).room = none := by simp [Peer.after, hroom]
      simp only [Talk.run, hall, if_true] at h
      obtain ⟨heard, said, rest, hends, hsaid⟩ := ih hreads hafter h
      exact ⟨heard, bytes ++ said, rest, .send hends, hsaid⟩
    | receive count failed next ih =>
      obtain ⟨rfl, hnext⟩ := hreads
      by_cases hle : count ≤ p.said.length
      · simp only [Talk.run, hle, if_true] at h
        obtain ⟨heard, said, rest, hends, hsaid⟩ :=
          @ih _ (hnext _) { p with said := p.said.drop count } hroom h
        have hlen : (p.said.take count).length = count := List.length_take_of_le hle
        refine ⟨p.said.take count ++ heard, said, rest,
          Talk.ends_receive_iff.mpr ⟨_, heard, rfl, hlen, hends⟩, ?_⟩
        rw [List.append_assoc, ← hsaid, List.take_append_drop]
      · simp only [Talk.run, hle, if_false, Except.error.injEq] at h
        exact absurd h.symm (he _)
    | receiveByte failed next ih =>
      obtain ⟨rfl, hnext⟩ := hreads
      cases hsaid : p.said with
      | nil =>
        simp only [Talk.run, hsaid, Except.error.injEq] at h
        exact absurd h.symm (he _)
      | cons b tail =>
        simp only [Talk.run, hsaid] at h
        obtain ⟨heard, said, rest, hends, htail⟩ := @ih b (hnext b) { p with said := tail } hroom h
        exact ⟨b :: heard, said, rest, .receiveByte hends, congrArg (b :: ·) htail⟩
  · rintro ⟨heard, said, rest, hends, hsaid⟩
    exact (Talk.run_of_ends hends hroom hsaid).1

namespace Dial.Socks5

/-! ## §2 What turns this side down -/

/-- What a proxy says to reject this side, and the reason that is reported: no method is acceptable,
or the login fails. -/
inductive Rejection (c : ProxyClient) : Bytes → String → Prop
  | methods : Rejection c [5, 255] "no acceptable authentication methods"
  | login {k : Config.Credentials} {status : UInt8} : c.credentials = some k →
      (Bytes.encodeUtf8 k.username).length ≤ 255 → (Bytes.encodeUtf8 k.password).length ≤ 255 →
      status ≠ 0 →
      Rejection c [5, 2, 1, status]
        s!"username/password authentication failed with status {status.toNat}"

/-- The proxy's bytes start with a rejection. -/
def Rejected (c : ProxyClient) (said : Bytes) (reason : String) : Prop :=
  ∃ heard, Rejection c heard reason ∧ heard <+: said

/-- The destination can be asked for, and the proxy's bytes start with an admission and the first four
bytes of an answer with another code than success. -/
def Refused (c : ProxyClient) (destination : HostPort) (said : Bytes) (code : UInt8) : Prop :=
  Askable destination ∧ code ≠ 0 ∧
    ∃ s reserved kind, Admission c s ∧ s ++ [5, code, reserved, kind] <+: said

/-- What the reply codes of a refusal mean; a code without a meaning of its own is unknown. -/
inductive ReplyText : UInt8 → String → Prop
  | generalFailure : ReplyText 1 "general SOCKS server failure"
  | notAllowed : ReplyText 2 "connection not allowed by ruleset"
  | networkUnreachable : ReplyText 3 "network unreachable"
  | hostUnreachable : ReplyText 4 "host unreachable"
  | connectionRefused : ReplyText 5 "connection refused"
  | ttlExpired : ReplyText 6 "TTL expired"
  | commandNotSupported : ReplyText 7 "command not supported"
  | addressTypeNotSupported : ReplyText 8 "address type not supported"
  | unassigned {code : UInt8} : code = 0 ∨ 8 < code → ReplyText code "unknown reply code"

theorem replyText_of_unassigned {code : UInt8} (h : code = 0 ∨ 8 < code) :
    replyText code = "unknown reply code" := by
  unfold replyText
  -- none of the codes in the table is left
  split <;> first | rfl | exact absurd h (by decide)

theorem replyText_eq_iff {code : UInt8} {reason : String} :
    replyText code = reason ↔ ReplyText code reason := by
  constructor
  · rintro rfl
    unfold replyText
    split
    · exact .generalFailure
    · exact .notAllowed
    · exact .networkUnreachable
    · exact .hostUnreachable
    · exact .connectionRefused
    · exact .ttlExpired
    · exact .commandNotSupported
    · exact .addressTypeNotSupported
    · exact .unassigned (by grind)
  · intro h
    cases h with
    | unassigned h => exact replyText_of_unassigned h
    | _ => rfl

/-- The destination can be asked for, and the proxy's bytes start with an admission and a grant. -/
def Granted (c : ProxyClient) (destination : HostPort) (said : Bytes) : Prop :=
  Askable destination ∧ ∃ s r, Admission c s ∧ Grant r ∧ s ++ r <+: said

/-- A failure that says more than that the negotiation broke down. -/
def Telling (e : DialFailure) : Prop := ∀ proxy reason, e ≠ .proxyHandshakeFailed proxy reason

theorem telling_rejected (proxy reason : String) : Telling (.proxyAuthRejected proxy reason) :=
  fun _ _ h => by cases h

theorem telling_refused (proxy address : String) (code : UInt8) (reason : String) :
    Telling (.proxyRefused proxy address code reason) := fun _ _ h => by cases h

/-! ## §3 The exchanges that fail in a telling way -/

variable {c : ProxyClient} {target : String} {destination : HostPort} {heard said : Bytes}
  {e : DialFailure}

theorem not_fail_ends {α : Type} {reason : String} (he : Telling e) :
    ¬(Talk.fail (c.handshakeFailed reason) : Talk DialFailure α).Ends heard said (.error e) := by
  intro h
  obtain ⟨-, -, hfail⟩ := Talk.ends_done_iff.mp h
  exact he c.address reason (Except.error.inj hfail)

/-- A login fails in a telling way only by a status. -/
theorem authenticate_ends_error_iff {k : Config.Credentials} (he : Telling e) :
    (authenticate c k).Ends heard said (.error e) ↔
      passwordRequest? k = some said ∧ ∃ status, status ≠ 0 ∧ heard = [1, status] ∧
        e = .proxyAuthRejected c.address
          s!"username/password authentication failed with status {status.toNat}" := by
  unfold authenticate
  cases hreq : passwordRequest? k with
  | none =>
    simp only [reduceCtorEq, false_and, iff_false]
    exact not_fail_ends he
  | some request =>
    simp only [Talk.bind_eq, Talk.say_bind, Talk.hear_bind, Talk.ends_send_iff,
      Talk.ends_receive_iff, Option.some.injEq]
    constructor
    · rintro ⟨more, rfl, answer, rest, rfl, hlen, h⟩
      obtain ⟨v, status, rfl⟩ := List.length_eq_two.mp hlen
      simp only [List.getD_cons_zero, List.getD_cons_succ] at h
      split at h
      · exact absurd h (not_fail_ends he)
      rename_i hv
      split at h
      · rename_i hs
        simp only [Talk.fail_eq, Talk.ends_done_iff, Except.error.injEq] at h
        obtain ⟨rfl, rfl, rfl⟩ := h
        exact ⟨(List.append_nil request).symm, status, hs, by rw [not_not.mp hv]; rfl, rfl⟩
      · simp at h
    · rintro ⟨rfl, status, hs, rfl, rfl⟩
      refine ⟨[], (List.append_nil request).symm, [1, status], [], rfl, rfl, ?_⟩
      simp [authVersion, succeeded, hs]

/-- The negotiation before the request fails in a telling way only by a rejection. -/
theorem negotiate_ends_error_iff (he : Telling e) :
    (∃ said, (negotiate c).Ends heard said (.error e)) ↔
      ∃ reason, Rejection c heard reason ∧ e = .proxyAuthRejected c.address reason := by
  unfold negotiate
  simp only [Talk.bind_eq, Talk.say_bind, Talk.hear_bind, Talk.ends_send_iff, Talk.ends_receive_iff]
  constructor
  · rintro ⟨_, more, rfl, choice, rest, rfl, hlen, h⟩
    obtain ⟨v, method, rfl⟩ := List.length_eq_two.mp hlen
    simp only [List.getD_cons_zero, List.getD_cons_succ] at h
    split at h
    · exact absurd h (not_fail_ends he)
    rename_i hv
    rw [not_not.mp hv]
    split at h
    · simp at h
    split at h
    · -- no method is acceptable
      rename_i hm
      simp only [Talk.fail_eq, Talk.ends_done_iff, Except.error.injEq] at h
      obtain ⟨rfl, rfl, rfl⟩ := h
      exact ⟨_, by rw [hm]; exact .methods, rfl⟩
    cases hk : c.credentials with
    | none =>
      simp only [hk] at h
      exact absurd h (not_fail_ends he)
    | some k =>
      simp only [hk] at h
      split at h
      · rename_i hm
        obtain ⟨hreq, status, hs, rfl, rfl⟩ := (authenticate_ends_error_iff he).mp h
        obtain ⟨hu, hp, -⟩ := passwordRequest?_eq_some_iff.mp hreq
        exact ⟨_, by rw [hm]; exact .login hk hu hp hs, rfl⟩
      · exact absurd h (not_fail_ends he)
  · rintro ⟨reason, hrejection, rfl⟩
    cases hrejection with
    | methods =>
      refine ⟨_, [], rfl, [5, 255], [], rfl, rfl, ?_⟩
      simp [version, methodNone, methodRefused]
    | @login k status hk hu hp hs =>
      obtain ⟨request, hreq⟩ : ∃ request, passwordRequest? k = some request :=
        ⟨_, passwordRequest?_eq_some_iff.mpr ⟨hu, hp, rfl⟩⟩
      have hauth := (authenticate_ends_error_iff (c := c) he).mpr ⟨hreq, status, hs, rfl, rfl⟩
      refine ⟨greeting c ++ request, request, rfl, [5, 2], [1, status], rfl, rfl, ?_⟩
      simpa [version, methodNone, methodRefused, methodPassword, hk] using hauth

theorem not_skipBoundAddress_ends {addressType : UInt8} (he : Telling e) :
    ¬(skipBoundAddress c addressType).Ends heard said (.error e) := by
  unfold skipBoundAddress
  simp only [Talk.bind_eq, Talk.hear_bind, Talk.hearByte_bind, Talk.pure_eq]
  split_ifs
  · simp
  · simp
  · simp
  · exact not_fail_ends he

/-- The request fails in a telling way only by a code. -/
theorem connect_ends_error_iff (he : Telling e) :
    (∃ said, (connect c target destination).Ends heard said (.error e)) ↔
      Askable destination ∧ ∃ code reserved kind, code ≠ 0 ∧ heard = [5, code, reserved, kind] ∧
        e = .proxyRefused c.address target code (replyText code) := by
  rw [← connectRequest?_isSome_iff]
  unfold connect
  cases hreq : connectRequest? destination with
  | none =>
    simp only [Option.isSome_none, Bool.false_eq_true, false_and, iff_false, not_exists]
    exact fun said => not_fail_ends he
  | some request =>
    simp only [Talk.bind_eq, Talk.say_bind, Talk.hear_bind, Talk.ends_send_iff,
      Talk.ends_receive_iff, Option.isSome_some, true_and]
    constructor
    · rintro ⟨_, more, rfl, answer, rest, rfl, hlen, h⟩
      obtain ⟨v, code, reserved, kind, rfl⟩ := List.length_eq_four.mp hlen
      simp only [List.getD_cons_zero, List.getD_cons_succ] at h
      split at h
      · exact absurd h (not_fail_ends he)
      rename_i hv
      rw [not_not.mp hv]
      split at h
      · rename_i hcode
        simp only [Talk.fail_eq, Talk.ends_done_iff, Except.error.injEq] at h
        obtain ⟨rfl, rfl, rfl⟩ := h
        exact ⟨code, reserved, kind, hcode, rfl, rfl⟩
      · exact absurd h (not_skipBoundAddress_ends he)
    · rintro ⟨code, reserved, kind, hcode, rfl, rfl⟩
      refine ⟨_, [], rfl, [5, code, reserved, kind], [], rfl, rfl, ?_⟩
      simp [version, succeeded, hcode]

/-- The whole negotiation fails in a telling way by a rejection, or by a code after an admission. -/
theorem handshake_ends_error_iff (hsplit : splitTarget target = .ok destination) (he : Telling e) :
    (∃ said, (handshake c target).Ends heard said (.error e)) ↔
      (∃ reason, Rejection c heard reason ∧ e = .proxyAuthRejected c.address reason) ∨
      Askable destination ∧ ∃ s code reserved kind, Admission c s ∧ code ≠ 0 ∧
        heard = s ++ [5, code, reserved, kind] ∧
        e = .proxyRefused c.address target code (replyText code) := by
  unfold handshake
  simp only [hsplit, Talk.bind_eq, Talk.bind_ends_iff, Except.error.injEq]
  constructor
  · rintro ⟨said, ⟨_, hneg, rfl⟩ | ⟨_, s, said₁, r, said₂, hneg, hconnect, rfl, rfl⟩⟩
    · exact .inl ((negotiate_ends_error_iff he).mp ⟨said, hneg⟩)
    · obtain ⟨haskable, code, reserved, kind, hcode, rfl, rfl⟩ :=
        (connect_ends_error_iff he).mp ⟨said₂, hconnect⟩
      have hadmission := negotiate_passes_iff_admission.mp ⟨said₁, hneg⟩
      exact .inr ⟨haskable, s, code, reserved, kind, hadmission, hcode, rfl, rfl⟩
  · rintro (hrejection | ⟨haskable, s, code, reserved, kind, hadmission, hcode, rfl, rfl⟩)
    · obtain ⟨said, hneg⟩ := (negotiate_ends_error_iff he).mpr hrejection
      exact ⟨said, .inl ⟨e, hneg, rfl⟩⟩
    · obtain ⟨said₁, hneg⟩ := negotiate_passes_iff_admission.mpr hadmission
      obtain ⟨said₂, hconnect⟩ := (connect_ends_error_iff he).mpr
        ⟨haskable, code, reserved, kind, hcode, rfl, rfl⟩
      exact ⟨_, .inr ⟨(), s, said₁, _, said₂, hneg, hconnect, rfl, rfl⟩⟩

/-! ## §4 Runs -/

variable {p : Peer}

/-- A target that is no address ends the negotiation before it begins. -/
theorem run_of_no_address (h : splitTarget target = .error e) :
    (handshake c target).run p = ⟨.error (.invalidAddress target), [], p⟩ := by
  obtain rfl := splitTarget_eq_error h
  unfold handshake
  rw [h]
  rfl

theorem run_error_iff (hsplit : splitTarget target = .ok destination) (hroom : p.room = none)
    (he : Telling e) : ((handshake c target).run p).result = .error e ↔
      (∃ reason, Rejected c p.said reason ∧ e = .proxyAuthRejected c.address reason) ∨
      ∃ code, Refused c destination p.said code ∧
        e = .proxyRefused c.address target code (replyText code) := by
  rw [Talk.run_error_iff (handshake_failsAs c target).readsFailAs hroom fun i => he c.address i.message]
  constructor
  · rintro ⟨heard, said, rest, hends, hsaid⟩
    have hprefix : heard <+: p.said := ⟨rest, hsaid.symm⟩
    rcases (handshake_ends_error_iff hsplit he).mp ⟨said, hends⟩ with
      ⟨reason, hrejection, rfl⟩ | ⟨haskable, s, code, reserved, kind, hadmission, hcode, rfl, rfl⟩
    · exact .inl ⟨reason, ⟨heard, hrejection, hprefix⟩, rfl⟩
    · exact .inr ⟨code, ⟨haskable, hcode, s, reserved, kind, hadmission, hprefix⟩, rfl⟩
  · rintro (⟨reason, ⟨heard, hrejection, rest, hsaid⟩, rfl⟩ |
      ⟨code, ⟨haskable, hcode, s, reserved, kind, hadmission, rest, hsaid⟩, rfl⟩)
    · obtain ⟨said, hends⟩ := (handshake_ends_error_iff hsplit he).mpr (.inl ⟨reason, hrejection, rfl⟩)
      exact ⟨heard, said, rest, hends, hsaid.symm⟩
    · obtain ⟨said, hends⟩ := (handshake_ends_error_iff hsplit he).mpr
        (.inr ⟨haskable, s, code, reserved, kind, hadmission, hcode, rfl, rfl⟩)
      exact ⟨_, said, rest, hends, hsaid.symm⟩

theorem run_ok_iff_granted (hsplit : splitTarget target = .ok destination) (hroom : p.room = none) :
    ((handshake c target).run p).result = .ok () ↔ Granted c destination p.said := by
  rw [Talk.run_ok_iff hroom]
  constructor
  · rintro ⟨heard, said, rest, hends, hsaid⟩
    obtain ⟨_, _, _, request, -, hreq, -⟩ := (handshake_ends_ok_iff hsplit).mp hends
    have haskable := connectRequest?_isSome_iff.mp (Option.isSome_of_eq_some hreq)
    obtain ⟨s, r, hadmission, hgrant, rfl⟩ := (handshake_passes_iff hsplit haskable).mp ⟨said, hends⟩
    exact ⟨haskable, s, r, hadmission, hgrant, rest, hsaid.symm⟩
  · rintro ⟨haskable, s, r, hadmission, hgrant, rest, hsaid⟩
    obtain ⟨said, hends⟩ :=
      (handshake_passes_iff hsplit haskable).mpr ⟨s, r, hadmission, hgrant, rfl⟩
    exact ⟨s ++ r, said, rest, hends, hsaid.symm⟩

/-- The target is an address, or it is none and that is the failure. -/
theorem splitTarget_cases (target : String) :
    (∃ destination, splitTarget target = .ok destination) ∨
      splitTarget target = .error (.invalidAddress target) := by
  cases hsplit : splitTarget target with
  | ok destination => exact .inl ⟨destination, rfl⟩
  | error e => exact .inr (by rw [splitTarget_eq_error hsplit])

theorem failure_cases (h : ((handshake c target).run p).result = .error e) :
    OfClient c target e ∨ e = .invalidAddress target :=
  (Talk.error_of_failsWith (handshake_failsWith c target) h).imp_right splitTarget_eq_error

theorem run_invalidAddress_iff {address : String} :
    ((handshake c target).run p).result = .error (.invalidAddress address) ↔
      address = target ∧ splitTarget target = .error (.invalidAddress target) := by
  constructor
  · intro h
    rcases Talk.error_of_failsWith (handshake_failsWith c target) h with hclient | hsplit
    · cases hclient
    · have heq := splitTarget_eq_error hsplit
      cases heq
      exact ⟨rfl, hsplit⟩
  · rintro ⟨rfl, hsplit⟩
    rw [run_of_no_address hsplit]

theorem run_rejected_iff (hroom : p.room = none) {proxy reason : String} :
    ((handshake c target).run p).result = .error (.proxyAuthRejected proxy reason) ↔
      proxy = c.address ∧ (∃ destination, splitTarget target = .ok destination) ∧
        Rejected c p.said reason := by
  rcases splitTarget_cases target with ⟨destination, hsplit⟩ | hsplit
  · rw [run_error_iff hsplit hroom (telling_rejected _ _)]
    constructor
    · rintro (⟨_, hrejected, heq⟩ | ⟨_, _, heq⟩)
      · cases heq
        exact ⟨rfl, ⟨destination, hsplit⟩, hrejected⟩
      · cases heq
    · rintro ⟨rfl, -, hrejected⟩
      exact .inl ⟨reason, hrejected, rfl⟩
  · rw [run_of_no_address hsplit, hsplit]
    simp only [Except.error.injEq, reduceCtorEq, exists_false, false_and, and_false]

theorem run_refused_iff (hroom : p.room = none) {proxy address reason : String} {code : UInt8} :
    ((handshake c target).run p).result = .error (.proxyRefused proxy address code reason) ↔
      proxy = c.address ∧ address = target ∧ ReplyText code reason ∧
        ∃ destination, splitTarget target = .ok destination ∧
          Refused c destination p.said code := by
  rcases splitTarget_cases target with ⟨destination, hsplit⟩ | hsplit
  · rw [run_error_iff hsplit hroom (telling_refused _ _ _ _), hsplit]
    constructor
    · rintro (⟨_, _, heq⟩ | ⟨_, hrefused, heq⟩)
      · cases heq
      · cases heq
        exact ⟨rfl, rfl, replyText_eq_iff.mp rfl, destination, rfl, hrefused⟩
    · rintro ⟨rfl, rfl, htext, _, hsame, hrefused⟩
      obtain rfl := replyText_eq_iff.mpr htext
      cases hsame
      exact .inr ⟨code, hrefused, rfl⟩
  · rw [run_of_no_address hsplit, hsplit]
    simp only [Except.error.injEq, reduceCtorEq, exists_false, false_and, and_false]

/-- What is neither granted nor turned down is a failed handshake. -/
theorem run_handshakeFailed_iff (hroom : p.room = none) :
    (∃ reason, ((handshake c target).run p).result
        = .error (.proxyHandshakeFailed c.address reason)) ↔
      ∃ destination, splitTarget target = .ok destination ∧ ¬Granted c destination p.said ∧
        (∀ reason, ¬Rejected c p.said reason) ∧ ∀ code, ¬Refused c destination p.said code := by
  constructor
  · rintro ⟨reason, h⟩
    rcases splitTarget_cases target with ⟨destination, hsplit⟩ | hsplit
    · refine ⟨destination, hsplit, fun hgranted => ?_, fun reason hrejected => ?_,
        fun code hrefused => ?_⟩
      · rw [(run_ok_iff_granted hsplit hroom).mpr hgranted] at h
        cases h
      · rw [(run_rejected_iff hroom).mpr ⟨rfl, ⟨destination, hsplit⟩, hrejected⟩] at h
        cases h
      · have htext : ReplyText code (replyText code) := replyText_eq_iff.mp rfl
        rw [(run_refused_iff hroom).mpr ⟨rfl, rfl, htext, destination, hsplit, hrefused⟩] at h
        cases h
    · rw [run_of_no_address hsplit] at h
      cases h
  · rintro ⟨destination, hsplit, hgranted, hrejected, hrefused⟩
    cases hresult : ((handshake c target).run p).result with
    | ok _ => exact absurd ((run_ok_iff_granted hsplit hroom).mp hresult) hgranted
    | error e =>
      rcases failure_cases hresult with (⟨reason⟩ | ⟨code⟩ | ⟨reason⟩) | rfl
      · exact absurd ((run_rejected_iff hroom).mp hresult).2.2 (hrejected reason)
      · obtain ⟨-, -, -, _, hsame, hrefusal⟩ := (run_refused_iff hroom).mp hresult
        obtain rfl := Except.ok.inj (hsplit.symm.trans hsame)
        exact absurd hrefusal (hrefused code)
      · exact ⟨reason, rfl⟩
      · exact absurd ((run_invalidAddress_iff.mp hresult).2.symm.trans hsplit) (by simp)

/-- **The kind of a failure tells who turned this side down, and where.** Against a proxy that accepts
all writes, the negotiation fails
* with an invalid address exactly when the target is none; then nothing is said or read;
* with a rejection exactly when the target is an address and the proxy's bytes start with one: no
  method is acceptable, or the login of credentials that can be sent gets another status than success;
* with a refusal exactly when the target is an address whose host can be asked for, and the proxy's
  bytes start with an admission and an answer with another code than success; the refusal carries the
  code, what `ReplyText` says that it means, and the target as it was given;
* with a failed handshake exactly when the target is an address and the proxy's bytes neither grant
  the connection nor turn this side down in one of these ways.

There are no other failures, and each of the last three names the proxy of the client. -/
theorem failures_told_apart (c : ProxyClient) (target : String) (p : Peer) (hroom : p.room = none) :
    (∀ address, ((handshake c target).run p).result = .error (.invalidAddress address) ↔
      address = target ∧ splitTarget target = .error (.invalidAddress target)) ∧
    (splitTarget target = .error (.invalidAddress target) →
      ((handshake c target).run p).passages = [] ∧ ((handshake c target).run p).peer = p) ∧
    (∀ proxy reason,
      ((handshake c target).run p).result = .error (.proxyAuthRejected proxy reason) ↔
        proxy = c.address ∧ (∃ destination, splitTarget target = .ok destination) ∧
          Rejected c p.said reason) ∧
    (∀ proxy address code reason,
      ((handshake c target).run p).result = .error (.proxyRefused proxy address code reason) ↔
        proxy = c.address ∧ address = target ∧ ReplyText code reason ∧
          ∃ destination, splitTarget target = .ok destination ∧
            Refused c destination p.said code) ∧
    ((∃ reason, ((handshake c target).run p).result
        = .error (.proxyHandshakeFailed c.address reason)) ↔
      ∃ destination, splitTarget target = .ok destination ∧ ¬Granted c destination p.said ∧
        (∀ reason, ¬Rejected c p.said reason) ∧ ∀ code, ¬Refused c destination p.said code) ∧
    ∀ e, ((handshake c target).run p).result = .error e →
      (∃ address, e = .invalidAddress address) ∨
      (∃ proxy reason, e = .proxyAuthRejected proxy reason) ∨
      (∃ proxy address code reason, e = .proxyRefused proxy address code reason) ∨
      ∃ reason, e = .proxyHandshakeFailed c.address reason := by
  refine ⟨fun _ => run_invalidAddress_iff, fun hsplit => ?_, fun _ _ => run_rejected_iff hroom,
    fun _ _ _ _ => run_refused_iff hroom, run_handshakeFailed_iff hroom, fun e h => ?_⟩
  · rw [run_of_no_address hsplit]
    exact ⟨rfl, rfl⟩
  · rcases failure_cases h with (⟨reason⟩ | ⟨code⟩ | ⟨reason⟩) | rfl
    · exact .inr (.inl ⟨_, reason, rfl⟩)
    · exact .inr (.inr (.inl ⟨_, _, code, _, rfl⟩))
    · exact .inr (.inr (.inr ⟨reason, rfl⟩))
    · exact .inl ⟨target, rfl⟩

/-- A proxy accepts a login and then refuses the connection with four bytes and no bound address, with a
code of the table or with one that is not in it. Cut short before the last of them, the same answer is a
failed handshake, and neither a refusal nor anything else that the proxy can be said to have answered. -/
theorem failures_told_apart_after_login :
    let c : ProxyClient :=
      ⟨"tcp", "127.0.0.1:1080", some ⟨"user", "secret", by decide, by decide⟩, .ofSecs 10⟩
    let refusing (code : UInt8) : Peer := ⟨[5, 2, 1, 0, 5, code, 0, 1], .closed, none⟩
    let stopping : Peer := ⟨[5, 2, 1, 0, 5, 5, 0], .closed, none⟩
    (∀ code, (refusing code).room = none) ∧ stopping.room = none ∧
      ((handshake c "kafka:9092").run (refusing 2)).result =
        .error (.proxyRefused "127.0.0.1:1080" "kafka:9092" 2 "connection not allowed by ruleset") ∧
      ((handshake c "kafka:9092").run (refusing 5)).result =
        .error (.proxyRefused "127.0.0.1:1080" "kafka:9092" 5 "connection refused") ∧
      ((handshake c "kafka:9092").run (refusing 9)).result =
        .error (.proxyRefused "127.0.0.1:1080" "kafka:9092" 9 "unknown reply code") ∧
      ∃ destination, splitTarget "kafka:9092" = .ok destination ∧
        ¬Granted c destination stopping.said ∧ (∀ reason, ¬Rejected c stopping.said reason) ∧
        ∀ code, ¬Refused c destination stopping.said code := by
  intro c refusing stopping
  have hsplit : splitTarget "kafka:9092" = .ok ⟨['k', 'a', 'f', 'k', 'a'], 9092⟩ := rfl
  have hadmission : Admission c [5, 2, 1, 0] := .login rfl (by decide) (by decide)
  have hrefuses : ∀ code reason, code ≠ 0 → ReplyText code reason →
      ((handshake c "kafka:9092").run (refusing code)).result =
        .error (.proxyRefused "127.0.0.1:1080" "kafka:9092" code reason) := by
    intro code reason hcode htext
    obtain ⟨-, -, -, hrefused, -, -⟩ := failures_told_apart c "kafka:9092" (refusing code) rfl
    exact (hrefused _ _ _ _).mpr ⟨rfl, rfl, htext, _, hsplit, .inr (by decide), hcode,
      [5, 2, 1, 0], 0, 1, hadmission, List.prefix_rfl⟩
  obtain ⟨-, -, -, -, hfailed, -⟩ := failures_told_apart c "kafka:9092" stopping rfl
  have hstopped : ((handshake c "kafka:9092").run stopping).result =
      .error (.proxyHandshakeFailed "127.0.0.1:1080" IoFailure.earlyEof.message) := by
    decide +kernel
  refine ⟨fun _ => rfl, rfl, ?_, ?_, ?_, hfailed.mp ⟨_, hstopped⟩⟩
  · exact hrefuses 2 _ (by decide) .notAllowed
  · exact hrefuses 5 _ (by decide) .connectionRefused
  · exact hrefuses 9 _ (by decide) (.unassigned (.inr (by decide)))

end Dial.Socks5

end BrokerRelay
