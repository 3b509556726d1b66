import BrokerRelay.Dial.Socks5
import BrokerRelay.Proofs.Dial.Exchange
/-!
# When a SOCKS5 tunnel stands

The proxy's side of a negotiation as a grammar: `Admission` is what lets this side pass, `Grant` an
answer that opens the connection. Main statement: for a target that can be asked for, the negotiation
succeeds exactly when the proxy's bytes start with an admission and a grant, and then it has taken
those and not one byte more.

The exchanges of each step are computed first (`authenticate_ends_ok_iff`, `negotiate_ends_ok_iff`,
`connect_ends_ok_iff`); the step for the whole negotiation is their composition.
-/

namespace BrokerRelay.Dial.Socks5

/-! ## §1 The proxy's side as a grammar -/

/-- What a proxy says to let this side pass: the method without authentication, or the one with user
name and password and then that they are accepted. -/
inductive Admission (c : ProxyClient) : Bytes → Prop
  | free : Admission c [5, 0]
  | login {k : Config.Credentials} : c.credentials = some k →
      (Bytes.encodeUtf8 k.username).length ≤ 255 → (Bytes.encodeUtf8 k.password).length ≤ 255 →
      Admission c [5, 2, 1, 0]

/-- What a proxy says to open the connection: success, and the bound address in one of three forms.
The reserved byte is not looked at. -/
inductive Grant : Bytes → Prop
  | ipv4 (reserved : UInt8) {bound : Bytes} : bound.length = 6 → Grant ([5, 0, reserved, 1] ++ bound)
  | ipv6 (reserved : UInt8) {bound : Bytes} : bound.length = 18 → Grant ([5, 0, reserved, 4] ++ bound)
  | domain (reserved n : UInt8) {bound : Bytes} : bound.length = n.toNat + 2 →
      Grant ([5, 0, reserved, 3, n] ++ bound)

/-- The destination can be asked for: it is an IP literal, or one byte can hold the host's length. -/
def Askable (destination : HostPort) : Prop :=
  (IpAddress.ofChars? destination.host).isSome ∨
    (Bytes.encodeChars destination.host).length ≤ 255

/-! ## §2 What can be encoded -/

theorem counted?_eq_some_iff {bytes counted : Bytes} :
    counted? bytes = some counted ↔
      bytes.length ≤ 255 ∧ counted = UInt8.ofNat bytes.length :: bytes := by
  unfold counted?
  split
  · simp only [Option.some.injEq]
    constructor
    · rintro rfl
      exact ⟨by omega, rfl⟩
    · rintro ⟨-, rfl⟩
      rfl
  · simp only [reduceCtorEq, false_iff]
    omega

theorem passwordRequest?_eq_some_iff {k : Config.Credentials} {request : Bytes} :
    passwordRequest? k = some request ↔
      (Bytes.encodeUtf8 k.username).length ≤ 255 ∧ (Bytes.encodeUtf8 k.password).length ≤ 255 ∧
        request = authVersion ::
          (UInt8.ofNat (Bytes.encodeUtf8 k.username).length :: Bytes.encodeUtf8 k.username) ++
          (UInt8.ofNat (Bytes.encodeUtf8 k.password).length :: Bytes.encodeUtf8 k.password) := by
  unfold passwordRequest?
  constructor
  · intro h
    obtain ⟨username, hu, h⟩ := Option.bind_eq_some_iff.mp h
    obtain ⟨password, hp, h⟩ := Option.bind_eq_some_iff.mp h
    obtain ⟨hul, rfl⟩ := counted?_eq_some_iff.mp hu
    obtain ⟨hpl, rfl⟩ := counted?_eq_some_iff.mp hp
    cases h
    exact ⟨hul, hpl, rfl⟩
  · rintro ⟨hul, hpl, rfl⟩
    rw [counted?_eq_some_iff.mpr ⟨hul, rfl⟩, counted?_eq_some_iff.mpr ⟨hpl, rfl⟩]
    rfl

theorem connectRequest?_isSome_iff {destination : HostPort} :
    (connectRequest? destination).isSome ↔ Askable destination := by
  unfold connectRequest? addressField? Askable
  cases IpAddress.ofChars? destination.host with
  | some ip => simp
  | none =>
    simp only [Option.isSome_map, Option.isSome_none, Bool.false_eq_true, false_or]
    rw [Option.isSome_iff_exists]
    constructor
    · rintro ⟨_, h⟩
      exact (counted?_eq_some_iff.mp h).1
    · intro h
      exact ⟨_, counted?_eq_some_iff.mpr ⟨h, rfl⟩⟩

/-! ## §3 The exchanges of each step -/

theorem authenticate_ends_ok_iff {c : ProxyClient} {k : Config.Credentials} {heard said : Bytes} :
    (authenticate c k).Ends heard said (.ok ()) ↔
      passwordRequest? k = some said ∧ heard = [1, 0] := by
  unfold authenticate
  cases hreq : passwordRequest? k with
  | none => simp
  | some request =>
    simp only [Talk.bind_eq, Talk.say_bind, Talk.hear_bind, Talk.ends_send_iff,
      Talk.ends_receive_iff, Option.some.injEq]
    constructor
    · rintro ⟨more, rfl, answer, rest, rfl, hlen, h⟩
      obtain ⟨v, status, rfl⟩ := List.length_eq_two.mp hlen
      simp only [List.getD_cons_zero, List.getD_cons_succ] at h
      split at h
      · simp at h
      rename_i hv
      split at h
      · simp at h
      rename_i hs
      simp only [Talk.pure_eq, Talk.ends_done_iff, and_true] at h
      obtain ⟨rfl, rfl⟩ := h
      rw [not_not.mp hv, not_not.mp hs]
      exact ⟨(List.append_nil request).symm, rfl⟩
    · rintro ⟨rfl, rfl⟩
      refine ⟨[], (List.append_nil request).symm, [1, 0], [], rfl, rfl, ?_⟩
      simp [authVersion, succeeded]

theorem negotiate_ends_ok_iff {c : ProxyClient} {heard said : Bytes} :
    (negotiate c).Ends heard said (.ok ()) ↔
      (heard = [5, 0] ∧ said = greeting c) ∨
      ∃ k request, c.credentials = some k ∧ passwordRequest? k = some request ∧
        heard = [5, 2, 1, 0] ∧ said = greeting c ++ request := by
  unfold negotiate
  simp only [Talk.bind_eq, Talk.say_bind, Talk.hear_bind, Talk.ends_send_iff, Talk.ends_receive_iff]
  constructor
  · rintro ⟨more, rfl, choice, rest, rfl, hlen, h⟩
    obtain ⟨v, method, rfl⟩ := List.length_eq_two.mp hlen
    simp only [List.getD_cons_zero, List.getD_cons_succ] at h
    split at h
    · simp at h
    rename_i hv
    rw [not_not.mp hv]
    split at h
    · -- no authentication
      rename_i hm
      simp only [Talk.pure_eq, Talk.ends_done_iff, and_true] at h
      obtain ⟨rfl, rfl⟩ := h
      exact .inl ⟨by rw [hm]; rfl, List.append_nil _⟩
    split at h
    · simp at h
    -- what is left goes on only with credentials and the method that asks for them
    cases hk : c.credentials with
    | none => simp [hk] at h
    | some k =>
      simp only [hk] at h
      split at h
      · rename_i hm
        obtain ⟨hreq, rfl⟩ := authenticate_ends_ok_iff.mp h
        exact .inr ⟨k, more, rfl, hreq, by rw [hm]; rfl, rfl⟩
      · simp at h
  · rintro (⟨rfl, rfl⟩ | ⟨k, request, hk, hreq, rfl, rfl⟩)
    · refine ⟨[], (List.append_nil _).symm, [5, 0], [], rfl, rfl, ?_⟩
      simp [version, methodNone]
    · refine ⟨request, rfl, [5, 2], [1, 0], rfl, rfl, ?_⟩
      have hauth := authenticate_ends_ok_iff (c := c).mpr ⟨hreq, rfl⟩
      simpa [version, methodNone, methodRefused, methodPassword, hk] using hauth

theorem skipBoundAddress_ends_ok_iff {c : ProxyClient} {addressType : UInt8} {heard said : Bytes} :
    (skipBoundAddress c addressType).Ends heard said (.ok ()) ↔
      said = [] ∧ ((addressType = 1 ∧ heard.length = 6) ∨ (addressType = 4 ∧ heard.length = 18) ∨
        (addressType = 3 ∧ ∃ n bound, heard = n :: bound ∧ bound.length = n.toNat + 2)) := by
  unfold skipBoundAddress
  simp only [Talk.bind_eq, Talk.hear_bind, Talk.hearByte_bind, Talk.pure_eq, Talk.fail_eq,
    typeIpv4, typeIpv6, typeDomain]
  by_cases h4 : addressType = 1
  · subst h4
    simp [and_comm]
  by_cases h6 : addressType = 4
  · subst h6
    simp [and_comm]
  by_cases hd : addressType = 3
  · subst hd
    simp only [h4, h6, if_true, if_false, false_and, true_and, false_or, Talk.ends_receiveByte_iff,
      Talk.ends_receive_iff, Talk.ends_done_iff, and_true]
    constructor
    · rintro ⟨n, _, rfl, bound, _, rfl, hlen, rfl, rfl⟩
      exact ⟨rfl, n, bound, by rw [List.append_nil], hlen⟩
    · rintro ⟨rfl, n, bound, rfl, hlen⟩
      exact ⟨n, bound, rfl, bound, [], (List.append_nil bound).symm, hlen, rfl, rfl⟩
  · simp [h4, h6, hd]

theorem connect_ends_ok_iff {c : ProxyClient} {target : String} {destination : HostPort}
    {heard said : Bytes} :
    (connect c target destination).Ends heard said (.ok ()) ↔
      connectRequest? destination = some said ∧ Grant heard := by
  unfold connect
  cases hreq : connectRequest? destination with
  | none => simp
  | some request =>
    simp only [Talk.bind_eq, Talk.say_bind, Talk.hear_bind, Talk.ends_send_iff,
      Talk.ends_receive_iff, Option.some.injEq]
    constructor
    · rintro ⟨more, rfl, answer, rest, rfl, hlen, h⟩
      obtain ⟨v, code, reserved, addressType, rfl⟩ := List.length_eq_four.mp hlen
      simp only [List.getD_cons_zero, List.getD_cons_succ] at h
      split at h
      · simp at h
      rename_i hv
      split at h
      · simp at h
      rename_i hcode
      rw [not_not.mp hv, not_not.mp hcode]
      obtain ⟨rfl, hbound⟩ := skipBoundAddress_ends_ok_iff.mp h
      refine ⟨(List.append_nil request).symm, ?_⟩
      rcases hbound with ⟨rfl, hbound⟩ | ⟨rfl, hbound⟩ | ⟨rfl, n, bound, rfl, hbound⟩
      · exact .ipv4 reserved hbound
      · exact .ipv6 reserved hbound
      · exact .domain reserved n hbound
    · rintro ⟨rfl, hgrant⟩
      refine ⟨[], (List.append_nil request).symm, ?_⟩
      cases hgrant with
      | @ipv4 reserved bound hlen =>
        refine ⟨[5, 0, reserved, 1], bound, rfl, rfl, ?_⟩
        simp [version, succeeded, skipBoundAddress_ends_ok_iff, hlen]
      | @ipv6 reserved bound hlen =>
        refine ⟨[5, 0, reserved, 4], bound, rfl, rfl, ?_⟩
        simp [version, succeeded, skipBoundAddress_ends_ok_iff, hlen]
      | @domain reserved n bound hlen =>
        refine ⟨[5, 0, reserved, 3], n :: bound, rfl, rfl, ?_⟩
        simp [version, succeeded, skipBoundAddress_ends_ok_iff, hlen]

/-! ## §4 The whole negotiation -/

/-- The exchanges with which the negotiation for a destination succeeds. -/
theorem handshake_ends_ok_iff {c : ProxyClient} {target : String} {destination : HostPort}
    (hsplit : splitTarget target = .ok destination) {heard said : Bytes} :
    (handshake c target).Ends heard said (.ok ()) ↔
      ∃ heard₁ said₁ heard₂ said₂, (negotiate c).Ends heard₁ said₁ (.ok ()) ∧
        connectRequest? destination = some said₂ ∧ Grant heard₂ ∧
        heard = heard₁ ++ heard₂ ∧ said = said₁ ++ said₂ := by
  unfold handshake
  simp only [hsplit, Talk.bind_eq, Talk.bind_ends_ok_iff, connect_ends_ok_iff]
  constructor
  · rintro ⟨_, h₁, s₁, h₂, s₂, hneg, ⟨hreq, hgrant⟩, rfl, rfl⟩
    exact ⟨h₁, s₁, h₂, s₂, hneg, hreq, hgrant, rfl, rfl⟩
  · rintro ⟨h₁, s₁, h₂, s₂, hneg, hreq, hgrant, rfl, rfl⟩
    exact ⟨(), h₁, s₁, h₂, s₂, hneg, ⟨hreq, hgrant⟩, rfl, rfl⟩

/-- The negotiation before the request is passed exactly on an admission. -/
theorem negotiate_passes_iff_admission {c : ProxyClient} {heard : Bytes} :
    (∃ said, (negotiate c).Ends heard said (.ok ())) ↔ Admission c heard := by
  simp only [negotiate_ends_ok_iff]
  constructor
  · rintro ⟨said, ⟨rfl, -⟩ | ⟨k, request, hk, hreq, rfl, -⟩⟩
    · exact .free
    · obtain ⟨hu, hp, -⟩ := passwordRequest?_eq_some_iff.mp hreq
      exact .login hk hu hp
  · rintro (_ | ⟨hk, hu, hp⟩)
    · exact ⟨_, .inl ⟨rfl, rfl⟩⟩
    · exact ⟨_, .inr ⟨_, _, hk, passwordRequest?_eq_some_iff.mpr ⟨hu, hp, rfl⟩, rfl, rfl⟩⟩

/-- For a destination that can be asked for, some exchange that succeeds hears an admission and a
grant, and every such exchange does. -/
theorem handshake_passes_iff {c : ProxyClient} {target : String} {destination : HostPort}
    (hsplit : splitTarget target = .ok destination) (haskable : Askable destination)
    {heard : Bytes} :
    (∃ said, (handshake c target).Ends heard said (.ok ())) ↔
      ∃ s r, Admission c s ∧ Grant r ∧ heard = s ++ r := by
  obtain ⟨request, hreq⟩ := Option.isSome_iff_exists.mp (connectRequest?_isSome_iff.mpr haskable)
  simp only [handshake_ends_ok_iff hsplit, ← negotiate_passes_iff_admission]
  constructor
  · rintro ⟨said, s, said₁, r, said₂, hneg, -, hgrant, rfl, rfl⟩
    exact ⟨s, r, ⟨said₁, hneg⟩, hgrant, rfl⟩
  · rintro ⟨s, r, ⟨said₁, hneg⟩, hgrant, rfl⟩
    exact ⟨_, s, said₁, r, request, hneg, hreq, hgrant, rfl, rfl⟩

/-- **The tunnel stands exactly on an admission and a grant, and nothing beyond them is read.** For a
target whose destination can be asked for, and a proxy that accepts what is written: the negotiation
succeeds if and only if the proxy's bytes are an admission, a grant and a tail; and then it has
consumed exactly the first two, so that the tail is what is still unread. -/
theorem tunnel_stands_iff_granted (c : ProxyClient) (target : String) (destination : HostPort)
    (hsplit : splitTarget target = .ok destination) (haskable : Askable destination)
    (p : Peer) (hroom : p.room = none) :
    (((handshake c target).run p).result = .ok () ↔
      ∃ s r tail, Admission c s ∧ Grant r ∧ p.said = s ++ r ++ tail) ∧
    ∀ s r tail, Admission c s → Grant r → p.said = s ++ r ++ tail →
      ((handshake c target).run p).consumed = s.length + r.length ∧
        ((handshake c target).run p).peer.said = tail := by
  constructor
  · rw [Talk.run_ok_iff hroom]
    constructor
    · rintro ⟨heard, said, tail, hends, hsaid⟩
      obtain ⟨s, r, hs, hr, rfl⟩ := (handshake_passes_iff hsplit haskable).mp ⟨said, hends⟩
      exact ⟨s, r, tail, hs, hr, hsaid⟩
    · rintro ⟨s, r, tail, hs, hr, hsaid⟩
      obtain ⟨said, hends⟩ := (handshake_passes_iff hsplit haskable).mpr ⟨s, r, hs, hr, rfl⟩
      exact ⟨s ++ r, said, tail, hends, hsaid⟩
  · intro s r tail hs hr hsaid
    obtain ⟨said, hends⟩ := (handshake_passes_iff hsplit haskable).mpr ⟨s, r, hs, hr, rfl⟩
    obtain ⟨-, -, hcount, hpeer⟩ := Talk.run_of_ends hends hroom hsaid
    refine ⟨by rw [hcount, List.length_append], ?_⟩
    rw [hpeer]

/-- A proxy that asks for a login, names its bound address as a domain and then goes on with two
bytes of the tunnel: the tunnel stands, and those two bytes are unread. -/
theorem tunnel_stands_after_login :
    let c : ProxyClient :=
      ⟨"tcp", "127.0.0.1:1080", some ⟨"user", "secret", by decide, by decide⟩, .ofSecs 10⟩
    let destination : HostPort := ⟨['k', 'a', 'f', 'k', 'a'], 9092⟩
    let p : Peer := ⟨[5, 2, 1, 0, 5, 0, 0, 3, 1, 104, 0, 1, 22, 3], .closed, none⟩
    splitTarget "kafka:9092" = .ok destination ∧ Askable destination ∧ p.room = none ∧
      ((handshake c "kafka:9092").run p).result = .ok () ∧
      ((handshake c "kafka:9092").run p).consumed = 12 ∧
      ((handshake c "kafka:9092").run p).peer.said = [22, 3] := by
  intro c destination p
  have hsplit : splitTarget "kafka:9092" = .ok destination := rfl
  have haskable : Askable destination := .inr (by decide)
  have hadmission : Admission c [5, 2, 1, 0] := .login rfl (by decide) (by decide)
  have hgrant : Grant [5, 0, 0, 3, 1, 104, 0, 1] := .domain 0 1 rfl
  obtain ⟨hok, hrest⟩ := tunnel_stands_iff_granted c "kafka:9092" destination hsplit haskable p rfl
  obtain ⟨hcount, htail⟩ := hrest [5, 2, 1, 0] [5, 0, 0, 3, 1, 104, 0, 1] [22, 3] hadmission hgrant rfl
  exact ⟨hsplit, haskable, rfl, hok.mpr ⟨_, _, [22, 3], hadmission, hgrant, rfl⟩, hcount, htail⟩

end BrokerRelay.Dial.Socks5
