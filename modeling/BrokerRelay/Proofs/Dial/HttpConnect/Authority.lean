import BrokerRelay.Proofs.Address.HostPort
import BrokerRelay.Proofs.Address.Literal
import BrokerRelay.Proofs.Dial.HttpConnect.RequestHead
import BrokerRelay.Proofs.Dial.Socks5.Server
/-!
# Where a request for a tunnel leads

The proxy's reading of a request-target: a host, a colon and a port in digits, written from the grammar
of authorities in URIs and not from the client. It is narrower than the reading of an address
(`ofChars?_of_authority`): an IPv6 literal stands between brackets and nothing else does, a name has only
the characters that URIs have names with, and a port has no sign.

What is read from a request is the whole target, if the target has no blank (`target_of_ofBytes?`).
-/

namespace BrokerRelay.Dial

/-- Where a connection is to lead, as the one understands it who is to make it. -/
structure Destination where
  host : Socks5.Requested
  port : UInt16
deriving DecidableEq, Repr

namespace HttpConnect.Authority

open Socks5 (Requested)

/-! ## §1 The grammar of an authority -/

/-- A character that names are written with. -/
def isNameChar (c : Char) : Bool := c.isAlphanum || "-._~!$&'()*+,;=".toList.contains c

/-- A name: its characters, and triplets of a percent sign and two hexadecimal digits. -/
def isName : List Char → Bool
  | '%' :: hi :: lo :: rest =>
    (Bytes.hexDigit? hi).isSome && (Bytes.hexDigit? lo).isSome && isName rest
  | c :: rest => isNameChar c && isName rest
  | [] => true

/-- A host: an IPv6 literal between brackets, an IPv4 literal, or a name, which is taken as it is
written. -/
def host? (cs : List Char) : Option Requested :=
  match cs with
  | '[' :: inner =>
    if inner.getLast? = some ']' then (IpAddress.v6? inner.dropLast).map .ip else none
  | _ => if isName cs then some (.ofHost cs) else none

/-- A port: decimal digits. -/
def port? (cs : List Char) : Option UInt16 :=
  if cs ≠ [] ∧ cs.all Char.isDigit ∧ HostPort.digitsValue cs < 65536 then
    some (UInt16.ofNat (HostPort.digitsValue cs))
  else none

/-- Reads a host, a colon and a port. -/
def ofChars? (cs : List Char) : Option Destination := do
  let (host, port) ← Text.cutLast? ':' cs
  let host ← host? host
  let port ← port? port
  return ⟨host, port⟩

/-- Reads a request-target. -/
def ofBytes? (bs : Bytes) : Option Destination := (Bytes.decodeChars bs).toOption.bind ofChars?

/-! ## §2 An authority is an address -/

theorem port?_eq_some_iff {cs : List Char} {p : UInt16} :
    port? cs = some p ↔ HostPort.IsPort cs p := by
  unfold port?
  rw [Option.ite_none_right_eq_some, List.all_eq_true]
  simp only [HostPort.IsPort, Option.some.injEq, and_assoc, eq_comm]

/-- A host is an IPv6 literal between brackets, or a name without a bracket before it. -/
theorem host?_cases {cs : List Char} {r : Requested} (h : host? cs = some r) :
    (∃ literal ip, cs = '[' :: (literal ++ [']']) ∧ IpAddress.v6? literal = some ip ∧ r = .ip ip) ∨
      ((∀ inner, cs ≠ '[' :: inner) ∧ isName cs = true ∧ r = .ofHost cs) := by
  unfold host? at h
  split at h
  · next inner =>
    split at h
    · next hlast =>
      obtain ⟨literal, rfl⟩ := List.getLast?_eq_some_iff.mp hlast
      rw [List.dropLast_concat] at h
      obtain ⟨ip, hip, hr⟩ := Option.map_eq_some_iff.mp h
      exact .inl ⟨literal, ip, rfl, hip, hr.symm⟩
    · cases h
  · next hopen =>
    split at h
    · next hname => exact .inr ⟨hopen, hname, (Option.some.inj h).symm⟩
    · cases h

/-- The host of an authority is the one that an address with this host names. -/
theorem ofHost_of_host? {cs : List Char} {r : Requested} (h : host? cs = some r) :
    r = .ofHost (HostPort.unbracketed cs) := by
  rcases host?_cases h with ⟨literal, ip, rfl, hip, rfl⟩ | ⟨hopen, -, rfl⟩
  · rw [HostPort.unbracketed_bracketed, Requested.ofHost, IpAddress.ofChars?_of_v6? hip]
  · rw [HostPort.unbracketed_of_ne hopen]

theorem ofChars?_eq_some_iff {cs : List Char} {d : Destination} :
    ofChars? cs = some d ↔ ∃ host port, cs = host ++ ':' :: port ∧ ':' ∉ port ∧
      host? host = some d.host ∧ port? port = some d.port := by
  unfold ofChars?
  constructor
  · intro h
    obtain ⟨⟨host, port⟩, hcut, h⟩ := Option.bind_eq_some_iff.mp h
    obtain ⟨r, hr, h⟩ := Option.bind_eq_some_iff.mp h
    obtain ⟨p, hp, h⟩ := Option.bind_eq_some_iff.mp h
    obtain ⟨hcs, hcolon⟩ := Text.cutLast?_eq_some_iff.mp hcut
    cases h
    exact ⟨host, port, hcs, hcolon, hr, hp⟩
  · rintro ⟨host, port, hcs, hcolon, hr, hp⟩
    simp [Text.cutLast?_eq_some_iff.mpr ⟨hcs, hcolon⟩, hr, hp]

/-- What is read as an authority is read as an address, with the same host and port. -/
theorem ofChars?_of_authority {cs : List Char} {d : Destination} (h : ofChars? cs = some d) :
    ∃ a, HostPort.ofChars? cs = some a ∧ d = ⟨.ofHost a.host, a.port⟩ := by
  obtain ⟨host, port, hcs, hcolon, hhost, hport⟩ := ofChars?_eq_some_iff.mp h
  have hdigits := port?_eq_some_iff.mp hport
  refine ⟨⟨HostPort.unbracketed host, d.port⟩, HostPort.ofChars?_eq_some_iff.mpr
    ⟨host, port, hcs, hcolon, HostPort.port?_eq_some_iff.mpr ⟨port, .inl rfl, hdigits⟩, rfl⟩, ?_⟩
  rw [← ofHost_of_host? hhost]

/-! ## §3 An authority is visible -/

/-- A visible ASCII character. -/
def IsVisibleChar (c : Char) : Prop := 0x20 < c.toNat ∧ c.toNat < 0x7f

instance (c : Char) : Decidable (IsVisibleChar c) :=
  inferInstanceAs (Decidable (0x20 < c.toNat ∧ c.toNat < 0x7f))

theorem isVisibleChar_of_isAlphanum {c : Char} (h : c.isAlphanum = true) : IsVisibleChar c := by
  rw [IpAddress.isAlphanum_iff] at h
  unfold IsVisibleChar
  omega

theorem isVisibleChar_of_isNameChar {c : Char} (h : isNameChar c = true) : IsVisibleChar c := by
  have hmarks : ("-._~!$&'()*+,;=".toList.all fun mark => IsVisibleChar mark) = true := by decide
  simp only [List.all_eq_true, decide_eq_true_eq] at hmarks
  rw [isNameChar, Bool.or_eq_true, List.contains_iff_mem] at h
  exact h.elim isVisibleChar_of_isAlphanum (hmarks c)

theorem isVisibleChar_of_isName {cs : List Char} (h : isName cs = true) :
    ∀ c ∈ cs, IsVisibleChar c := by
  have hdigit {d : Char} (hd : (Bytes.hexDigit? d).isSome = true) : IsVisibleChar d := by
    obtain ⟨n, hn⟩ := Option.isSome_iff_exists.mp hd
    exact isVisibleChar_of_isAlphanum (IpAddress.isAlphanum_of_hexDigit? hn)
  induction cs using isName.induct with
  | case1 hi lo rest ih =>
    rw [isName, Bool.and_eq_true, Bool.and_eq_true] at h
    intro c hc
    simp only [List.mem_cons] at hc
    rcases hc with rfl | rfl | rfl | hc
    · decide
    · exact hdigit h.1.1
    · exact hdigit h.1.2
    · exact ih h.2 c hc
  | case2 d rest hno ih =>
    rw [isName, Bool.and_eq_true] at h
    · intro c hc
      rcases List.mem_cons.mp hc with rfl | hc
      · exact isVisibleChar_of_isNameChar h.1
      · exact ih h.2 c hc
    · exact hno
  | case3 => nofun

theorem isVisibleChar_of_isLiteralChar {c : Char} (h : IpAddress.IsLiteralChar c) :
    IsVisibleChar c := by
  rcases h with halnum | rfl | rfl
  · exact isVisibleChar_of_isAlphanum halnum
  · decide
  · decide

theorem isVisibleChar_of_host? {cs : List Char} {r : Requested} (h : host? cs = some r) :
    ∀ c ∈ cs, IsVisibleChar c := by
  rcases host?_cases h with ⟨literal, ip, rfl, hip, -⟩ | ⟨-, hname, -⟩
  · intro c hc
    simp only [List.mem_cons, List.mem_append, List.not_mem_nil, or_false] at hc
    rcases hc with rfl | hc | rfl
    · decide
    · exact isVisibleChar_of_isLiteralChar (IpAddress.chars_of_v6? hip c hc)
    · decide
  · exact isVisibleChar_of_isName hname

/-- An authority consists of visible characters. -/
theorem isVisibleChar_of_ofChars? {cs : List Char} {d : Destination} (h : ofChars? cs = some d) :
    ∀ c ∈ cs, IsVisibleChar c := by
  obtain ⟨host, port, rfl, -, hhost, hport⟩ := ofChars?_eq_some_iff.mp h
  intro c hc
  rcases List.mem_append.mp hc with hc | hc
  · exact isVisibleChar_of_host? hhost c hc
  rcases List.mem_cons.mp hc with rfl | hc
  · decide
  · have hdigit := (port?_eq_some_iff.mp hport).2.1 c hc
    exact isVisibleChar_of_isAlphanum (IpAddress.isAlphanum_of_isDigit hdigit)

/-- A name with a blank in it. -/
def HasBlank : Requested → Prop
  | .ip _ => False
  | .domain name => 0x20 ∈ name

/-- A host with a blank is no IP literal and keeps its blank. -/
theorem hasBlank_ofHost_iff {host : List Char} : HasBlank (.ofHost host) ↔ ' ' ∈ host := by
  have hblank : (0x20 : UInt8) ∈ Bytes.encodeChars host ↔ ' ' ∈ host :=
    Bytes.mem_encodeChars_of_ascii (c := ' ') (by decide)
  unfold Requested.ofHost
  cases hip : IpAddress.ofChars? host with
  | none => exact hblank
  | some ip =>
    refine ⟨False.elim, fun hmem => ?_⟩
    have hvisible := isVisibleChar_of_isLiteralChar (IpAddress.chars_of_ofChars? hip ' ' hmem)
    exact absurd hvisible (by decide)

/-- The host of an authority has no blank. -/
theorem not_hasBlank_of_ofChars? {cs : List Char} {d : Destination} (h : ofChars? cs = some d) :
    ¬HasBlank d.host := by
  obtain ⟨host, port, rfl, -, hhost, -⟩ := ofChars?_eq_some_iff.mp h
  rcases host?_cases hhost with ⟨literal, ip, -, -, hip⟩ | ⟨-, hname, hd⟩
  · rw [hip]
    exact id
  · rw [hd, hasBlank_ofHost_iff]
    intro hmem
    exact absurd (isVisibleChar_of_isName hname ' ' hmem) (by decide)

/-! ## §4 Reading a request-target -/

/-- The bytes of a text are read as the text is. -/
theorem ofBytes?_encodeUtf8 (s : String) : ofBytes? (Bytes.encodeUtf8 s) = ofChars? s.toList := by
  unfold ofBytes? Bytes.encodeUtf8
  rw [Bytes.decodeChars_eq_ok_iff.mpr rfl]
  rfl

/-- An authority can stand in a request line. -/
theorem isWord_of_ofChars? {address : String} {d : Destination}
    (h : ofChars? address.toList = some d) :
    RequestHead.isWord RequestHead.isVisible (Bytes.encodeUtf8 address) := by
  have hvisible : ∀ b ∈ Bytes.encodeUtf8 address, RequestHead.isVisible b := by
    refine RequestHead.visible_encodeUtf8_iff.mpr fun c hc => ?_
    obtain ⟨hlow, hhigh⟩ := isVisibleChar_of_ofChars? h c hc
    exact ⟨hlow, by omega⟩
  have hne : Bytes.encodeUtf8 address ≠ [] := by
    refine Bytes.encodeUtf8_ne_nil ?_
    rintro rfl
    cases h
  rw [RequestHead.isWord, Bool.and_eq_true, List.all_eq_true]
  exact ⟨by simpa using hne, hvisible⟩

end HttpConnect.Authority

end BrokerRelay.Dial
