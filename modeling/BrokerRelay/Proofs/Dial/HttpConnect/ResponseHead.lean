import BrokerRelay.Dial.HttpConnect
import BrokerRelay.Proofs.Bytes.Utf8
import BrokerRelay.Proofs.Dial.Exchange
import BrokerRelay.Proofs.Text.Split
/-!
# When an HTTP tunnel stands

The head of a response is the shortest start of the proxy's bytes that ends with an empty line
(`IsHead`), and it reports success in a status line of one of two forms (`Accepted`). Main statement:
the negotiation succeeds exactly when there is such a head, of at most 8192 bytes, that is UTF-8 and
whose first line reports success; whenever there is a head of that size, it and nothing more has been
read, also when it is refused; and without one, 8192 bytes are the most that is read.

The reading loop is computed first, for what it has read already and any room that is left
(`readHead_ends_ok_iff`, `readHead_ends_full`); the checks of the status line are pure.
-/

namespace BrokerRelay.Dial.HttpConnect

/-! ## §1 Heads and status lines -/

/-- The end of a line and an empty line. -/
def emptyLine : Bytes := [13, 10, 13, 10]

/-- The head of what a proxy says: its shortest start that ends with an empty line. -/
structure IsHead (said head : Bytes) : Prop where
  starts : head <+: said
  closes : emptyLine <:+ head
  shortest : ∀ other, other <+: said → emptyLine <:+ other → head.length ≤ other.length

/-- A status line that reports success: a version of HTTP/1, the status 200 between blanks, and a
reason or none. -/
inductive Accepted : List Char → Prop
  | bare {minor : List Char} : ' ' ∉ minor →
      Accepted ("HTTP/1.".toList ++ minor ++ ' ' :: "200".toList)
  | reason {minor : List Char} (more : List Char) : ' ' ∉ minor →
      Accepted ("HTTP/1.".toList ++ minor ++ ' ' :: "200".toList ++ ' ' :: more)

/-- A head is where the bytes end with an empty line for the first time. -/
theorem isHead_iff {said head : Bytes} :
    IsHead said head ↔ head <+: said ∧ emptyLine <:+ head ∧
      ∀ n < head.length, ¬ emptyLine <:+ head.take n := by
  constructor
  · rintro ⟨hstart, hclose, hleast⟩
    refine ⟨hstart, hclose, ?_⟩
    intro n hn hshort
    have hle := hleast _ ((List.take_prefix n head).trans hstart) hshort
    rw [List.length_take] at hle
    omega
  · rintro ⟨hstart, hclose, hopen⟩
    refine ⟨hstart, hclose, ?_⟩
    intro other hother hends
    by_contra hlt
    -- a shorter start of the bytes is a start of the head
    have hwithin : other <+: head :=
      List.prefix_of_prefix_length_le hother hstart (by omega)
    rw [List.prefix_iff_eq_take.mp hwithin] at hends
    exact hopen other.length (by omega) hends

/-! ## §2 The reading loop -/

theorem endsHead_iff {read : Bytes} : endsHead read ↔ emptyLine <:+ read.reverse := by
  have hreverse : emptyLine <:+ read.reverse ↔ [10, 13, 10, 13] <+: read := by
    rw [← List.reverse_prefix, List.reverse_reverse]
    rfl
  rw [hreverse]
  constructor
  · intro h
    unfold endsHead at h
    split at h
    · exact ⟨_, rfl⟩
    · cases h
  · rintro ⟨rest, rfl⟩
    rfl

/-- No empty line ends before the last of the bytes `heard`, when `read` stands before them (last byte
first). -/
def StaysOpen (read heard : Bytes) : Prop :=
  ∀ n < heard.length, ¬ emptyLine <:+ read.reverse ++ heard.take n

theorem staysOpen_nil (read : Bytes) : StaysOpen read [] := by
  intro n hn
  cases hn

theorem staysOpen_cons_iff {read heard : Bytes} {b : UInt8} :
    StaysOpen read (b :: heard) ↔ ¬ endsHead read ∧ StaysOpen (b :: read) heard := by
  rw [endsHead_iff]
  constructor
  · intro h
    constructor
    · simpa using h 0 (Nat.zero_lt_succ _)
    · intro n hn
      simpa using h (n + 1) (Nat.succ_lt_succ hn)
  · rintro ⟨hfirst, hrest⟩ n hn
    cases n with
    | zero => simpa using hfirst
    | succ n => simpa using hrest n (Nat.lt_of_succ_lt_succ hn)

/-- The loop ends with a head when, within its room, what has been read ends with an empty line for
the first time; it says nothing. -/
theorem readHead_ends_ok_iff {c : ProxyClient} {room : Nat} {read heard said head : Bytes} :
    (readHead c room read).Ends heard said (.ok head) ↔
      said = [] ∧ head = read.reverse ++ heard ∧ heard.length ≤ room ∧ StaysOpen read heard ∧
        endsHead (heard.reverse ++ read) := by
  -- an empty line stops the loop, so the next byte is read only without one
  induction room generalizing read heard with
  | zero =>
    unfold readHead
    by_cases hclosed : endsHead read
    · cases heard with
      | nil => simp [hclosed, staysOpen_nil]
      | cons b heard => simp [hclosed]
    · cases heard with
      | nil => simp [hclosed]
      | cons b heard => simp [hclosed]
  | succ room ih =>
    unfold readHead
    by_cases hclosed : endsHead read
    · cases heard with
      | nil => simp [hclosed, staysOpen_nil]
      | cons b heard => simp [hclosed, staysOpen_cons_iff]
    · cases heard with
      | nil => simp [hclosed]
      | cons b heard => simp [hclosed, staysOpen_cons_iff, ih]

/-- The loop that has used up its room without an empty line fails. -/
theorem readHead_ends_full {c : ProxyClient} {room : Nat} {read heard : Bytes}
    (hlen : heard.length = room) (hopen : StaysOpen read heard)
    (hlast : ¬ endsHead (heard.reverse ++ read)) :
    (readHead c room read).Ends heard []
      (.error (c.handshakeFailed "response header exceeds 8192 bytes")) := by
  induction room generalizing read heard with
  | zero =>
    obtain rfl := List.length_eq_zero_iff.mp hlen
    rw [List.reverse_nil, List.nil_append] at hlast
    unfold readHead
    rw [if_neg hlast]
    exact .done _
  | succ room ih =>
    obtain ⟨b, heard, rfl⟩ := List.exists_cons_of_length_eq_add_one hlen
    obtain ⟨hnow, hopen⟩ := staysOpen_cons_iff.mp hopen
    unfold readHead
    rw [if_neg hnow]
    refine .receiveByte (ih (Nat.succ.inj hlen) hopen ?_)
    rwa [List.reverse_cons, List.append_assoc] at hlast

theorem readHead_failsWith (c : ProxyClient) (room : Nat) (read : Bytes) :
    (readHead c room read).FailsWith fun e => ∃ reason, e = .proxyHandshakeFailed c.address reason := by
  induction room generalizing read with
  | zero =>
    unfold readHead
    split
    · trivial
    · exact ⟨_, rfl⟩
  | succ room ih =>
    unfold readHead
    split
    · trivial
    · exact ⟨fun i => ⟨_, rfl⟩, fun b => ih (b :: read)⟩

/-! ## §3 The checks -/

/-- A status line is cut at its first two blanks. -/
theorem versionAndStatus_append {version : List Char} (h : ' ' ∉ version) (rest : List Char) :
    versionAndStatus (version ++ ' ' :: rest) = (version, (Text.splitAt ' ' rest).headD []) := by
  unfold versionAndStatus
  rw [Text.splitAt_append h]
  cases Text.splitAt ' ' rest with
  | nil => rfl
  | cons code more => rfl

theorem versionAndStatus_of_not_mem {status : List Char} (h : ' ' ∉ status) :
    versionAndStatus status = (status, []) := by
  unfold versionAndStatus
  rw [Text.splitAt_of_not_mem h]

/-- Only the version and the status itself decide; the length of the status follows from it. -/
theorem checkStatus_eq_ok_iff {c : ProxyClient} {status : List Char} :
    checkStatus c status = .ok () ↔
      "HTTP/1.".toList <+: (versionAndStatus status).1 ∧
        (versionAndStatus status).2 = "200".toList := by
  unfold checkStatus
  simp only [← List.isPrefixOf_iff_prefix]
  constructor
  · intro h
    split at h
    · cases h
    · rename_i hshape
      split at h
      · cases h
      · rename_i hcode
        exact ⟨by simp_all, not_not.mp hcode⟩
  · rintro ⟨hversion, hcode⟩
    have hlen : (Bytes.encodeChars "200".toList).length = 3 := by decide
    rw [hversion, hcode, hlen]
    rfl

/-- The check passes exactly the status lines that report success. -/
theorem checkStatus_eq_ok_iff_accepted {c : ProxyClient} {status : List Char} :
    checkStatus c status = .ok () ↔ Accepted status := by
  rw [checkStatus_eq_ok_iff]
  constructor
  · rintro ⟨hversion, hcode⟩
    rcases Text.not_mem_or_eq_append ' ' status with hnone | ⟨version, rest, hblank, rfl⟩
    · rw [versionAndStatus_of_not_mem hnone] at hcode
      cases hcode
    · rw [versionAndStatus_append hblank] at hversion hcode
      obtain ⟨minor, rfl⟩ := hversion
      have hminor : ' ' ∉ minor := fun hmem => hblank (List.mem_append_right _ hmem)
      obtain ⟨-, rfl | ⟨more, rfl⟩⟩ := Text.headD_splitAt_eq_iff.mp hcode
      · exact .bare hminor
      · have haccepted := Accepted.reason more hminor
        rwa [List.append_assoc] at haccepted
  · have hfirst (minor : List Char) (h : ' ' ∉ minor) : ' ' ∉ "HTTP/1.".toList ++ minor := by
      simpa using h
    have hcode : ' ' ∉ "200".toList := by decide
    rintro (hminor | ⟨more, hminor⟩)
    · rw [versionAndStatus_append (hfirst _ hminor)]
      exact ⟨List.prefix_append _ _, Text.headD_splitAt_eq_iff.mpr ⟨hcode, .inl rfl⟩⟩
    · rw [List.append_assoc, List.cons_append, versionAndStatus_append (hfirst _ hminor)]
      exact ⟨List.prefix_append _ _, Text.headD_splitAt_eq_iff.mpr ⟨hcode, .inr ⟨more, rfl⟩⟩⟩

/-- The written form of a text holds an LF exactly when the text does; a head holds one. -/
theorem lf_mem_of_closes {text : List Char} (h : emptyLine <:+ Bytes.encodeChars text) :
    '\n' ∈ text := by
  have hmem : UInt8.ofNat '\n'.toNat ∈ Bytes.encodeChars text :=
    h.subset (show (10 : UInt8) ∈ emptyLine by decide)
  exact (Bytes.mem_encodeChars_of_ascii (by decide)).mp hmem

/-- A head passes when it is UTF-8 and its first line reports success. -/
theorem checkHead_eq_ok_iff {c : ProxyClient} {head : Bytes} (hclose : emptyLine <:+ head) :
    checkHead c head = .ok () ↔ ∃ text status, head = Bytes.encodeChars text ∧
      Text.FirstLine text status ∧ Accepted status := by
  unfold checkHead
  constructor
  · intro h
    cases hread : Bytes.decodeChars head with
    | error fault =>
      rw [hread] at h
      cases h
    | ok text =>
      rw [hread] at h
      obtain rfl := Bytes.decodeChars_eq_ok_iff.mp hread
      have hline := (Text.headD_lines_eq_iff (lf_mem_of_closes hclose)).mp rfl
      exact ⟨text, _, rfl, hline, checkStatus_eq_ok_iff_accepted.mp h⟩
  · rintro ⟨text, status, rfl, hline, haccepted⟩
    rw [Bytes.decodeChars_eq_ok_iff.mpr rfl]
    have hstatus := (Text.headD_lines_eq_iff (lf_mem_of_closes hclose)).mpr hline
    show checkStatus c ((Text.lines text).headD []) = .ok ()
    rw [hstatus]
    exact checkStatus_eq_ok_iff_accepted.mpr haccepted

theorem error_of_checkHead {c : ProxyClient} {head : Bytes} {e : DialFailure}
    (h : checkHead c head = .error e) : ∃ reason, e = .proxyHandshakeFailed c.address reason := by
  unfold checkHead at h
  split at h
  · cases h
    exact ⟨_, rfl⟩
  unfold checkStatus at h
  simp only at h
  split at h
  · cases h
    exact ⟨_, rfl⟩
  split at h
  · cases h
    exact ⟨_, rfl⟩
  · cases h

/-! ## §4 The whole negotiation -/

/-- The loop stops at a head of at most the greatest size. -/
theorem readHead_ends_of_isHead {c : ProxyClient} {said head : Bytes} (h : IsHead said head)
    (hsize : head.length ≤ maxHead) : (readHead c maxHead []).Ends head [] (.ok head) := by
  obtain ⟨-, hclose, hopen⟩ := isHead_iff.mp h
  refine readHead_ends_ok_iff.mpr ⟨rfl, rfl, hsize, hopen, ?_⟩
  rw [endsHead_iff]
  simpa using hclose

/-- What the loop has stopped at is the head of all that the proxy says. -/
theorem isHead_of_readHead_ends {c : ProxyClient} {heard said head : Bytes}
    (h : (readHead c maxHead []).Ends heard said (.ok head)) (rest : Bytes) :
    heard = head ∧ said = [] ∧ head.length ≤ maxHead ∧ IsHead (head ++ rest) head := by
  obtain ⟨rfl, rfl, hsize, hopen, hclose⟩ := readHead_ends_ok_iff.mp h
  rw [endsHead_iff] at hclose
  simp only [List.append_nil, List.reverse_reverse] at hclose
  exact ⟨rfl, rfl, hsize, isHead_iff.mpr ⟨List.prefix_append _ _, hclose, hopen⟩⟩

/-- A negotiation that hears a head has said the request, and ends as the head's checks do. -/
theorem handshake_ends_of_isHead (c : ProxyClient) (target : String) {said head : Bytes}
    (h : IsHead said head) (hsize : head.length ≤ maxHead) :
    (handshake c target).Ends head (request c target) (checkHead c head) := by
  have hread := readHead_ends_of_isHead (c := c) h hsize
  have hchecked := hread.bind (f := fun head => .done (checkHead c head)) (.done _)
  rw [List.append_nil, List.append_nil] at hchecked
  have hwhole : (handshake c target).Ends head (request c target ++ []) (checkHead c head) :=
    .send hchecked
  rwa [List.append_nil] at hwhole

/-- A negotiation that succeeds has heard a head that passes the checks. -/
theorem isHead_of_handshake_ends {c : ProxyClient} {target : String} {heard said : Bytes}
    (h : (handshake c target).Ends heard said (.ok ())) (rest : Bytes) :
    heard.length ≤ maxHead ∧ IsHead (heard ++ rest) heard ∧ checkHead c heard = .ok () := by
  unfold handshake at h
  simp only [Talk.bind_eq, Talk.say_bind, Talk.ends_send_iff, Talk.bind_ends_ok_iff,
    Talk.ends_done_iff] at h
  obtain ⟨_, -, head, heard₁, said₁, _, _, hread, ⟨rfl, -, hcheck⟩, rfl, -⟩ := h
  obtain ⟨rfl, -, hsize, hhead⟩ := isHead_of_readHead_ends hread rest
  rw [List.append_nil]
  exact ⟨hsize, hhead, hcheck.symm⟩

/-- Without an empty line among as many bytes as a head may have, the negotiation ends with them. -/
theorem handshake_ends_full (c : ProxyClient) (target : String) {heard : Bytes}
    (hlen : heard.length = maxHead) (hnone : ¬ emptyLine <:+: heard) :
    (handshake c target).Ends heard (request c target)
      (.error (c.handshakeFailed "response header exceeds 8192 bytes")) := by
  have hopen : StaysOpen [] heard := by
    intro n _ hclose
    exact hnone (hclose.isInfix.trans (List.take_prefix n heard).isInfix)
  have hlast : ¬ endsHead (heard.reverse ++ []) := by
    rw [endsHead_iff, List.append_nil, List.reverse_reverse]
    exact fun hclose => hnone hclose.isInfix
  have hread := (readHead_ends_full (c := c) hlen hopen hlast).bind_error
    fun head => .done (checkHead c head)
  have hwhole : (handshake c target).Ends heard (request c target ++ [])
      (.error (c.handshakeFailed "response header exceeds 8192 bytes")) := .send hread
  rwa [List.append_nil] at hwhole

theorem handshake_failsWith (c : ProxyClient) (target : String) :
    (handshake c target).FailsWith fun e => ∃ reason, e = .proxyHandshakeFailed c.address reason := by
  refine ⟨fun i => ⟨_, rfl⟩, ?_⟩
  refine Talk.bind_failsWith (t := readHead c maxHead []) (readHead_failsWith c maxHead [])
    fun head => ?_
  cases hcheck : checkHead c head with
  | error e => exact error_of_checkHead hcheck
  | ok _ => trivial

/-- **The tunnel stands exactly on a head that reports success, and nothing beyond the head is read.**
For any target and a proxy that accepts what is written: the negotiation succeeds if and only if the
proxy's bytes have a head of at most 8192 bytes that is UTF-8 and whose first line reports success.
Whenever there is a head of that size it is exactly what has been consumed, whether it is accepted or
not. Where 8192 bytes hold no empty line, the negotiation fails for that reason and has consumed them
and no more. Every failure is that of a negotiation with this proxy. -/
theorem tunnel_stands_iff_accepted (c : ProxyClient) (target : String) (p : Peer)
    (hroom : p.room = none) :
    (((handshake c target).run p).result = .ok () ↔
      ∃ head text status, IsHead p.said head ∧ head.length ≤ 8192 ∧ head = Bytes.encodeChars text ∧
        Text.FirstLine text status ∧ Accepted status) ∧
    (∀ head, IsHead p.said head → head.length ≤ 8192 →
      ((handshake c target).run p).consumed = head.length ∧
        p.said = head ++ ((handshake c target).run p).peer.said) ∧
    (8192 ≤ p.said.length → ¬ emptyLine <:+: p.said.take 8192 →
      ((handshake c target).run p).result =
          .error (.proxyHandshakeFailed c.address "response header exceeds 8192 bytes") ∧
        ((handshake c target).run p).consumed = 8192 ∧
        p.said = p.said.take 8192 ++ ((handshake c target).run p).peer.said) ∧
    (∀ e, ((handshake c target).run p).result = .error e →
      ∃ reason, e = .proxyHandshakeFailed c.address reason) := by
  refine ⟨?_, ?_, ?_, ?_⟩
  · rw [Talk.run_ok_iff hroom]
    constructor
    · rintro ⟨head, said, rest, hends, hsaid⟩
      obtain ⟨hsize, hhead, hcheck⟩ := isHead_of_handshake_ends hends rest
      obtain ⟨text, status, htext, hline, haccepted⟩ := (checkHead_eq_ok_iff hhead.closes).mp hcheck
      exact ⟨head, text, status, hsaid ▸ hhead, hsize, htext, hline, haccepted⟩
    · rintro ⟨head, text, status, hhead, hsize, htext, hline, haccepted⟩
      obtain ⟨rest, hsaid⟩ := hhead.starts
      have hcheck : checkHead c head = .ok () :=
        (checkHead_eq_ok_iff hhead.closes).mpr ⟨text, status, htext, hline, haccepted⟩
      have hends := handshake_ends_of_isHead c target hhead hsize
      rw [hcheck] at hends
      exact ⟨head, _, rest, hends, hsaid.symm⟩
  · intro head hhead hsize
    obtain ⟨rest, hsaid⟩ := hhead.starts
    have hends := handshake_ends_of_isHead c target hhead hsize
    obtain ⟨-, -, hcount, hpeer⟩ := Talk.run_of_ends hends hroom hsaid.symm
    rw [hpeer]
    exact ⟨hcount, hsaid.symm⟩
  · intro hlong hnone
    have hlen : (p.said.take 8192).length = maxHead := List.length_take_of_le hlong
    have hends := handshake_ends_full c target hlen hnone
    obtain ⟨hresult, -, hcount, hpeer⟩ :=
      Talk.run_of_ends hends hroom (List.take_append_drop 8192 p.said).symm
    rw [hpeer]
    exact ⟨hresult, hcount.trans hlen, (List.take_append_drop 8192 p.said).symm⟩
  · intro e he
    exact Talk.error_of_failsWith (handshake_failsWith c target) he

/-- A head with a bare LF after its first line, and two bytes of the tunnel behind it. -/
theorem tunnel_stands_after_bare_lf :
    let c : ProxyClient := ⟨"tcp", "127.0.0.1:3128", none, .ofSecs 10⟩
    let head := Bytes.encodeUtf8 "HTTP/1.0 200\nVia: p\r\n\r\n"
    let p : Peer := ⟨head ++ [22, 3], .closed, none⟩
    p.room = none ∧ ((handshake c "kafka:9092").run p).result = .ok () ∧
      ((handshake c "kafka:9092").run p).consumed = 23 ∧
      p.said = head ++ ((handshake c "kafka:9092").run p).peer.said := by
  intro c head p
  have hhead : IsHead p.said head := by
    exact isHead_iff.mpr ⟨List.prefix_append _ _, by decide, by decide⟩
  have hline : Text.FirstLine "HTTP/1.0 200\nVia: p\r\n\r\n".toList "HTTP/1.0 200".toList :=
    .lf "Via: p\r\n\r\n".toList (show '\n' ∉ "HTTP/1.0 200".toList by decide) (by decide)
  have haccepted : Accepted "HTTP/1.0 200".toList := .bare (show ' ' ∉ ['0'] by decide)
  obtain ⟨hok, hrest, -⟩ := tunnel_stands_iff_accepted c "kafka:9092" p rfl
  obtain ⟨hcount, htail⟩ := hrest head hhead (by decide)
  exact ⟨rfl, hok.mpr ⟨head, _, _, hhead, by decide, rfl, hline, haccepted⟩, hcount, htail⟩

end BrokerRelay.Dial.HttpConnect
