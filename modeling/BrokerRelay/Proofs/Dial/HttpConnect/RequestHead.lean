import BrokerRelay.Dial.HttpConnect
import BrokerRelay.Proofs.Base64
import BrokerRelay.Proofs.Bytes.Utf8
import BrokerRelay.Proofs.Dial.Exchange
import Mathlib.Data.List.Basic
import Mathlib.Data.Option.Basic
/-!
# What an HTTP proxy reads

The proxy's reading of a request: the head of an HTTP/1.1 message, written from the grammar of the
protocol and not from the client. Lines end with CRLF, the head with an empty one; a line's parts may
hold no byte that would end or divide it elsewhere.

Main statement: what this side writes for a target that it can dial is read as exactly one head, with
nothing behind it, that asks for this target with these credentials — if and only if the target has no
blank and no control character and the user name has no colon. Neither is looked at before the request
is put together, so both conditions are needed: with line endings in it, a target is read as two
requests.
-/

namespace BrokerRelay.Dial.HttpConnect

/-! ## §1 The grammar of a request head -/

/-- The head of a request. -/
structure RequestHead where
  method : Bytes
  target : Bytes
  version : Bytes
  fields : List (Bytes × Bytes)
deriving DecidableEq, Repr

namespace RequestHead

/-- A byte that stands for itself in a part of a line: visible, or beyond ASCII. -/
def isVisible (b : UInt8) : Bool := 0x20 < b && b != 0x7f

/-- A blank within a line. -/
def isBlank (b : UInt8) : Bool := b == 0x20 || b == 0x09

/-- A byte of a token: a letter, a digit or one of fifteen marks. -/
def isTokenByte (b : UInt8) : Bool :=
  (0x30 ≤ b && b ≤ 0x39) || (0x41 ≤ b && b ≤ 0x5a) || (0x61 ≤ b && b ≤ 0x7a)
    || (Bytes.encodeUtf8 "!#$%&'*+-.^_|~\x60").contains b

/-- A word of one kind of byte is not empty. -/
def isWord (kind : UInt8 → Bool) (bs : Bytes) : Bool := !bs.isEmpty && bs.all kind

/-- What stands before and after the first separator. -/
def cut? (sep : UInt8) : Bytes → Option (Bytes × Bytes)
  | [] => none
  | b :: bs =>
    if b = sep then some ([], bs)
    else (cut? sep bs).map fun parts => (b :: parts.1, parts.2)

/-- A field's value without the blanks around it. -/
def trimmed (bs : Bytes) : Bytes :=
  ((bs.dropWhile isBlank).reverse.dropWhile isBlank).reverse

/-- The lines up to the first empty one, and what follows it; `line` holds what has been read of the
current line, last byte first. -/
def lines? : Bytes → Bytes → Option (List Bytes × Bytes)
  | _, [] => none
  | line, 13 :: 10 :: rest =>
    if line.isEmpty then some ([], rest)
    else (lines? [] rest).map fun more => (line.reverse :: more.1, more.2)
  | line, b :: rest => lines? (b :: line) rest

/-- The layout `method SP request-target SP HTTP-version`. -/
def requestLine? (line : Bytes) : Option (Bytes × Bytes × Bytes) := do
  let (method, rest) ← cut? 0x20 line
  let (target, version) ← cut? 0x20 rest
  guard (isWord isTokenByte method)
  guard (isWord isVisible target)
  guard (version = Bytes.encodeUtf8 "HTTP/1.0" ∨ version = Bytes.encodeUtf8 "HTTP/1.1")
  return (method, target, version)

/-- The layout `field-name ":" OWS field-value OWS`. -/
def fieldLine? (line : Bytes) : Option (Bytes × Bytes) := do
  let (name, value) ← cut? 0x3a line
  guard (isWord isTokenByte name)
  guard (value.all fun b => isVisible b || isBlank b)
  return (name, trimmed value)

/-- Reads one head from the front of a byte string; it leaves the rest. -/
def ofBytes? (bs : Bytes) : Option (RequestHead × Bytes) := do
  let (lines, rest) ← lines? [] bs
  let first ← lines.head?
  let (method, target, version) ← requestLine? first
  let fields ← lines.tail.mapM fieldLine?
  return (⟨method, target, version, fields⟩, rest)

/-- The user-id and password of basic credentials, which a colon divides. -/
def basicCredentials? (value : Bytes) : Option (Bytes × Bytes) := do
  let token ← (Bytes.encodeUtf8 "Basic ").isPrefixOf? value
  let pair ← (Base64.decode token).toOption
  cut? 0x3a pair

/-- The head asks for a tunnel to the target and for nothing else, with these credentials or none. -/
inductive AsksFor (target : Bytes) : Option Config.Credentials → RequestHead → Prop
  | plain : AsksFor target none
      ⟨Bytes.encodeUtf8 "CONNECT", target, Bytes.encodeUtf8 "HTTP/1.1",
        [(Bytes.encodeUtf8 "Host", target)]⟩
  | basic {k : Config.Credentials} {value : Bytes} :
      basicCredentials? value = some (Bytes.encodeUtf8 k.username, Bytes.encodeUtf8 k.password) →
      AsksFor target (some k)
        ⟨Bytes.encodeUtf8 "CONNECT", target, Bytes.encodeUtf8 "HTTP/1.1",
          [(Bytes.encodeUtf8 "Host", target), (Bytes.encodeUtf8 "Proxy-Authorization", value)]⟩

/-! ## §2 What a head that was read cannot hold -/

theorem not_mem_of_cut? {sep : UInt8} {bs before after : Bytes}
    (h : cut? sep bs = some (before, after)) : sep ∉ before := by
  induction bs generalizing before with
  | nil => cases h
  | cons b bs ih =>
    rw [cut?] at h
    split at h
    · cases h
      exact List.not_mem_nil
    · rename_i hb
      obtain ⟨⟨first, second⟩, hcut, heq⟩ := Option.map_eq_some_iff.mp h
      cases heq
      intro hmem
      rcases List.mem_cons.mp hmem with rfl | hmem
      · exact hb rfl
      · exact ih hcut hmem

/-- Cutting loses nothing but the separator. -/
theorem eq_of_cut? {sep : UInt8} {bs before after : Bytes}
    (h : cut? sep bs = some (before, after)) : bs = before ++ sep :: after := by
  induction bs generalizing before with
  | nil => cases h
  | cons b bs ih =>
    rw [cut?] at h
    split at h
    · next hb =>
      cases h
      rw [hb]
      rfl
    · obtain ⟨⟨first, second⟩, hcut, heq⟩ := Option.map_eq_some_iff.mp h
      cases heq
      rw [ih hcut]
      rfl

/-- The first line stands at the front, before its ending. -/
theorem eq_of_lines? {line bs first rest : Bytes} {more : List Bytes}
    (h : lines? line bs = some (first :: more, rest)) :
    ∃ tail, line.reverse ++ bs = first ++ 13 :: 10 :: tail := by
  induction line, bs using lines?.induct with
  | case1 line => cases h
  | case2 line rest hempty =>
    -- the head ends here, before any line
    rw [lines?, if_pos hempty] at h
    cases h
  | case3 line rest hline ih =>
    rw [lines?, if_neg hline] at h
    obtain ⟨behind, -, heq⟩ := Option.map_eq_some_iff.mp h
    cases heq
    exact ⟨rest, rfl⟩
  | case4 line b rest hno ih =>
    rw [lines?] at h
    · obtain ⟨tail, htail⟩ := ih h
      rw [List.reverse_cons, List.append_assoc] at htail
      exact ⟨tail, htail⟩
    · exact hno

/-- A request line is put together from its three parts. -/
theorem eq_of_requestLine? {line method target version : Bytes}
    (h : requestLine? line = some (method, target, version)) :
    line = method ++ 0x20 :: (target ++ 0x20 :: version) ∧ 0x20 ∉ method ∧ 0x20 ∉ target := by
  unfold requestLine? at h
  obtain ⟨⟨method', rest⟩, hmethod, h⟩ := Option.bind_eq_some_iff.mp h
  obtain ⟨⟨target', version'⟩, htarget, h⟩ := Option.bind_eq_some_iff.mp h
  obtain ⟨-, -, h⟩ := Option.bind_eq_some_iff.mp h
  obtain ⟨-, -, h⟩ := Option.bind_eq_some_iff.mp h
  obtain ⟨-, -, h⟩ := Option.bind_eq_some_iff.mp h
  cases h
  rw [eq_of_cut? hmethod, eq_of_cut? htarget]
  exact ⟨rfl, not_mem_of_cut? hmethod, not_mem_of_cut? htarget⟩

/-- The target of a head consists of visible bytes. -/
theorem visible_of_requestLine? {line method target version : Bytes}
    (h : requestLine? line = some (method, target, version)) : ∀ b ∈ target, isVisible b := by
  unfold requestLine? at h
  obtain ⟨⟨method', rest⟩, -, h⟩ := Option.bind_eq_some_iff.mp h
  obtain ⟨⟨target', version'⟩, -, h⟩ := Option.bind_eq_some_iff.mp h
  obtain ⟨-, -, h⟩ := Option.bind_eq_some_iff.mp h
  obtain ⟨_, hword, h⟩ := Option.bind_eq_some_iff.mp h
  obtain ⟨-, -, h⟩ := Option.bind_eq_some_iff.mp h
  cases h
  rw [Option.guard_eq_some', isWord, Bool.and_eq_true, List.all_eq_true] at hword
  exact hword.2

theorem visible_of_ofBytes? {bs rest : Bytes} {head : RequestHead}
    (h : ofBytes? bs = some (head, rest)) : ∀ b ∈ head.target, isVisible b := by
  unfold ofBytes? at h
  obtain ⟨⟨lines, rest'⟩, -, h⟩ := Option.bind_eq_some_iff.mp h
  obtain ⟨first, -, h⟩ := Option.bind_eq_some_iff.mp h
  obtain ⟨⟨method, target, version⟩, hline, h⟩ := Option.bind_eq_some_iff.mp h
  obtain ⟨fields, -, h⟩ := Option.bind_eq_some_iff.mp h
  cases h
  exact visible_of_requestLine? hline

/-- No user-id holds a colon. -/
theorem colon_not_mem_of_basicCredentials? {value user password : Bytes}
    (h : basicCredentials? value = some (user, password)) : 0x3a ∉ user := by
  unfold basicCredentials? at h
  obtain ⟨token, -, h⟩ := Option.bind_eq_some_iff.mp h
  obtain ⟨pair, -, h⟩ := Option.bind_eq_some_iff.mp h
  exact not_mem_of_cut? h

/-! ## §3 Reading back lines -/

/-- A field with one blank before its value. -/
def field (name value : Bytes) : Bytes := name ++ 0x3a :: 0x20 :: value

theorem cut?_append {sep : UInt8} {before : Bytes} (h : sep ∉ before) (after : Bytes) :
    cut? sep (before ++ sep :: after) = some (before, after) := by
  induction before with
  | nil => rw [List.nil_append, cut?, if_pos rfl]
  | cons b before ih =>
    have hb : b ≠ sep := fun hb => h (hb ▸ List.mem_cons_self)
    have hbefore : sep ∉ before := fun hmem => h (List.mem_cons_of_mem b hmem)
    rw [List.cons_append, cut?, if_neg hb, ih hbefore]
    rfl

theorem lines?_cons {b : UInt8} (h : b ≠ 13) (line rest : Bytes) :
    lines? line (b :: rest) = lines? (b :: line) rest := by
  rw [lines?]
  intro _ hb
  exact absurd hb h

/-- A line that is not empty is read up to its ending. -/
theorem lines?_append {read line : Bytes} (h : 13 ∉ line) (hne : read.reverse ++ line ≠ [])
    (rest : Bytes) :
    lines? read (line ++ 13 :: 10 :: rest) =
      (lines? [] rest).map fun more => ((read.reverse ++ line) :: more.1, more.2) := by
  induction line generalizing read with
  | nil =>
    rw [List.append_nil] at hne ⊢
    have hread : read.isEmpty = false := by simpa using hne
    rw [List.nil_append, lines?, hread]
    rfl
  | cons b line ih =>
    have hb : b ≠ 13 := fun hb => h (hb ▸ List.mem_cons_self)
    have hline : 13 ∉ line := fun hmem => h (List.mem_cons_of_mem b hmem)
    have hshift : (b :: read).reverse ++ line = read.reverse ++ b :: line := by simp
    rw [List.cons_append, lines?_cons hb, ih hline (hshift ▸ hne), hshift]

/-- Lines with their endings and an empty one behind them are read back. -/
theorem lines?_flatMap {lines : List Bytes} (h : ∀ line ∈ lines, 13 ∉ line ∧ line ≠ [])
    (rest : Bytes) :
    lines? [] (lines.flatMap (· ++ [13, 10]) ++ 13 :: 10 :: rest) = some (lines, rest) := by
  induction lines with
  | nil => rfl
  | cons line lines ih =>
    obtain ⟨hcr, hne⟩ := h line List.mem_cons_self
    have hlines : ∀ line ∈ lines, 13 ∉ line ∧ line ≠ [] := fun l hl => h l (List.mem_cons_of_mem _ hl)
    have hshape : (line :: lines).flatMap (· ++ [13, 10]) ++ 13 :: 10 :: rest =
        line ++ 13 :: 10 :: (lines.flatMap (· ++ [13, 10]) ++ 13 :: 10 :: rest) := by simp
    rw [hshape, lines?_append hcr (by simpa using hne), ih hlines]
    rfl

theorem not_mem_of_isWord {kind : UInt8 → Bool} {bs : Bytes} {b : UInt8} (h : isWord kind bs)
    (hb : kind b = false) : b ∉ bs := by
  rw [isWord, Bool.and_eq_true, List.all_eq_true] at h
  intro hmem
  rw [h.2 b hmem] at hb
  cases hb

theorem requestLine?_append {method target : Bytes} (hmethod : isWord isTokenByte method)
    (htarget : isWord isVisible target) :
    requestLine? (method ++ 0x20 :: (target ++ 0x20 :: Bytes.encodeUtf8 "HTTP/1.1")) =
      some (method, target, Bytes.encodeUtf8 "HTTP/1.1") := by
  have hfirst : 0x20 ∉ method := not_mem_of_isWord hmethod (by decide)
  have hsecond : 0x20 ∉ target := not_mem_of_isWord htarget (by decide)
  simp [requestLine?, cut?_append hfirst, cut?_append hsecond, hmethod, htarget, guard]

theorem isBlank_of_isVisible {b : UInt8} (h : isVisible b) : isBlank b = false := by
  by_contra hblank
  rw [Bool.not_eq_false, isBlank, Bool.or_eq_true, beq_iff_eq, beq_iff_eq] at hblank
  rcases hblank with rfl | rfl
  · exact absurd h (by decide)
  · exact absurd h (by decide)

theorem dropWhile_isBlank_of_head? {bs : Bytes} (h : ∀ b ∈ bs.head?, isBlank b = false) :
    bs.dropWhile isBlank = bs := by
  cases bs with
  | nil => rfl
  | cons b bs => rw [List.dropWhile_cons, h b rfl, if_neg Bool.false_ne_true]

/-- A value that starts and ends with no blank is what is left of it behind a blank. -/
theorem trimmed_cons {value : Bytes} (hfirst : ∀ b ∈ value.head?, isBlank b = false)
    (hlast : ∀ b ∈ value.getLast?, isBlank b = false) : trimmed (0x20 :: value) = value := by
  have hblank : isBlank 0x20 = true := rfl
  have hreverse : ∀ b ∈ value.reverse.head?, isBlank b = false := by
    rwa [List.head?_reverse]
  rw [trimmed, List.dropWhile_cons, hblank, if_pos rfl, dropWhile_isBlank_of_head? hfirst,
    dropWhile_isBlank_of_head? hreverse, List.reverse_reverse]

theorem fieldLine?_append {name value : Bytes} (hname : isWord isTokenByte name)
    (hvalue : ∀ b ∈ value, isVisible b || isBlank b)
    (hfirst : ∀ b ∈ value.head?, isBlank b = false)
    (hlast : ∀ b ∈ value.getLast?, isBlank b = false) :
    fieldLine? (field name value) = some (name, value) := by
  have hcolon : 0x3a ∉ name := not_mem_of_isWord hname (by decide)
  have hall : ((0x20 :: value).all fun b => isVisible b || isBlank b) = true := by
    rw [List.all_eq_true]
    intro b hb
    rcases List.mem_cons.mp hb with rfl | hb
    · rfl
    · exact hvalue b hb
  unfold fieldLine? field
  rw [cut?_append hcolon]
  simp only [Option.bind_eq_bind, Option.bind_some, hname, hall, trimmed_cons hfirst hlast]
  rfl

/-- A field whose value consists of visible bytes is read back. -/
theorem fieldLine?_of_visible {name value : Bytes} (hname : isWord isTokenByte name)
    (hvalue : ∀ b ∈ value, isVisible b) :
    fieldLine? (field name value) = some (name, value) := by
  refine fieldLine?_append hname ?_ ?_ ?_
  · intro b hb
    rw [hvalue b hb]
    rfl
  · intro b hb
    exact isBlank_of_isVisible (hvalue b (List.mem_of_mem_head? hb))
  · intro b hb
    exact isBlank_of_isVisible (hvalue b (List.mem_of_mem_getLast? hb))

theorem ofBytes?_of_lines? {bs first rest method target version : Bytes} {more : List Bytes}
    {fields : List (Bytes × Bytes)} (hlines : lines? [] bs = some (first :: more, rest))
    (hfirst : requestLine? first = some (method, target, version))
    (hfields : more.mapM fieldLine? = some fields) :
    ofBytes? bs = some (⟨method, target, version, fields⟩, rest) := by
  simp [ofBytes?, hlines, hfirst, hfields]

/-! ## §4 The request as it is written -/

/-- The request line for a tunnel. -/
def connectLine (target : Bytes) : Bytes :=
  Bytes.encodeUtf8 "CONNECT" ++ 0x20 :: (target ++ 0x20 :: Bytes.encodeUtf8 "HTTP/1.1")

/-- The value that carries the credentials. -/
def basicValue (k : Config.Credentials) : Bytes := Bytes.encodeUtf8 "Basic " ++ token k

/-- The fields of the request, by name and value. -/
def requestFields (target : Bytes) (credentials : Option Config.Credentials) : List (Bytes × Bytes) :=
  (Bytes.encodeUtf8 "Host", target) ::
    match credentials with
    | none => []
    | some k => [(Bytes.encodeUtf8 "Proxy-Authorization", basicValue k)]

/-- The request consists of its lines. -/
theorem request_eq (c : ProxyClient) (target : String) :
    request c target =
      (connectLine (Bytes.encodeUtf8 target) ::
        (requestFields (Bytes.encodeUtf8 target) c.credentials).map fun f => field f.1 f.2).flatMap
          (· ++ [13, 10]) ++ [13, 10] := by
  have hmethod : Bytes.encodeUtf8 "CONNECT " = Bytes.encodeUtf8 "CONNECT" ++ [0x20] := by decide
  have hversion : Bytes.encodeUtf8 " HTTP/1.1" = 0x20 :: Bytes.encodeUtf8 "HTTP/1.1" := by decide
  have hhost : Bytes.encodeUtf8 "Host: " = Bytes.encodeUtf8 "Host" ++ [0x3a, 0x20] := by decide
  have hauth : Bytes.encodeUtf8 "Proxy-Authorization: Basic " =
      Bytes.encodeUtf8 "Proxy-Authorization" ++ 0x3a :: 0x20 :: Bytes.encodeUtf8 "Basic " := by decide
  unfold request line requestFields
  rw [Bytes.encodeUtf8_append, Bytes.encodeUtf8_append, Bytes.encodeUtf8_append, hmethod, hversion,
    hhost]
  cases c.credentials with
  | none => simp [authorization, connectLine, field]
  | some k => simp [authorization, connectLine, field, basicValue, hauth]

theorem visible_token (k : Config.Credentials) : ∀ b ∈ token k, isVisible b := by
  intro b hb
  obtain ⟨hlo, hhi⟩ := Base64.visible_of_mem_encode hb
  simp only [isVisible, Bool.and_eq_true, decide_eq_true_eq, bne_iff_ne, ne_eq]
  refine ⟨hlo, ?_⟩
  rintro rfl
  exact absurd hhi (by decide)

theorem token_ne_nil (k : Config.Credentials) : token k ≠ [] :=
  Base64.encode_ne_nil (by simp)

/-- The credentials are read back when the user name has no colon. -/
theorem basicCredentials?_basicValue {k : Config.Credentials} (h : ':' ∉ k.username.toList) :
    basicCredentials? (basicValue k) =
      some (Bytes.encodeUtf8 k.username, Bytes.encodeUtf8 k.password) := by
  have hcolon : (0x3a : UInt8) ∉ Bytes.encodeUtf8 k.username := by
    intro hmem
    exact h ((Bytes.mem_encodeChars_of_ascii (c := ':') (by decide)).mp hmem)
  have hscheme : (Bytes.encodeUtf8 "Basic ").isPrefixOf? (basicValue k) = some (token k) :=
    List.isPrefixOf?_eq_some_iff_append_eq.mpr rfl
  unfold basicCredentials?
  rw [hscheme, Option.bind_eq_bind, Option.bind_some, token, Base64.decode_encode]
  exact cut?_append hcolon _

theorem fieldLine?_basicValue (k : Config.Credentials) :
    fieldLine? (field (Bytes.encodeUtf8 "Proxy-Authorization") (basicValue k)) =
      some (Bytes.encodeUtf8 "Proxy-Authorization", basicValue k) := by
  have hscheme : ∀ b ∈ Bytes.encodeUtf8 "Basic ", isVisible b || isBlank b :=
    List.all_eq_true.mp (by decide)
  refine fieldLine?_append (by decide) ?_ ?_ ?_
  · intro b hb
    rcases List.mem_append.mp hb with hb | hb
    · exact hscheme b hb
    · rw [visible_token k b hb]
      rfl
  · intro b hb
    cases hb
    rfl
  · intro b hb
    rw [basicValue, List.getLast?_append_of_ne_nil _ (token_ne_nil k)] at hb
    exact isBlank_of_isVisible (visible_token k b (List.mem_of_mem_getLast? hb))

/-! No line of the request holds a CR, so each is read up to its own ending. -/

theorem cr_not_mem_of_visible {bs : Bytes} (h : ∀ b ∈ bs, isVisible b) : (13 : UInt8) ∉ bs := by
  intro hmem
  exact absurd (h 13 hmem) (by decide)

theorem cr_not_mem_field {name value : Bytes} (hname : (13 : UInt8) ∉ name)
    (hvalue : (13 : UInt8) ∉ value) : (13 : UInt8) ∉ field name value := by
  simpa [field] using ⟨hname, hvalue⟩

theorem cr_not_mem_connectLine {target : Bytes} (h : (13 : UInt8) ∉ target) :
    (13 : UInt8) ∉ connectLine target := by
  have hmethod : (13 : UInt8) ∉ Bytes.encodeUtf8 "CONNECT" := by decide
  have hversion : (13 : UInt8) ∉ Bytes.encodeUtf8 "HTTP/1.1" := by decide
  simpa [connectLine] using ⟨hmethod, h, hversion⟩

theorem cr_not_mem_basicValue (k : Config.Credentials) : (13 : UInt8) ∉ basicValue k := by
  have hscheme : (13 : UInt8) ∉ Bytes.encodeUtf8 "Basic " := by decide
  simpa [basicValue] using ⟨hscheme, cr_not_mem_of_visible (visible_token k)⟩

/-- Each field of the request for a visible target is one line, and is read back. -/
theorem requestFields_read {target : Bytes} {credentials : Option Config.Credentials}
    (hvisible : ∀ b ∈ target, isVisible b) {f : Bytes × Bytes}
    (hf : f ∈ requestFields target credentials) :
    13 ∉ field f.1 f.2 ∧ fieldLine? (field f.1 f.2) = some f := by
  have hhost : (13 : UInt8) ∉ Bytes.encodeUtf8 "Host" := by decide
  have hname : isWord isTokenByte (Bytes.encodeUtf8 "Host") := by decide
  have hauth : (13 : UInt8) ∉ Bytes.encodeUtf8 "Proxy-Authorization" := by decide
  rcases List.mem_cons.mp hf with rfl | hf
  · exact ⟨cr_not_mem_field hhost (cr_not_mem_of_visible hvisible),
      fieldLine?_of_visible hname hvisible⟩
  · cases credentials with
    | none => cases hf
    | some k =>
      obtain rfl := List.mem_singleton.mp hf
      exact ⟨cr_not_mem_field hauth (cr_not_mem_basicValue k), fieldLine?_basicValue k⟩

theorem mapM_fieldLine?_map {fields : List (Bytes × Bytes)}
    (h : ∀ f ∈ fields, fieldLine? (field f.1 f.2) = some f) :
    (fields.map fun f => field f.1 f.2).mapM fieldLine? = some fields := by
  induction fields with
  | nil => rfl
  | cons f fields ih =>
    have hfields : ∀ f ∈ fields, fieldLine? (field f.1 f.2) = some f :=
      fun g hg => h g (List.mem_cons_of_mem f hg)
    rw [List.map_cons, List.mapM_cons, h f List.mem_cons_self, ih hfields]
    rfl

/-- The request for a visible target is read as what it was put together from. -/
theorem ofBytes?_request {c : ProxyClient} {target : String}
    (hword : isWord isVisible (Bytes.encodeUtf8 target)) :
    ofBytes? (request c target) =
      some (⟨Bytes.encodeUtf8 "CONNECT", Bytes.encodeUtf8 target, Bytes.encodeUtf8 "HTTP/1.1",
        requestFields (Bytes.encodeUtf8 target) c.credentials⟩, []) := by
  have hvisible : ∀ b ∈ Bytes.encodeUtf8 target, isVisible b := by
    rw [isWord, Bool.and_eq_true, List.all_eq_true] at hword
    exact hword.2
  rw [request_eq]
  refine ofBytes?_of_lines? (lines?_flatMap ?_ [])
    (requestLine?_append (by decide) hword)
    (mapM_fieldLine?_map fun f hf => (requestFields_read hvisible hf).2)
  intro line hline
  rcases List.mem_cons.mp hline with rfl | hline
  · exact ⟨cr_not_mem_connectLine (cr_not_mem_of_visible hvisible), by simp [connectLine]⟩
  · obtain ⟨f, hf, rfl⟩ := List.mem_map.mp hline
    exact ⟨(requestFields_read hvisible hf).1, by simp [field]⟩

/-- Behind its method and a blank, the request has the target. -/
theorem exists_request_eq (c : ProxyClient) (target : String) :
    ∃ more, request c target =
      Bytes.encodeUtf8 "CONNECT" ++ 0x20 :: (Bytes.encodeUtf8 target ++ 0x20 :: more) := by
  rw [request_eq, List.flatMap_cons]
  simp only [connectLine, List.append_assoc, List.cons_append]
  exact ⟨_, rfl⟩

/-- A head that is read from the request has the whole target, if there is no blank in it. -/
theorem target_of_ofBytes? {c : ProxyClient} {target : String} {head : RequestHead} {rest : Bytes}
    (hblank : ' ' ∉ target.toList) (h : ofBytes? (request c target) = some (head, rest)) :
    head.target = Bytes.encodeUtf8 target := by
  unfold ofBytes? at h
  obtain ⟨⟨lines, rest'⟩, hlines, h⟩ := Option.bind_eq_some_iff.mp h
  obtain ⟨first, hfirst, h⟩ := Option.bind_eq_some_iff.mp h
  obtain ⟨⟨method, read, version⟩, hline, h⟩ := Option.bind_eq_some_iff.mp h
  obtain ⟨fields, -, h⟩ := Option.bind_eq_some_iff.mp h
  cases h
  obtain ⟨more, rfl⟩ := List.head?_eq_some_iff.mp hfirst
  obtain ⟨tail, htail⟩ := eq_of_lines? hlines
  obtain ⟨rfl, hmethod, hread⟩ := eq_of_requestLine? hline
  obtain ⟨behind, hrequest⟩ := exists_request_eq c target
  have htarget : (0x20 : UInt8) ∉ Bytes.encodeUtf8 target := fun hmem =>
    hblank ((Bytes.mem_encodeChars_of_ascii (c := ' ') (by decide)).mp hmem)
  -- both are cut at the same two blanks
  have hsame : method ++ 0x20 :: (read ++ 0x20 :: (version ++ 13 :: 10 :: tail)) =
      Bytes.encodeUtf8 "CONNECT" ++ 0x20 :: (Bytes.encodeUtf8 target ++ 0x20 :: behind) := by
    rw [← hrequest]
    simpa using htail.symm
  have hbehind := congrArg (cut? 0x20) hsame
  rw [cut?_append hmethod, cut?_append (by decide)] at hbehind
  have htargets := congrArg (cut? 0x20) (Prod.mk.inj (Option.some.inj hbehind)).2
  rw [cut?_append hread, cut?_append htarget] at htargets
  exact (Prod.mk.inj (Option.some.inj htargets)).1

/-- A target without blanks and control characters is visible as bytes, and conversely. -/
theorem visible_encodeUtf8_iff {s : String} :
    (∀ b ∈ Bytes.encodeUtf8 s, isVisible b) ↔ ∀ c ∈ s.toList, 0x20 < c.toNat ∧ c.toNat ≠ 0x7f := by
  have hvisible (b : UInt8) : isVisible b ↔ 0x20 < b.toNat ∧ b.toNat ≠ 0x7f := by
    simp [isVisible, UInt8.lt_iff_toNat_lt, ← UInt8.toNat_inj]
  simp only [hvisible]
  rw [Bytes.encodeUtf8, Bytes.forall_mem_encodeChars_iff]
  · constructor
    · intro h c hc
      by_cases hascii : c.toNat < 0x80
      · have hbyte := h c hc hascii
        rwa [Bytes.toNat_ofNat_of_ascii hascii] at hbyte
      · omega
    · intro h c hc hascii
      rw [Bytes.toNat_ofNat_of_ascii hascii]
      exact h c hc
  · intro b hb
    omega

end RequestHead

/-! ## §5 What the proxy is asked for -/

/-- Only the request is written, and all of it. -/
theorem written_handshake (c : ProxyClient) (target : String) {p : Peer} (hroom : p.room = none) :
    ((handshake c target).run p).written = request c target := by
  have hread (room : Nat) (read : Bytes) : (readHead c room read).SaysWithin [] := by
    induction room generalizing read with
    | zero =>
      unfold readHead
      split <;> trivial
    | succ room ih =>
      unfold readHead
      split
      · trivial
      · exact fun b => ih (b :: read)
  refine Talk.written_send hroom ?_
  exact Talk.bind_saysWithin (t := readHead c maxHead []) (hread maxHead []) fun _ _ => trivial

/-- An address that can be split is not empty. -/
theorem encodeUtf8_ne_nil_of_splitTarget {target : String} {destination : HostPort}
    (h : splitTarget target = .ok destination) : Bytes.encodeUtf8 target ≠ [] := by
  refine Bytes.encodeUtf8_ne_nil ?_
  rintro rfl
  cases h

/-- **The proxy is asked for exactly this target, if the target and the user name let it.** For every
target that can be dialed, and a proxy that accepts what is written: a reading of the written bytes
finds one request head and nothing behind it, which asks for a tunnel to this target, names it as the
only host and carries exactly the credentials that there are — if and only if the target has no blank
and no control character and the user name, where there is one, no colon. -/
theorem asksFor_iff (c : ProxyClient) (target : String) (destination : HostPort)
    (hsplit : splitTarget target = .ok destination) (p : Peer) (hroom : p.room = none) :
    (∃ head, RequestHead.ofBytes? ((handshake c target).run p).written = some (head, []) ∧
      RequestHead.AsksFor (Bytes.encodeUtf8 target) c.credentials head) ↔
    (∀ ch ∈ target.toList, 0x20 < ch.toNat ∧ ch.toNat ≠ 0x7f) ∧
      ∀ k, c.credentials = some k → ':' ∉ k.username.toList := by
  rw [written_handshake c target hroom, ← RequestHead.visible_encodeUtf8_iff]
  constructor
  · -- what was read can hold neither, and it is the target and the user name
    rintro ⟨head, hread, hasks⟩
    have hvisible := RequestHead.visible_of_ofBytes? hread
    generalize c.credentials = credentials at hasks
    cases hasks with
    | plain => exact ⟨hvisible, by simp⟩
    | @basic k value hbasic =>
      refine ⟨hvisible, ?_⟩
      rintro _ ⟨⟩ hmem
      have hcolon := RequestHead.colon_not_mem_of_basicCredentials? hbasic
      exact hcolon ((Bytes.mem_encodeChars_of_ascii (c := ':') (by decide)).mpr hmem)
  · rintro ⟨hvisible, hcolon⟩
    have hword : RequestHead.isWord RequestHead.isVisible (Bytes.encodeUtf8 target) := by
      rw [RequestHead.isWord, Bool.and_eq_true, List.all_eq_true]
      exact ⟨by simpa using encodeUtf8_ne_nil_of_splitTarget hsplit, hvisible⟩
    refine ⟨_, RequestHead.ofBytes?_request hword, ?_⟩
    unfold RequestHead.requestFields
    cases hk : c.credentials with
    | none => exact .plain
    | some k => exact .basic (RequestHead.basicCredentials?_basicValue (hcolon k hk))

/-- A target beyond ASCII, and credentials with a colon in the password. -/
theorem asksFor_with_credentials :
    let c : ProxyClient :=
      ⟨"tcp", "127.0.0.1:3128", some ⟨"user", "p:ä", by decide, by decide⟩, .ofSecs 10⟩
    let p : Peer := ⟨[], .closed, none⟩
    let target := "kafkä:9092"
    splitTarget target = .ok ⟨"kafkä".toList, 9092⟩ ∧ p.room = none ∧
      (∀ ch ∈ target.toList, 0x20 < ch.toNat ∧ ch.toNat ≠ 0x7f) ∧
      ∃ head, RequestHead.ofBytes? ((handshake c target).run p).written = some (head, []) ∧
        RequestHead.AsksFor (Bytes.encodeUtf8 target) c.credentials head := by
  intro c p target
  have hparts : HostPort.ofString? target = some ⟨"kafkä".toList, 9092⟩ := by decide +kernel
  have hsplit : splitTarget target = .ok ⟨"kafkä".toList, 9092⟩ := by
    rw [splitTarget, hparts]
  have hvisible : ∀ ch ∈ target.toList, 0x20 < ch.toNat ∧ ch.toNat ≠ 0x7f := by
    rw [← RequestHead.visible_encodeUtf8_iff]
    exact List.all_eq_true.mp (by decide +kernel)
  have hcolon : ∀ k, c.credentials = some k → ':' ∉ k.username.toList := by
    rintro k ⟨⟩
    decide
  exact ⟨hsplit, rfl, hvisible, (asksFor_iff c target _ hsplit p rfl).mpr ⟨hvisible, hcolon⟩⟩

/-- Both conditions are needed. A target with line endings is dialed, and what is written for it is a
request for another target with a second request behind it; a user name with a colon is read as
another one. -/
theorem request_splits_at_line_ending :
    let c : ProxyClient := ⟨"tcp", "127.0.0.1:3128", none, .ofSecs 10⟩
    let k : ProxyClient := { c with credentials := some ⟨"us:er", "secret", by decide, by decide⟩ }
    let p : Peer := ⟨[], .closed, none⟩
    let target := "a:1 HTTP/1.1\r\n\r\nGET / HTTP/1.1\r\nHost: b:2"
    splitTarget target = .ok ⟨"a:1 HTTP/1.1\r\n\r\nGET / HTTP/1.1\r\nHost: b".toList, 2⟩ ∧
      RequestHead.ofBytes? ((handshake c target).run p).written =
        some (⟨Bytes.encodeUtf8 "CONNECT", Bytes.encodeUtf8 "a:1", Bytes.encodeUtf8 "HTTP/1.1", []⟩,
          Bytes.encodeUtf8 ("GET / HTTP/1.1\r\nHost: b:2 HTTP/1.1\r\nHost: " ++ target ++ "\r\n\r\n")) ∧
      (¬ ∃ head, RequestHead.ofBytes? ((handshake c target).run p).written = some (head, []) ∧
        RequestHead.AsksFor (Bytes.encodeUtf8 target) c.credentials head) ∧
      ¬ ∃ head, RequestHead.ofBytes? ((handshake k "kafka:9092").run p).written = some (head, []) ∧
        RequestHead.AsksFor (Bytes.encodeUtf8 "kafka:9092") k.credentials head := by
  intro c k p target
  have hread : RequestHead.ofBytes? ((handshake c target).run p).written =
      some (⟨Bytes.encodeUtf8 "CONNECT", Bytes.encodeUtf8 "a:1", Bytes.encodeUtf8 "HTTP/1.1", []⟩,
        Bytes.encodeUtf8
          ("GET / HTTP/1.1\r\nHost: b:2 HTTP/1.1\r\nHost: " ++ target ++ "\r\n\r\n")) := by
    decide +kernel
  have hparts : HostPort.ofString? target =
      some ⟨"a:1 HTTP/1.1\r\n\r\nGET / HTTP/1.1\r\nHost: b".toList, 2⟩ := by decide +kernel
  refine ⟨by rw [splitTarget, hparts], hread, ?_, ?_⟩
  · rintro ⟨head, hone, -⟩
    rw [hread] at hone
    have hrest := congrArg Prod.snd (Option.some.inj hone)
    exact Bytes.encodeUtf8_ne_nil (by decide +kernel) hrest
  · rintro ⟨head, -, hasks⟩
    cases hasks with
    | basic hbasic =>
      exact RequestHead.colon_not_mem_of_basicCredentials? hbasic (by decide)

end BrokerRelay.Dial.HttpConnect
