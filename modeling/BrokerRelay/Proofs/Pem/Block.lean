import BrokerRelay.Proofs.Base64
import BrokerRelay.Proofs.Bytes.Utf8
import BrokerRelay.Proofs.Pem.Marker
import BrokerRelay.Proofs.Text.Split
/-!
# Blocks are read back

A text that consists of a begin line, maybe two header lines and an empty one, the symbols of some
contents in lines, and an end line, is read as a block with these headers and contents. The label has
to be one that the marks around it do not cut short (`Delimited`); every block that was read has such a
label (`delimited_of_parse`). So a written block is read back (`parse_encode`), whatever text its label
was taken from.
-/

namespace BrokerRelay.Pem

/-! ## §1 Labels -/

theorem dashes_eq : dashes = List.replicate 5 45 := by decide

/-- A label that can stand in a begin line: there is one, and the first five dashes in a row behind the
mark of the line are those behind the label. -/
def Delimited (label : List Char) : Prop :=
  label ≠ [] ∧ ¬ dashes <:+: Bytes.encodeChars label ++ List.replicate 4 45

instance (label : List Char) : Decidable (Delimited label) := inferInstanceAs (Decidable (_ ∧ _))

theorem Delimited.cut? {label : List Char} (h : Delimited label) (rest : Bytes) :
    Pem.cut? dashes (Bytes.encodeChars label ++ (dashes ++ rest)) =
      some (Bytes.encodeChars label, rest) := by
  have hfree := h.2
  rw [dashes_eq] at hfree ⊢
  exact (cut?_replicate_eq_some_iff (by decide)).mpr ⟨rfl, hfree⟩

/-! ## §2 Frames -/

theorem endMark_eq : endMark = 45 :: 45 :: endMark.drop 2 := by decide

/-- A body in which dashes stand alone ends at the first end mark. -/
theorem cut?_endMark {body : Bytes} (h : Isolated 45 body) (hlast : body.getLast? ≠ some 45)
    (rest : Bytes) : cut? endMark (body ++ (endMark ++ rest)) = some (body, rest) := by
  unfold cut?
  have hskip := seek_skip_isolated (endMark.drop 2) [] (endMark ++ rest) h hlast
  rw [← endMark_eq] at hskip
  rw [hskip, seek_marker, List.append_nil, List.reverse_reverse]

theorem dropWhile_isFrameBlank {gap body : Bytes} (hgap : ∀ b ∈ gap, isFrameBlank b)
    (hbody : ∀ b ∈ body.head?, isFrameBlank b = false) :
    (gap ++ body).dropWhile isFrameBlank = body := by
  rw [List.dropWhile_append_of_pos hgap]
  cases body with
  | nil => rfl
  | cons b body => exact List.dropWhile_cons_of_neg (by simp [hbody b rfl])

/-- The parts of a text with a begin line, a body and an end line. -/
theorem Frame.first?_written {label : List Char} {gap body : Bytes} (hlabel : Delimited label)
    (hgap : ∀ b ∈ gap, isFrameBlank b) (hhead : ∀ b ∈ body.head?, isFrameBlank b = false)
    (hbody : Isolated 45 body) (hlast : body.getLast? ≠ some 45) (rest : Bytes) :
    Frame.first? (beginMark ++ (Bytes.encodeChars label ++ (dashes ++ (gap ++ (body ++
      (endMark ++ (Bytes.encodeChars label ++ (dashes ++ rest)))))))) =
        some ⟨Bytes.encodeChars label, (splitBody body).1, (splitBody body).2,
          Bytes.encodeChars label⟩ := by
  have hbegin := seek_marker beginMark [] (Bytes.encodeChars label ++ (dashes ++ (gap ++ (body ++
    (endMark ++ (Bytes.encodeChars label ++ (dashes ++ rest)))))))
  have hblank : ∀ more : Bytes, ∀ b ∈ (body ++ (endMark ++ more)).head?, isFrameBlank b = false := by
    intro more b hb
    cases body with
    | nil =>
      rw [endMark_eq] at hb
      obtain rfl : (45 : UInt8) = b := Option.some.inj hb
      rfl
    | cons a body => exact hhead b hb
  unfold Frame.first?
  rw [cut?, hbegin]
  simp only [Option.bind_eq_bind, Option.bind_some, hlabel.cut?,
    dropWhile_isFrameBlank hgap (hblank _), cut?_endMark hbody hlast]
  rfl

/-- The label of a frame stands in front of the first dashes. -/
theorem not_infix_of_first? {text : Bytes} {f : Frame} (h : Frame.first? text = some f) :
    ¬ dashes <:+: f.start ++ List.replicate 4 45 := by
  unfold Frame.first? at h
  obtain ⟨⟨_, afterMark⟩, -, h⟩ := Option.bind_eq_some_iff.mp h
  obtain ⟨⟨start, afterLabel⟩, hcut, h⟩ := Option.bind_eq_some_iff.mp h
  obtain ⟨⟨body, afterBody⟩, -, h⟩ := Option.bind_eq_some_iff.mp h
  obtain ⟨⟨stop, _⟩, -, h⟩ := Option.bind_eq_some_iff.mp h
  obtain rfl := Option.some.inj h
  rw [dashes_eq] at hcut ⊢
  exact ((cut?_replicate_eq_some_iff (by decide)).mp hcut).2

/-! ## §3 Blocks -/

theorem chars_eq_ok_iff {bs : Bytes} {cs : List Char} :
    chars bs = .ok cs ↔ bs = Bytes.encodeChars cs := by
  rw [← Bytes.decodeChars_eq_ok_iff]
  unfold chars
  cases Bytes.decodeChars bs with
  | error fault => simp [Except.mapError]
  | ok cs' => simp [Except.mapError]

/-- A computation that ends well has a first part that does. -/
theorem exists_of_bind_eq_ok {ε α β : Type} {x : Except ε α} {f : α → Except ε β} {y : β}
    (h : x >>= f = .ok y) : ∃ a, x = .ok a ∧ f a = .ok y := by
  cases x with
  | error e => cases h
  | ok a => exact ⟨a, rfl, h⟩

/-- A frame whose parts can be read is a block. -/
theorem Block.ofFrame_eq_ok {label : List Char} (hlabel : label ≠ []) {headers data : List Char}
    {hs : List Header} {contents : Bytes}
    (hheaders : (Text.lines headers).mapM Header.parse = .ok hs)
    (hdata : Base64.decode (Bytes.encodeChars (data.filter (!Text.isBlank ·))) = .ok contents) :
    Block.ofFrame ⟨Bytes.encodeChars label, Bytes.encodeChars headers, Bytes.encodeChars data,
      Bytes.encodeChars label⟩ = .ok ⟨label, hs, contents⟩ := by
  have hchars : ∀ cs, chars (Bytes.encodeChars cs) = .ok cs := fun cs => chars_eq_ok_iff.mpr rfl
  unfold Block.ofFrame
  simp only [hchars, bind, Except.bind, pure, Except.pure, if_neg hlabel, ne_eq, not_true_eq_false,
    if_false, hdata, Except.mapError, hheaders]

/-- A block that was read has the label that stands in its frame. -/
theorem Block.label_of_ofFrame {f : Frame} {b : Block} (h : Block.ofFrame f = .ok b) :
    f.start = Bytes.encodeChars b.label ∧ b.label ≠ [] := by
  unfold Block.ofFrame at h
  dsimp only at h
  obtain ⟨start, hstart, h⟩ := exists_of_bind_eq_ok h
  split at h
  · obtain ⟨_, hthrow, -⟩ := exists_of_bind_eq_ok h
    cases hthrow
  rename_i hne
  obtain ⟨stop, -, h⟩ := exists_of_bind_eq_ok h
  split at h
  · obtain ⟨_, hthrow, -⟩ := exists_of_bind_eq_ok h
    cases hthrow
  split at h
  · obtain ⟨_, hthrow, -⟩ := exists_of_bind_eq_ok h
    cases hthrow
  obtain ⟨data, -, h⟩ := exists_of_bind_eq_ok h
  obtain ⟨contents, -, h⟩ := exists_of_bind_eq_ok h
  obtain ⟨headers, -, h⟩ := exists_of_bind_eq_ok h
  obtain ⟨hs, -, h⟩ := exists_of_bind_eq_ok h
  obtain rfl := Except.ok.inj h
  exact ⟨chars_eq_ok_iff.mp hstart, hne⟩

/-- Every block that was read has a label that can stand in a begin line. -/
theorem delimited_of_parse {text : Bytes} {b : Block} (h : Block.parse text = .ok b) :
    Delimited b.label := by
  unfold Block.parse at h
  split at h
  · cases h
  · rename_i f hframe
    obtain ⟨hstart, hne⟩ := Block.label_of_ofFrame h
    have hfree := not_infix_of_first? hframe
    rw [hstart] at hfree
    exact ⟨hne, hfree⟩

/-! ## §4 Written texts -/

/-- How the lines of a text end. -/
inductive LineEnding where
  | lf
  | crlf
deriving DecidableEq, Repr

/-- The characters of a line ending. -/
def LineEnding.chars : LineEnding → List Char
  | .lf => ['\n']
  | .crlf => ['\r', '\n']

/-- The bytes of a line ending. -/
def LineEnding.bytes : LineEnding → Bytes
  | .lf => [10]
  | .crlf => [13, 10]

theorem encodeChars_lineEnding (ending : LineEnding) :
    Bytes.encodeChars ending.chars = ending.bytes := by
  cases ending <;> decide

/-- The lines that hold the symbols of a block. -/
def bodyText (ending : LineEnding) (lines : List Bytes) : Bytes :=
  lines.flatMap (· ++ ending.bytes)

/-- A text of one block: a begin line, what stands in front of the symbols, the symbols in lines, and an
end line. -/
def blockText (ending : LineEnding) (label head : List Char) (lines : List Bytes) : Bytes :=
  let label := Bytes.encodeChars label
  beginMark ++ (label ++ (dashes ++ (ending.bytes ++ (Bytes.encodeChars head ++ bodyText ending lines ++
    (endMark ++ (label ++ (dashes ++ ending.bytes)))))))

variable {ending : LineEnding} {lines : List Bytes} {contents : Bytes}

theorem mem_bytes_lineEnding {b : UInt8} (h : b ∈ ending.bytes) : b = 10 ∨ b = 13 := by
  cases ending with
  | lf => exact .inl (List.mem_singleton.mp h)
  | crlf => simpa [LineEnding.bytes, or_comm] using h

/-- The symbols in lines are visible, and no dash is among them. -/
theorem visible_of_mem_line (hlines : lines.flatten = Base64.encode contents) {line : Bytes}
    (hline : line ∈ lines) {b : UInt8} (hb : b ∈ line) : 0x20 < b ∧ b < 0x7f ∧ b ≠ 45 := by
  have hmem : b ∈ Base64.encode contents := hlines ▸ List.mem_flatten.mpr ⟨line, hline, hb⟩
  obtain ⟨hlow, hhigh⟩ := Base64.visible_of_mem_encode hmem
  exact ⟨hlow, hhigh, fun h => Base64.dash_not_mem_encode (h ▸ hmem)⟩

theorem mem_bodyText {b : UInt8} (h : b ∈ bodyText ending lines) :
    (∃ line ∈ lines, b ∈ line) ∨ b ∈ ending.bytes := by
  obtain ⟨line, hline, hb⟩ := List.mem_flatMap.mp h
  rcases List.mem_append.mp hb with hb | hb
  · exact .inl ⟨line, hline, hb⟩
  · exact .inr hb

/-- A visible byte is no blank character, and the bytes of a line ending are blank. -/
theorem isBlank_of_visible {b : UInt8} (hlow : 0x20 < b) (hhigh : b < 0x7f) :
    Text.isBlank (Char.ofNat b.toNat) = false := by
  have hall : ∀ i : Fin 127, 32 < i.val → Text.isBlank (Char.ofNat i) = false := by decide
  exact hall ⟨b.toNat, UInt8.lt_iff_toNat_lt.mp hhigh⟩ (UInt8.lt_iff_toNat_lt.mp hlow)

theorem isFrameBlank_of_visible {b : UInt8} (hlow : 0x20 < b) : isFrameBlank b = false := by
  have hne : ∀ c : UInt8, ¬ 0x20 < c → b ≠ c := fun c hc h => hc (h ▸ hlow)
  simp [isFrameBlank, hne 32 (by decide), hne 9 (by decide), hne 10 (by decide), hne 13 (by decide)]

theorem ascii_of_mem_bodyText (hlines : lines.flatten = Base64.encode contents) :
    ∀ b ∈ bodyText ending lines, b.toNat < 0x80 := by
  intro b hb
  rcases mem_bodyText hb with ⟨line, hline, hb⟩ | hb
  · have hhigh := UInt8.lt_iff_toNat_lt.mp (visible_of_mem_line hlines hline hb).2.1
    exact Nat.lt_trans hhigh (by decide)
  · rcases mem_bytes_lineEnding hb with rfl | rfl <;> decide

theorem dash_not_mem_bodyText (hlines : lines.flatten = Base64.encode contents) :
    45 ∉ bodyText ending lines := by
  intro h
  rcases mem_bodyText h with ⟨line, hline, hb⟩ | hb
  · exact (visible_of_mem_line hlines hline hb).2.2 rfl
  · rcases mem_bytes_lineEnding hb with h | h <;> exact absurd h (by decide)

/-- The lines of the symbols of some contents are text that is read as these contents. -/
theorem decode_bodyText (ending : LineEnding) (hlines : lines.flatten = Base64.encode contents) :
    ∃ data : List Char, bodyText ending lines = Bytes.encodeChars data ∧
      Base64.decode (Bytes.encodeChars (data.filter (!Text.isBlank ·))) = .ok contents := by
  have hascii : ∀ b ∈ bodyText ending lines, b.toNat < 0x80 := ascii_of_mem_bodyText hlines
  refine ⟨_, (Bytes.encodeChars_map_ofNat hascii).symm, ?_⟩
  -- without the blanks, which are the line endings, the symbols are left
  have hsymbols : (bodyText ending lines).filter (fun b => !Text.isBlank (Char.ofNat b.toNat)) =
      lines.flatten := by
    have hending : ending.bytes.filter (fun b => !Text.isBlank (Char.ofNat b.toNat)) = [] := by
      cases ending <;> decide
    unfold bodyText
    rw [List.filter_flatMap, List.flatten_eq_flatMap]
    refine List.flatMap_congr fun line hline => ?_
    rw [List.filter_append, hending, List.append_nil]
    apply List.filter_eq_self.mpr
    intro b hb
    obtain ⟨hlow, hhigh, -⟩ := visible_of_mem_line hlines hline hb
    rw [isBlank_of_visible hlow hhigh]
    rfl
  have hfilter : ((bodyText ending lines).map fun b => Char.ofNat b.toNat).filter
      (!Text.isBlank ·) = (lines.flatten).map fun b => Char.ofNat b.toNat := by
    rw [List.filter_map, ← hsymbols]
    rfl
  rw [hfilter, Bytes.encodeChars_map_ofNat, hlines, Base64.decode_encode]
  intro b hb
  apply hascii b
  rw [← hsymbols] at hb
  exact List.mem_of_mem_filter hb

/-- A text of one block is read as it was put together, if its head is told apart from the symbols. -/
theorem parse_blockText {label head headers : List Char} {hs : List Header}
    (hlabel : Delimited label) (hlines : lines.flatten = Base64.encode contents)
    (hhead : ∀ b ∈ (Bytes.encodeChars head ++ bodyText ending lines).head?, isFrameBlank b = false)
    (hisolated : Isolated 45 (Bytes.encodeChars head))
    (hlast : (Bytes.encodeChars head).getLast? ≠ some 45)
    (hsplit : splitBody (Bytes.encodeChars head ++ bodyText ending lines) =
      (Bytes.encodeChars headers, bodyText ending lines))
    (hheaders : (Text.lines headers).mapM Header.parse = .ok hs) :
    Block.parse (blockText ending label head lines) = .ok ⟨label, hs, contents⟩ := by
  have hdash : 45 ∉ bodyText ending lines := dash_not_mem_bodyText hlines
  have hbody : Isolated 45 (Bytes.encodeChars head ++ bodyText ending lines) :=
    hisolated.append (isolated_of_not_mem hdash) (.inl hlast)
  have hbodyLast : (Bytes.encodeChars head ++ bodyText ending lines).getLast? ≠ some 45 := by
    intro h
    rw [List.getLast?_append] at h
    cases hl : (bodyText ending lines).getLast? with
    | none =>
      rw [hl] at h
      exact hlast h
    | some b =>
      rw [hl] at h
      obtain rfl : b = 45 := Option.some.inj h
      exact hdash (List.mem_of_getLast? hl)
  have hgap : ∀ b ∈ ending.bytes, isFrameBlank b := by
    intro b hb
    rcases mem_bytes_lineEnding hb with rfl | rfl <;> decide
  obtain ⟨data, hdata, hdecode⟩ := decode_bodyText ending hlines
  unfold Block.parse blockText
  dsimp only
  rw [Frame.first?_written hlabel hgap hhead hbody hbodyLast, hsplit, hdata]
  exact Block.ofFrame_eq_ok hlabel.1 hheaders hdecode

/-! ## §5 Blocks without headers -/

theorem not_lineEnding_of_mem_line (hlines : lines.flatten = Base64.encode contents) {line : Bytes}
    (hline : line ∈ lines) {b : UInt8} (hb : b ∈ line) : b ≠ 10 ∧ b ≠ 13 := by
  have hlow := (visible_of_mem_line hlines hline hb).1
  constructor
  · rintro rfl
    exact absurd hlow (by decide)
  · rintro rfl
    exact absurd hlow (by decide)

/-- Behind the line feeds of lines with symbols no other line ending follows. -/
theorem isChain_bodyText (ending : LineEnding)
    (hvisible : ∀ line ∈ lines, ∀ b ∈ line, b ≠ 10 ∧ b ≠ 13)
    (hne : ∀ line ∈ lines, line ≠ []) :
    (bodyText ending lines).IsChain fun a b => a = 10 → b ≠ 10 ∧ b ≠ 13 := by
  induction lines with
  | nil => exact .nil
  | cons line lines ih =>
    have hline := hvisible line List.mem_cons_self
    have hrest := ih (fun l hl => hvisible l (List.mem_cons_of_mem _ hl))
      (fun l hl => hne l (List.mem_cons_of_mem _ hl))
    have hfirst : (line ++ ending.bytes).IsChain fun a b => a = 10 → b ≠ 10 ∧ b ≠ 13 := by
      refine List.isChain_append.mpr ⟨?_, ?_, ?_⟩
      · exact isChain_of_forall_mem fun a ha b h => absurd h (hline a ha).1
      · cases ending <;> decide
      · intro a ha b hb h
        exact absurd h (hline a (List.mem_of_getLast? ha)).1
    refine List.isChain_append.mpr ⟨hfirst, hrest, ?_⟩
    -- the next line starts with a symbol
    intro a ha b hb _
    cases lines with
    | nil => cases hb
    | cons next lines =>
      obtain ⟨c, next, rfl⟩ := List.exists_cons_of_ne_nil (hne next (by simp))
      obtain rfl : c = b := Option.some.inj hb
      exact hvisible (c :: next) (by simp) c List.mem_cons_self

/-- Lines with symbols hold no empty line, so nothing of them is taken for headers. -/
theorem splitBody_bodyText (hlines : lines.flatten = Base64.encode contents)
    (hne : ∀ line ∈ lines, line ≠ []) :
    splitBody (bodyText ending lines) = ([], bodyText ending lines) := by
  have hchain := isChain_bodyText ending
    (fun _ hline _ hb => not_lineEnding_of_mem_line hlines hline hb) hne
  have hlf : cut? [10, 10] (bodyText ending lines) = none := by
    apply cut?_eq_none
    intro hinfix
    have hpart := List.IsChain.infix hchain hinfix
    exact absurd hpart (by decide)
  have hcrlf : cut? [13, 10, 13, 10] (bodyText ending lines) = none := by
    apply cut?_eq_none
    intro hinfix
    have hpart := List.IsChain.infix hchain hinfix
    exact absurd hpart (by decide)
  unfold splitBody
  rw [hlf, hcrlf]
  rfl

/-- The lines of 64 symbols that are written have symbols in them. -/
theorem wrapped_eq_bodyText (symbols : Bytes) :
    ∃ lines : List Bytes, lines.flatten = symbols ∧ (∀ line ∈ lines, line ≠ []) ∧
      wrapped symbols = bodyText .crlf lines := by
  fun_induction wrapped symbols with
  | case1 => exact ⟨[], rfl, by simp, rfl⟩
  | case2 symbols h ih =>
    obtain ⟨lines, hflatten, hne, heq⟩ := ih
    refine ⟨symbols.take 64 :: lines, ?_, ?_, ?_⟩
    · rw [List.flatten_cons, hflatten, List.take_append_drop]
    · intro line hline
      rcases List.mem_cons.mp hline with rfl | hline
      · simp [h]
      · exact hne line hline
    · rw [heq]
      rfl

/-- What is written of a block is a text of it without headers, in lines of symbols. -/
theorem encode_eq_blockText (label : List Char) (contents : Bytes) :
    ∃ lines : List Bytes, lines.flatten = Base64.encode contents ∧ (∀ line ∈ lines, line ≠ []) ∧
      Block.encode ⟨label, [], contents⟩ = blockText .crlf label [] lines := by
  obtain ⟨lines, hflatten, hne, heq⟩ := wrapped_eq_bodyText (Base64.encode contents)
  refine ⟨lines, hflatten, hne, ?_⟩
  unfold Block.encode blockText
  simp only [heq, List.append_assoc, Bytes.encodeChars_nil, List.nil_append]
  rfl

/-- **A written block is read back**, without headers and with the same label and contents. -/
theorem parse_encode {label : List Char} (hlabel : Delimited label) (contents : Bytes) :
    Block.parse (Block.encode ⟨label, [], contents⟩) = .ok ⟨label, [], contents⟩ := by
  obtain ⟨lines, hlines, hne, heq⟩ := encode_eq_blockText label contents
  rw [heq]
  have hheaders : (Text.lines []).mapM Header.parse = .ok [] := rfl
  have hsplit : splitBody (Bytes.encodeChars [] ++ bodyText .crlf lines) =
      (Bytes.encodeChars [], bodyText .crlf lines) := splitBody_bodyText hlines hne
  refine parse_blockText hlabel hlines ?_ .nil (by simp) hsplit hheaders
  intro b hb
  cases lines with
  | nil => cases hb
  | cons line lines =>
    obtain ⟨c, line, rfl⟩ := List.exists_cons_of_ne_nil (hne line List.mem_cons_self)
    obtain rfl : c = b := Option.some.inj hb
    exact isFrameBlank_of_visible (visible_of_mem_line hlines List.mem_cons_self List.mem_cons_self).1

/-! ## §6 Blocks in longer texts -/

/-- A frame is found as well where more follows. -/
theorem Frame.first?_append {text : Bytes} {f : Frame} (h : Frame.first? text = some f) (more : Bytes) :
    Frame.first? (text ++ more) = some f := by
  unfold Frame.first? at h ⊢
  obtain ⟨⟨before, afterMark⟩, hmark, h⟩ := Option.bind_eq_some_iff.mp h
  obtain ⟨⟨start, afterLabel⟩, hlabel, h⟩ := Option.bind_eq_some_iff.mp h
  obtain ⟨⟨body, afterBody⟩, hbody, h⟩ := Option.bind_eq_some_iff.mp h
  obtain ⟨⟨stop, afterStop⟩, hstop, h⟩ := Option.bind_eq_some_iff.mp h
  -- the blanks behind the label end before the end mark, so nothing of `more` is dropped with them
  have hdrop : (afterLabel ++ more).dropWhile isFrameBlank =
      afterLabel.dropWhile isFrameBlank ++ more := by
    rw [List.dropWhile_append, if_neg]
    intro hempty
    rw [List.isEmpty_iff.mp hempty] at hbody
    cases hbody
  simp only [Option.bind_eq_bind, cut?_append_right more hmark, Option.bind_some,
    cut?_append_right more hlabel, hdrop, cut?_append_right more hbody, cut?_append_right more hstop]
  exact h

/-- **Nothing behind the first block is looked at.** -/
theorem parse_append {text : Bytes} {b : Block} (h : Block.parse text = .ok b) (more : Bytes) :
    Block.parse (text ++ more) = .ok b := by
  unfold Block.parse at h ⊢
  cases hframe : Frame.first? text with
  | none =>
    rw [hframe] at h
    cases h
  | some f =>
    rw [hframe] at h
    rw [Frame.first?_append hframe more]
    exact h

/-- Nothing of the text is left in an unfinished line. -/
def EndsLine (text : Bytes) : Prop := ∀ b ∈ text.getLast?, b = 10 ∨ b = 13

instance (text : Bytes) : Decidable (EndsLine text) :=
  decidable_of_iff (text.getLast?.all fun b => b = 10 ∨ b = 13) (by
    unfold EndsLine
    cases text.getLast? <;> simp)

/-- Nor is a text without a begin mark that stands in front of it, on lines of its own. -/
theorem parse_behind {before : Bytes} (hfree : ¬ beginMark <:+: before) (hends : EndsLine before)
    (rest : Bytes) : Block.parse (before ++ (beginMark ++ rest)) = Block.parse (beginMark ++ rest) := by
  have hmark : ∀ b ∈ before.getLast?, b ∉ beginMark := by
    intro b hb
    rcases hends b hb with rfl | rfl <;> decide
  have hcut : cut? beginMark (beginMark ++ rest) = some ([], rest) := seek_marker beginMark [] rest
  have hframe : Frame.first? (before ++ (beginMark ++ rest)) = Frame.first? (beginMark ++ rest) := by
    unfold Frame.first?
    rw [cut?_append_left hfree hmark, hcut]
    rfl
  unfold Block.parse
  rw [hframe]

end BrokerRelay.Pem
