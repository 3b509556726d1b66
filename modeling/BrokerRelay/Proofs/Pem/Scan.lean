import BrokerRelay.Pem.Section
import BrokerRelay.Proofs.Pem.Encryption
/-!
# Scanning for sections

A text is cut into its sections line by line, and the body of a section is read with blanks in it, which
is another reader than the one that looks for a first block. What it makes of a text can be told part by
part: a part of whole lines without a malformed section has no influence on what is found behind it
(`scan_append`), and a block is one section, with what its body is read as (`scan_blockText`). So a
written block is a section with its contents (`scan_encode`), and an encrypted one is malformed at the
first dash of its headers (`scan_encryptedText`).
-/

namespace BrokerRelay.Pem

/-! ## §1 Bodies -/

/-- Blanks have no influence on what a body is read as. -/
theorem decodeFrom_filter (held : List (Option Nat)) (body : Bytes) :
    decodeFrom held (body.filter (!isBodyBlank ·)) = decodeFrom held body := by
  induction body generalizing held with
  | nil => rfl
  | cons b body ih =>
    by_cases hb : isBodyBlank b
    · rw [List.filter_cons_of_neg (by simp [hb]), decodeFrom, if_pos hb, ih]
    · rw [List.filter_cons_of_pos (by simp [hb]), decodeFrom, decodeFrom]
      simp only [if_neg hb, ih]

theorem isBodyBlank_symbol {n : Nat} (h : n < 64) : isBodyBlank (Base64.symbol n) = false := by
  have hall : ∀ i : Fin 64, isBodyBlank (Base64.symbol i) = false := by decide
  exact hall ⟨n, h⟩

theorem symbol?_symbol {n : Nat} (h : n < 64) : symbol? (Base64.symbol n) = .ok (some n) := by
  unfold symbol?
  rw [Base64.symbol_ne_pad h, Base64.value?_symbol h]
  rfl

variable {held : List (Option Nat)} {values : List Nat} {rest : Bytes} {n : Nat}

theorem decodeFrom_symbol (hheld : held.length < 8) (hn : n < 64) :
    decodeFrom held (Base64.symbol n :: rest) = decodeFrom (held ++ [some n]) rest := by
  rw [decodeFrom, isBodyBlank_symbol hn, symbol?_symbol hn]
  exact if_pos hheld

theorem decodeFrom_pad (hheld : held.length < 8) :
    decodeFrom held (Base64.pad :: rest) = decodeFrom (held ++ [none]) rest :=
  if_pos hheld

/-- When a symbol follows eight of them, these are put together. -/
theorem decodeFrom_full (hvalues : values.length = 8) (hn : n < 64) :
    decodeFrom (values.map some) (Base64.symbol n :: rest) =
      (decodeFrom [] (Base64.symbol n :: rest)).map (joined values ++ ·) := by
  have hlen : ¬ (values.map some).length < 8 := by simp [hvalues]
  have hunpadded : unpadded (values.map some) = .ok (joined values) := by
    simp [unpadded, List.filterMap_map]
  have hfirst : decodeFrom [] (Base64.symbol n :: rest) = decodeFrom [some n] rest :=
    decodeFrom_symbol (by decide) hn
  rw [hfirst, decodeFrom, isBodyBlank_symbol hn, symbol?_symbol hn]
  simp only [Bool.false_eq_true, if_false, bind, Except.bind, if_neg hlen, hunpadded]
  rfl

/-- The values of a group of three bytes. -/
def groupValues (a b c : UInt8) : List Nat :=
  [a.toNat / 4, a.toNat % 4 * 16 + b.toNat / 16, b.toNat % 16 * 4 + c.toNat / 64, c.toNat % 64]

theorem joined_groupValues (a b c : UInt8) (values : List Nat) :
    joined (groupValues a b c ++ values) = a :: b :: c :: joined values := by
  obtain ⟨hfirst, hsecond, hthird⟩ := Base64.bytes_of_group a b c
  unfold groupValues
  rw [List.cons_append, List.cons_append, List.cons_append, List.cons_append, joined, hfirst, hsecond,
    hthird]
  rfl

theorem joined_append {values : List Nat} (hvalues : values.length = 0 ∨ values.length = 4)
    (more : List Nat) : joined (values ++ more) = joined values ++ joined more := by
  match values with
  | [] => rfl
  | [_, _, _, _] => rfl

theorem decodeFrom_nil {values : List Nat} (hvalues : values.length = 0 ∨ values.length = 4) :
    decodeFrom (values.map some) [] = .ok (joined values) := by
  match values with
  | [] => rfl
  | [_, _, _, _] => rfl

/-- At the end of a body the last four symbols are read as a last group. -/
theorem decodeFrom_last {values : List Nat} (hvalues : values.length = 0 ∨ values.length = 4)
    {last : List (Option Nat)} (hlast : last.length = 4) {bs : Bytes} (h : lastGroup last = .ok bs) :
    decodeFrom (values.map some ++ last) [] = .ok (joined values ++ bs) := by
  match values with
  | [] =>
    have hlen : last.length ≤ 4 := by omega
    rw [List.map_nil, List.nil_append, decodeFrom, if_pos hlen, h]
    rfl
  | [v, w, x, y] =>
    have hlen : ¬ ([v, w, x, y].map some ++ last).length ≤ 4 := by simp [hlast]
    rw [decodeFrom, if_neg hlen]
    show (do return (← unpadded [some v, some w, some x, some y]) ++ (← lastGroup last)) = _
    rw [h]
    rfl

/-- Symbols are taken up as long as there is room for them. -/
theorem decodeFrom_symbols {ns : List Nat} (hroom : held.length + ns.length ≤ 8)
    (hns : ∀ n ∈ ns, n < 64) (rest : Bytes) :
    decodeFrom held (ns.map Base64.symbol ++ rest) = decodeFrom (held ++ ns.map some) rest := by
  induction ns generalizing held with
  | nil => rw [List.map_nil, List.map_nil, List.append_nil, List.nil_append]
  | cons n ns ih =>
    rw [List.length_cons] at hroom
    rw [List.map_cons, List.cons_append, decodeFrom_symbol (by omega) (hns n List.mem_cons_self),
      ih (by rw [List.length_append, List.length_singleton]; omega)
        fun m hm => hns m (List.mem_cons_of_mem n hm),
      List.append_assoc]
    rfl

theorem groupValues_lt (a b c : UInt8) : ∀ n ∈ groupValues a b c, n < 64 := by
  have ha := a.toNat_lt
  have hb := b.toNat_lt
  have hc := c.toNat_lt
  simp only [groupValues, List.mem_cons, List.not_mem_nil, or_false]
  rintro n (rfl | rfl | rfl | rfl) <;> omega

theorem decodeFrom_pads {k : Nat} (hroom : held.length + k ≤ 8) :
    decodeFrom held (List.replicate k Base64.pad) = decodeFrom (held ++ List.replicate k none) [] := by
  induction k generalizing held with
  | zero => rw [List.replicate_zero, List.replicate_zero, List.append_nil]
  | succ k ih =>
    rw [List.replicate_succ, decodeFrom_pad (by omega),
      ih (by rw [List.length_append, List.length_singleton]; omega), List.append_assoc]
    rfl

/-- A padded group ends a body. -/
theorem decodeFrom_padded {values : List Nat} (hvalues : values.length = 0 ∨ values.length = 4)
    {ns : List Nat} (hns : ∀ n ∈ ns, n < 64) {k : Nat} (hlen : ns.length + k = 4) {bs : Bytes}
    (h : lastGroup (ns.map some ++ List.replicate k none) = .ok bs) :
    decodeFrom (values.map some) (ns.map Base64.symbol ++ List.replicate k Base64.pad) =
      .ok (joined values ++ bs) := by
  rw [decodeFrom_symbols (by rw [List.length_map]; omega) hns,
    decodeFrom_pads (by simp only [List.length_append, List.length_map]; omega), List.append_assoc]
  exact decodeFrom_last hvalues (by simp [hlen]) h

/-- The symbols of some bytes are read as these bytes, behind symbols of a whole group or of none. -/
theorem decodeFrom_encode (bs : Bytes) (values : List Nat)
    (hvalues : values.length = 0 ∨ values.length = 4) :
    decodeFrom (values.map some) (Base64.encode bs) = .ok (joined values ++ bs) := by
  -- by the groups of the writer: each whole one finds no symbols held, or those of one group before it
  fun_induction Base64.encode bs generalizing values with
  | case1 => rw [decodeFrom_nil hvalues, List.append_nil]
  | case2 a =>
    have hlast : lastGroup (((groupValues a 0 0).take 2).map some ++ List.replicate 2 none) =
        .ok [a] := congrArg (fun b => Except.ok [b]) (Base64.bytes_of_group a 0 0).1
    exact decodeFrom_padded hvalues (fun n hn => groupValues_lt a 0 0 n (List.mem_of_mem_take hn)) rfl
      hlast
  | case3 a b =>
    obtain ⟨hfirst, hsecond, -⟩ := Base64.bytes_of_group a b 0
    have hlast : lastGroup (((groupValues a b 0).take 3).map some ++ List.replicate 1 none) =
        .ok [a, b] := congrArg₂ (fun a b => Except.ok [a, b]) hfirst hsecond
    exact decodeFrom_padded hvalues (fun n hn => groupValues_lt a b 0 n (List.mem_of_mem_take hn)) rfl
      hlast
  | case4 a b c rest ih =>
    have hread : decodeFrom (values.map some)
        ((groupValues a b c).map Base64.symbol ++ Base64.encode rest) = _ :=
      decodeFrom_symbols (by simp [groupValues]; omega) (groupValues_lt a b c) _
    refine hread.trans ?_
    rw [← List.map_append]
    have hgroup : joined (groupValues a b c) = [a, b, c] := joined_groupValues a b c []
    rcases hvalues with hnone | hfour
    · obtain rfl := List.length_eq_zero_iff.mp hnone
      rw [List.nil_append, ih _ (.inr rfl), hgroup]
      rfl
    · -- there are eight symbols now, which the next one puts together
      have height : (values ++ groupValues a b c).length = 8 := by
        rw [List.length_append, hfour]
        rfl
      cases rest with
      | nil =>
        rw [List.map_append]
        exact decodeFrom_last (.inr hfour) rfl (congrArg Except.ok hgroup)
      | cons d rest =>
        obtain ⟨n, hn, more, heq⟩ := Base64.encode_eq_cons (List.cons_ne_nil d rest)
        have hrest : decodeFrom [] (Base64.encode (d :: rest)) = .ok (d :: rest) :=
          ih [] (.inl rfl)
        rw [heq] at hrest ⊢
        rw [decodeFrom_full height hn, hrest, joined_append (.inr hfour), hgroup]
        simp [Except.map]

/-- A body is read as some bytes if it has their symbols and nothing else but blanks. -/
theorem decodeBody_of_symbols {body contents : Bytes}
    (h : body.filter (!isBodyBlank ·) = Base64.encode contents) : decodeBody body = .ok contents := by
  unfold decodeBody
  rw [← decodeFrom_filter, h]
  exact decodeFrom_encode contents [] (.inl rfl)

/-! ## §2 Lines -/

theorem EndsLine.append {text more : Bytes} (htext : EndsLine text) (hmore : EndsLine more) :
    EndsLine (text ++ more) := by
  intro b hb
  rw [Option.mem_def, List.getLast?_append, Option.or_eq_some_iff] at hb
  rcases hb with hb | ⟨-, hb⟩
  · exact hmore b hb
  · exact htext b hb

theorem EndsLine.of_cons {b : UInt8} {text : Bytes} (h : EndsLine (b :: text)) : EndsLine text := by
  intro c hc
  refine h c ?_
  rw [Option.mem_def] at hc ⊢
  rw [List.getLast?_cons, hc]
  rfl

/-- What ends with a line ending ends a line. -/
theorem EndsLine.behind {text : Bytes} (h : EndsLine text) (hne : text ≠ []) (front : Bytes) :
    EndsLine (front ++ text) := by
  intro b hb
  rw [List.getLast?_append_of_ne_nil _ hne] at hb
  exact h b hb

theorem flatten_lines (text : Bytes) : (lines text).flatten = text := by
  fun_induction lines text with
  | case1 => rfl
  | case2 b rest hb ih => rw [List.flatten_cons, ih]; rfl
  | case3 b rest hb hnil ih =>
    rw [hnil] at ih
    rw [← ih]
    rfl
  | case4 b rest hb line others hcons ih =>
    rw [hcons] at ih
    rw [← ih]
    rfl

/-- Behind whole lines the lines of the rest follow. -/
theorem lines_append {text : Bytes} (h : EndsLine text) (more : Bytes) :
    lines (text ++ more) = lines text ++ lines more := by
  fun_induction lines text with
  | case1 => rfl
  | case2 b rest hb ih =>
    rw [List.cons_append, lines, if_pos hb, ih h.of_cons]
    rfl
  | case3 b rest hb hnil ih =>
    -- there would have to be an end of a line behind `b`
    have hrest : rest = [] := by rw [← flatten_lines rest, hnil]; rfl
    subst hrest
    exact absurd (h b rfl) (by simpa using hb)
  | case4 b rest hb line others hcons ih =>
    rw [List.cons_append, lines, if_neg hb, ih h.of_cons, hcons]
    rfl

/-! ## §3 Sections -/

/-! What a line does, one lemma for each kind of line that leaves no malformed section. -/

section Steps

variable {line : Bytes} {ls : List Bytes} {s : OpenSection}

theorem sections_begin (current : Option OpenSection) {tail label : Bytes}
    (hafter : after? beginMark line = some tail) (hlabel : beginLabel? tail = some label) :
    sections current (line :: ls) =
      sections (some ⟨label, (current.map OpenSection.body).getD []⟩) ls := by
  cases current <;> simp only [sections, hafter, hlabel]

theorem sections_outside (hafter : after? beginMark line = none) :
    sections none (line :: ls) = sections none ls := by
  rw [sections, hafter]

theorem sections_end (hafter : after? beginMark line = none) (hends : endsSection s.label line) :
    sections (some s) (line :: ls) = s.close.toList ++ sections none ls := by
  rw [sections, hafter]
  exact if_pos hends

theorem sections_inside (hafter : after? beginMark line = none) (hends : ¬endsSection s.label line) :
    sections (some s) (line :: ls) = sections (some ⟨s.label, s.body ++ line⟩) ls := by
  rw [sections, hafter]
  exact if_neg hends

end Steps

/-- Whole lines without a malformed section have no influence on what is found behind them: they leave
no section open. -/
theorem sections_append {current : Option OpenSection} {ls : List Bytes}
    (h : ∀ reason, Section.malformed reason ∉ sections current ls) (more : List Bytes) :
    sections current (ls ++ more) = sections current ls ++ sections none more := by
  fun_induction sections current ls with
  | case1 => rfl
  | case2 s =>
    -- a section that is still open is reported as malformed
    exact absurd List.mem_cons_self (h _)
  | case3 current line rest tail htail label hlabel ih =>
    rw [List.cons_append, sections_begin current htail hlabel, ih h]
  | case4 current line rest tail htail hlabel ih => exact absurd List.mem_cons_self (h _)
  | case5 line rest hplain ih => rw [List.cons_append, sections_outside hplain, ih h]
  | case6 line rest hplain s hends ih =>
    rw [List.cons_append, sections_end hplain hends,
      ih fun reason hmem => h reason (List.mem_append_right _ hmem), List.append_assoc]
  | case7 line rest hplain s hends ih =>
    rw [List.cons_append, sections_inside hplain hends, ih h]

/-- **A part of whole lines without a malformed section is scanned by itself.** -/
theorem scan_append {text : Bytes} (hends : EndsLine text)
    (hwhole : ∀ reason, Section.malformed reason ∉ Section.scan text) (more : Bytes) :
    Section.scan (text ++ more) = Section.scan text ++ Section.scan more := by
  unfold Section.scan
  rw [lines_append hends]
  exact sections_append hwhole (lines more)

/-- A line that starts with no two dashes marks nothing. -/
theorem not_prefix_of_isolated {line rest : Bytes} (h : Isolated 45 line) :
    ¬ (45 :: 45 :: rest) <+: line := by
  intro hprefix
  exact h.not_infix ((List.prefix_append [45, 45] rest).isInfix.trans hprefix.isInfix)

theorem beginMark_eq : beginMark = 45 :: 45 :: beginMark.drop 2 := by decide

theorem after?_beginMark_of_isolated {line : Bytes} (h : Isolated 45 line) :
    after? beginMark line = none := by
  unfold after?
  rw [beginMark_eq]
  exact if_neg fun hprefix => not_prefix_of_isolated h (List.isPrefixOf_iff_prefix.mp hprefix)

theorem not_endsSection_of_isolated {line : Bytes} (h : Isolated 45 line) (label : Bytes) :
    ¬endsSection label line := by
  unfold endsSection
  rw [endMark_eq]
  exact fun hprefix => not_prefix_of_isolated h (List.isPrefixOf_iff_prefix.mp hprefix)

/-- Lines in which dashes stand alone are the body of an open section. -/
theorem sections_body {ls : List Bytes} (hls : ∀ line ∈ ls, Isolated 45 line) (s : OpenSection)
    (rest : List Bytes) :
    sections (some s) (ls ++ rest) = sections (some ⟨s.label, s.body ++ ls.flatten⟩) rest := by
  induction ls generalizing s with
  | nil => rw [List.nil_append, List.flatten_nil, List.append_nil]
  | cons line ls ih =>
    have hline := hls line List.mem_cons_self
    rw [List.cons_append, sections_inside (after?_beginMark_of_isolated hline)
      (not_endsSection_of_isolated hline s.label), ih fun l hl => hls l (List.mem_cons_of_mem line hl),
      List.flatten_cons, List.append_assoc]

/-- Lines of a text in which dashes stand alone are such lines. -/
theorem isolated_of_mem_lines {text line : Bytes} (h : Isolated 45 text) (hline : line ∈ lines text) :
    Isolated 45 line := by
  apply List.IsChain.infix h
  rw [← flatten_lines text]
  exact List.infix_of_mem_flatten hline

/-- A line with a mark, the begin line or the end line of a section. -/
def markLine (mark : Bytes) (kind : SectionKind) (nl : UInt8) : Bytes :=
  mark ++ (Bytes.encodeUtf8 kind.label ++ (dashes ++ [nl]))

variable {nl nl' : UInt8}

theorem lines_markLine {mark : Bytes} (hmark : mark = beginMark ∨ mark = endMark) (kind : SectionKind)
    (hnl : nl = 10 ∨ nl = 13) :
    lines (markLine mark kind nl) = [markLine mark kind nl] ∧ EndsLine (markLine mark kind nl) := by
  rcases hmark with rfl | rfl <;> rcases hnl with rfl | rfl <;> cases kind <;> decide

theorem sections_beginLine (kind : SectionKind) (hnl : nl = 10 ∨ nl = 13) (rest : List Bytes) :
    sections none (markLine beginMark kind nl :: rest) =
      sections (some ⟨Bytes.encodeUtf8 kind.label, []⟩) rest := by
  have hafter : after? beginMark (markLine beginMark kind nl) =
      some (Bytes.encodeUtf8 kind.label ++ (dashes ++ [nl])) := by
    rcases hnl with rfl | rfl <;> cases kind <;> decide
  have hlabel : beginLabel? (Bytes.encodeUtf8 kind.label ++ (dashes ++ [nl])) =
      some (Bytes.encodeUtf8 kind.label) := by
    rcases hnl with rfl | rfl <;> cases kind <;> decide
  exact sections_begin none hafter hlabel

theorem sections_endLine (kind : SectionKind) (hnl : nl = 10 ∨ nl = 13) (body : Bytes)
    (rest : List Bytes) :
    sections (some ⟨Bytes.encodeUtf8 kind.label, body⟩) (markLine endMark kind nl :: rest) =
      (OpenSection.close ⟨Bytes.encodeUtf8 kind.label, body⟩).toList ++ sections none rest := by
  have hafter : after? beginMark (markLine endMark kind nl) = none := by
    rcases hnl with rfl | rfl <;> cases kind <;> decide
  have hends : endsSection (Bytes.encodeUtf8 kind.label) (markLine endMark kind nl) := by
    rcases hnl with rfl | rfl <;> cases kind <;> decide
  exact sections_end hafter hends

/-- Between its begin line and its end line stands the body of a section, if dashes stand alone in it. -/
theorem scan_framed (kind : SectionKind) (hnl : nl = 10 ∨ nl = 13) (hnl' : nl' = 10 ∨ nl' = 13)
    {body : Bytes} (hbody : Isolated 45 body) (hends : EndsLine body) (more : Bytes) :
    Section.scan (markLine beginMark kind nl ++ (body ++ (markLine endMark kind nl' ++ more))) =
      (OpenSection.close ⟨Bytes.encodeUtf8 kind.label, body⟩).toList ++ Section.scan more := by
  obtain ⟨hbegin, hbeginEnds⟩ := lines_markLine (.inl rfl) kind hnl
  obtain ⟨hend, hendEnds⟩ := lines_markLine (.inr rfl) kind hnl'
  unfold Section.scan
  rw [lines_append hbeginEnds, lines_append hends, lines_append hendEnds, hbegin, hend,
    List.singleton_append, sections_beginLine kind hnl,
    sections_body fun _ hline => isolated_of_mem_lines hbody hline, List.singleton_append,
    List.nil_append, flatten_lines, sections_endLine kind hnl']

/-! ## §4 Blocks -/

variable {kind : SectionKind} {body contents : Bytes} {ending : LineEnding} {lines : List Bytes}

theorem SectionKind.ofLabel?_label (kind : SectionKind) :
    ofLabel? (Bytes.encodeUtf8 kind.label) = some kind := by
  cases kind <;> decide

theorem close_of_ok (h : decodeBody body = .ok contents) :
    OpenSection.close ⟨Bytes.encodeUtf8 kind.label, body⟩ = some (.item kind contents) := by
  unfold OpenSection.close
  rw [SectionKind.ofLabel?_label, h]
  rfl

theorem close_of_error {fault : BodyFault} (h : decodeBody body = .error fault) :
    OpenSection.close ⟨Bytes.encodeUtf8 kind.label, body⟩ = some (.malformed fault.message) := by
  unfold OpenSection.close
  rw [SectionKind.ofLabel?_label, h]
  rfl

/-- A line ends at the first byte of its ending. -/
theorem LineEnding.bytes_eq (ending : LineEnding) :
    ∃ nl, (nl = 10 ∨ nl = 13) ∧ ending.bytes = nl :: ending.bytes.tail := by
  cases ending with
  | lf => exact ⟨10, .inl rfl, rfl⟩
  | crlf => exact ⟨13, .inr rfl, rfl⟩

/-- Whatever else belongs to the ending is a line that says nothing. -/
theorem scan_ending (ending : LineEnding) (more : Bytes) :
    Section.scan (ending.bytes.tail ++ more) = Section.scan more := by
  cases ending with
  | lf => rfl
  | crlf => exact sections_outside (by decide)

theorem endsLine_bytes (ending : LineEnding) : EndsLine ending.bytes ∧ EndsLine ending.bytes.tail := by
  cases ending <;> decide

theorem endsLine_bodyText (ending : LineEnding) (lines : List Bytes) :
    EndsLine (bodyText ending lines) := by
  have hne : ending.bytes ≠ [] := by cases ending <;> decide
  induction lines with
  | nil => exact nofun
  | cons line lines ih => exact ((endsLine_bytes ending).1.behind hne line).append ih

/-- A block is one section, and nothing of it is left open. -/
theorem scan_blockText (kind : SectionKind) (head : List Char)
    (hbody : Isolated 45 (Bytes.encodeChars head ++ bodyText ending lines))
    (hends : EndsLine (Bytes.encodeChars head ++ bodyText ending lines)) (more : Bytes) :
    Section.scan (blockText ending kind.label.toList head lines ++ more) =
      (OpenSection.close ⟨Bytes.encodeUtf8 kind.label,
        ending.bytes.tail ++ (Bytes.encodeChars head ++ bodyText ending lines)⟩).toList ++
          Section.scan more := by
  obtain ⟨nl, hnl, hbytes⟩ := ending.bytes_eq
  have htext : blockText ending kind.label.toList head lines ++ more =
      markLine beginMark kind nl ++
        ((ending.bytes.tail ++ (Bytes.encodeChars head ++ bodyText ending lines)) ++
        (markLine endMark kind nl ++ (ending.bytes.tail ++ more))) := by
    unfold blockText markLine Bytes.encodeUtf8
    dsimp only
    rw [hbytes]
    simp only [List.tail_cons, List.append_assoc, List.cons_append, List.nil_append]
  have hgap : 45 ∉ ending.bytes.tail := by cases ending <;> decide
  rw [htext, scan_framed kind hnl hnl ?_ ((endsLine_bytes ending).2.append hends), scan_ending]
  exact (isolated_of_not_mem hgap).append hbody (.inl (getLast?_ne_of_not_mem hgap))

theorem isBodyBlank_of_visible {b : UInt8} (h : 0x20 < b) : isBodyBlank b = false := by
  rw [Bool.eq_false_iff]
  intro hblank
  simp only [isBodyBlank, Bool.or_eq_true, Bool.and_eq_true, beq_iff_eq, decide_eq_true_eq] at hblank
  rcases hblank with rfl | ⟨-, hhigh⟩
  · exact absurd h (by decide)
  · exact absurd (UInt8.lt_of_lt_of_le h hhigh) (by decide)

/-- Lines of symbols are a body. -/
theorem decodeBody_bodyText (ending : LineEnding) (hlines : lines.flatten = Base64.encode contents) :
    decodeBody (ending.bytes.tail ++ bodyText ending lines) = .ok contents := by
  have hending : ending.bytes.filter (!isBodyBlank ·) = [] ∧
      ending.bytes.tail.filter (!isBodyBlank ·) = [] := by cases ending <;> decide
  apply decodeBody_of_symbols
  rw [List.filter_append, hending.2, List.nil_append, ← hlines]
  unfold bodyText
  rw [List.filter_flatMap, List.flatten_eq_flatMap]
  refine List.flatMap_congr fun line hline => ?_
  rw [List.filter_append, hending.1, List.append_nil]
  apply List.filter_eq_self.mpr
  intro b hb
  rw [isBodyBlank_of_visible (visible_of_mem_line hlines hline hb).1]
  rfl

/-- **A written block is scanned as a section** with the same contents. -/
theorem scan_encode (kind : SectionKind) (contents more : Bytes) :
    Section.scan (Block.encode ⟨kind.label.toList, [], contents⟩ ++ more) =
      .item kind contents :: Section.scan more := by
  obtain ⟨lines, hlines, -, heq⟩ := encode_eq_blockText kind.label.toList contents
  have hbody : Isolated 45 (bodyText .crlf lines) := isolated_of_not_mem (dash_not_mem_bodyText hlines)
  rw [heq, scan_blockText kind [] hbody (endsLine_bodyText .crlf lines), Bytes.encodeChars_nil,
    List.nil_append, close_of_ok (decodeBody_bodyText .crlf hlines)]
  rfl

/-- What is taken for the body of an encrypted block ends in the first dash of its headers. -/
theorem decodeBody_procTypeLine (ending : LineEnding) (more : Bytes) :
    decodeBody (ending.bytes.tail ++ (Bytes.encodeChars procTypeLine ++ more)) =
      .error (.invalidCharacter 45) := by
  cases ending <;> rfl

/-- **An encrypted block is scanned as a malformed section.** -/
theorem scan_encryptedText (kind : SectionKind) {cipher : Cipher} {hex : List Char} {iv : Bytes}
    (hhex : Bytes.ofHexChars? hex = some iv) (hlines : lines.flatten = Base64.encode contents)
    (more : Bytes) :
    Section.scan (encryptedText ending kind.label.toList cipher hex lines ++ more) =
      .malformed "InvalidCharacter(45)" :: Section.scan more := by
  have hdash : 45 ∉ bodyText ending lines := dash_not_mem_bodyText hlines
  have hbody : Isolated 45 (Bytes.encodeChars (headerLines ending cipher hex ++
      (ending.chars ++ ending.chars)) ++ bodyText ending lines) :=
    (isolated_head ending hhex).1.append (isolated_of_not_mem hdash) (.inl (isolated_head ending hhex).2)
  have hends : EndsLine (Bytes.encodeChars
      (headerLines ending cipher hex ++ (ending.chars ++ ending.chars)) ++ bodyText ending lines) := by
    refine EndsLine.append ?_ (endsLine_bodyText ending lines)
    rw [← List.append_assoc, Bytes.encodeChars_append, encodeChars_lineEnding]
    exact (endsLine_bytes ending).1.behind (by cases ending <;> decide) _
  unfold encryptedText
  rw [scan_blockText kind _ hbody hends]
  have hfault := decodeBody_procTypeLine ending
  rw [Bytes.encodeChars_append, encodeChars_headerLines]
  simp only [List.append_assoc]
  rw [close_of_error (hfault _)]
  rfl

end BrokerRelay.Pem
