import LinkSynthesis.Path.Resolve

/-!
# Texts of paths and their segments

How the segments of a path follow from the parts of its text: a slash between two texts puts their
segments one behind the other, and segments joined by slashes read back as themselves. Being under
a directory and going up from it are said in segments too.
-/

namespace LinkSynthesis.Path

/-! ### Reading texts -/

theorem parse_segments_append_slash (s t : String) :
    (parse (s ++ "/" ++ t)).segments = (parse s).segments ++ (parse t).segments := by
  have slash : (s ++ "/" ++ t).toList = s.toList ++ '/' :: t.toList := by simp
  simp only [parse, slash, List.splitOn_append_cons_self, List.filterMap_append]

theorem parse_segments_text (s : Segment) : (parse s.text).segments = [s] := by
  simp [parse, List.splitOn_eq_singleton s.isSegment.2.2]

theorem parse_segments_empty : (parse "").segments = [] := rfl

/-- Segments joined by slashes read back as themselves. -/
theorem parse_segments_intercalate (l : List Segment) :
    (parse ("/".intercalate (l.map Segment.text))).segments = l := by
  induction l with
  | nil => rfl
  | cons s l ih =>
    rcases l with _ | ⟨t, l⟩
    · exact parse_segments_text s
    · rw [List.map_cons, List.map_cons, String.intercalate_cons_cons, parse_segments_append_slash,
        parse_segments_text, ← List.map_cons, ih, List.singleton_append]

/-- Joined segments do not start with a slash. -/
theorem takeWhile_slash_intercalate (l : List Segment) :
    ("/".intercalate (l.map Segment.text)).toList.takeWhile (· == '/') = [] := by
  rcases l with _ | ⟨s, l⟩
  · rfl
  · obtain ⟨nonempty, -, slash⟩ := s.isSegment
    obtain ⟨c, cs, hs⟩ := List.exists_cons_of_ne_nil (mt String.toList_eq_nil_iff.1 nonempty)
    have front : ¬(c == '/') = true := by
      rw [beq_iff_eq]
      rintro rfl
      exact slash (hs ▸ .head _)
    obtain ⟨rest, text⟩ :
        ∃ rest, ("/".intercalate ((s :: l).map Segment.text)).toList = c :: rest := by
      rcases l with _ | ⟨t, l⟩
      · exact ⟨cs, by simp [hs]⟩
      · rw [List.map_cons, List.map_cons, String.intercalate_cons_cons]
        simp only [String.toList_append, hs, List.cons_append]
        exact ⟨_, rfl⟩
    rw [text]
    exact List.takeWhile_cons_of_neg front

/-- The slashes of an anchor in front of a text without any are read as that anchor. -/
theorem parse_anchorText_append (anchor : Anchor) {text : String}
    (h : text.toList.takeWhile (· == '/') = []) :
    parse (anchor.text ++ text) = ⟨anchor, (parse text).segments⟩ := by
  have segments : (parse (anchor.text ++ text)).segments = (parse text).segments := by
    have slash := parse_segments_append_slash "" text
    have slashes := parse_segments_append_slash "/" text
    rw [parse_segments_empty, List.nil_append] at slash
    rw [show (parse "/").segments = [] from rfl, List.nil_append] at slashes
    cases anchor with
    | relative => rw [Anchor.text, String.empty_append]
    | root => simpa [Anchor.text] using slash
    | doubleRoot => simpa [Anchor.text] using slashes
  have front : (parse (anchor.text ++ text)).anchor = anchor := by
    have slashes : (anchor.text ++ text).toList.takeWhile (· == '/') = anchor.text.toList := by
      cases anchor <;> simp [Anchor.text, h]
    simp only [parse, slashes]
    cases anchor <;> rfl
  calc parse (anchor.text ++ text)
      = ⟨(parse (anchor.text ++ text)).anchor, (parse (anchor.text ++ text)).segments⟩ := rfl
    _ = ⟨anchor, (parse text).segments⟩ := by rw [front, segments]

/-- A written path reads back as itself. -/
theorem parse_toString (p : Path) : parse p.toString = p := by
  unfold toString
  split
  · next h =>
    obtain ⟨anchor, segments⟩ := p
    obtain ⟨rfl, rfl⟩ := h
    decide
  · rw [parse_anchorText_append _ (takeWhile_slash_intercalate _), parse_segments_intercalate]

theorem parse_text (s : Segment) : parse s.text = ⟨.relative, [s]⟩ := by
  have written : Path.toString ⟨.relative, [s]⟩ = s.text := by simp [toString, Anchor.text]
  rw [← written, parse_toString]

theorem mem_of_mem_splitOn {α : Type} [BEq α] {a x : α} {l piece : List α}
    (hp : piece ∈ l.splitOn a) (hx : x ∈ piece) : x ∈ l := by
  induction l generalizing piece with
  | nil =>
    simp only [List.splitOn_nil, List.mem_singleton] at hp
    exact hp ▸ hx
  | cons y l ih =>
    rw [List.splitOn_cons_eq_if_modifyHead] at hp
    split at hp
    · rcases List.mem_cons.1 hp with rfl | hp
      · cases hx
      · exact .tail _ (ih hp hx)
    · -- The character joins the first piece of the rest.
      rcases h : l.splitOn a with _ | ⟨first, rest⟩
      · exact absurd h (List.splitOn_ne_nil a l)
      · rw [h, List.modifyHead_cons] at hp
        rcases List.mem_cons.1 hp with rfl | hp
        · rcases List.mem_cons.1 hx with rfl | hx
          · exact .head _
          · exact .tail _ (ih (h ▸ .head _) hx)
        · exact .tail _ (ih (h ▸ .tail _ hp) hx)

/-- A character of a segment stands in the text that it is read from. -/
theorem mem_toList_of_mem_segments {text : String} {s : Segment} (hs : s ∈ (parse text).segments)
    {c : Char} (hc : c ∈ s.text.toList) : c ∈ text.toList := by
  obtain ⟨piece, hp, hs⟩ := List.mem_filterMap.1 hs
  unfold Segment.ofString? at hs
  split at hs
  · cases hs
    exact mem_of_mem_splitOn hp (by simpa using hc)
  · cases hs

/-- A character that no segment holds and that is no slash is not in the joined text. -/
theorem notMem_intercalate {l : List Segment} {c : Char} (slash : c ≠ '/')
    (h : ∀ s ∈ l, c ∉ s.text.toList) : c ∉ ("/".intercalate (l.map Segment.text)).toList := by
  induction l with
  | nil => simp
  | cons s l ih =>
    have rest := ih fun t ht => h t (.tail _ ht)
    rcases l with _ | ⟨t, l⟩
    · simpa using h s (.head _)
    · rw [List.map_cons, List.map_cons, String.intercalate_cons_cons, ← List.map_cons]
      simp only [String.toList_append, List.mem_append, not_or]
      exact ⟨⟨h s (.head _), by simpa using slash⟩, rest⟩

/-- A text with slashes is cut at the last one. -/
theorem exists_eq_append_slash {text : String} (slash : '/' ∈ text.toList) :
    ∃ dir name : String, text = dir ++ "/" ++ name ∧ '/' ∉ name.toList := by
  obtain ⟨name, dir, reversed, last⟩ := List.eq_append_cons_of_mem (List.mem_reverse.2 slash)
  refine ⟨.ofList dir.reverse, .ofList name.reverse, ?_, by simpa using last⟩
  rw [← String.toList_inj, ← List.reverse_inj, reversed]
  simp

/-! ### Spellings -/

/-- The names between the slashes of a text: its pieces but for empty ones and `.`. -/
def names (text : String) : List (List Char) :=
  (text.toList.splitOn '/').filter fun piece => piece ≠ [] ∧ piece ≠ ['.']

/-- Two texts differ at most by `.` and by repeated slashes inside: they begin with the same
slashes and have the same names. -/
structure Respells (s t : String) : Prop where
  slashes : s.toList.takeWhile (· == '/') = t.toList.takeWhile (· == '/')
  names : names s = names t

/-- Only names are read as segments. -/
theorem parse_segments_eq_names (text : String) : (parse text).segments =
    (names text).filterMap fun piece => Segment.ofString? (.ofList piece) := by
  rw [names, List.filterMap_filter, parse]
  refine congrArg (List.filterMap · _) (funext fun piece => ?_)
  by_cases empty : piece = []
  · subst empty
    rfl
  · by_cases dot : piece = ['.']
    · subst dot
      rfl
    · simp [empty, dot]

/-- Texts that spell a path differently read as the same path. -/
theorem Respells.parse_eq {s t : String} (h : Respells s t) : parse s = parse t := by
  have anchor : (parse s).anchor = (parse t).anchor := by
    simp only [parse, h.slashes]
  have segments : (parse s).segments = (parse t).segments := by
    rw [parse_segments_eq_names, parse_segments_eq_names, h.names]
  calc parse s = ⟨(parse s).anchor, (parse s).segments⟩ := rfl
    _ = parse t := by rw [anchor, segments]

/-! ### Places under a directory -/

theorem Anchor.text_injective {p q : Anchor} (h : p.text = q.text) : p = q := by
  cases p <;> cases q <;> first | rfl | exact absurd h (by decide)

theorem parts_drop {p q : Path} (h : p.isAbsolute = q.isAbsolute) :
    p.parts.drop q.parts.length = (p.segments.drop q.segments.length).map Segment.text := by
  obtain ⟨anchor, segments⟩ := p
  obtain ⟨anchor', segments'⟩ := q
  cases anchor <;> cases anchor' <;> simp [isAbsolute] at h <;> simp [parts]

/-- Of two paths that are both absolute or both relative, one is under the other if it has the same
anchor and begins with its segments. -/
theorem isUnder_iff_segments {p q : Path} (h : p.isAbsolute = q.isAbsolute) :
    p.isUnder q = true ↔ p.anchor = q.anchor ∧ q.segments <+: p.segments := by
  have texts : q.segments.map Segment.text <+: p.segments.map Segment.text ↔
      q.segments <+: p.segments :=
    List.prefix_map_iff_of_injective fun _ _ => Segment.text_injective
  obtain ⟨anchor, segments⟩ := p
  obtain ⟨anchor', segments'⟩ := q
  rw [isUnder_iff]
  cases anchor <;> cases anchor' <;> simp [isAbsolute] at h <;>
    simp [parts, List.cons_prefix_cons, Anchor.text, texts]

/-- No segment reads as the start of an absolute path. -/
theorem Segment.text_ne_anchorText (s : Segment) {anchor : Anchor} (h : anchor ≠ .relative) :
    s.text ≠ anchor.text := by
  intro he
  have slash : '/' ∈ anchor.text.toList := by cases anchor <;> first | exact absurd rfl h | decide
  exact s.isSegment.2.2 (he ▸ slash)

theorem parts_of_relative {p : Path} (h : p.anchor = .relative) :
    p.parts = p.segments.map Segment.text := by
  simp [parts, h]

theorem parts_of_absolute {p : Path} (h : p.anchor ≠ .relative) :
    p.parts = p.anchor.text :: p.segments.map Segment.text := by
  unfold parts
  split
  · next he => exact absurd he h
  · rfl

/-- A path under another that has parts starts where the other does. -/
theorem anchor_eq_of_isUnder {p q : Path} (h : p.isUnder q = true) (hq : q.parts ≠ []) :
    p.anchor = q.anchor := by
  obtain ⟨part, rest, hq⟩ := List.exists_cons_of_ne_nil hq
  obtain ⟨behind, hp⟩ := isUnder_iff.1 h
  rw [hq, List.cons_append] at hp
  -- The first part tells a segment from a start, and one start from the other.
  by_cases hpr : p.anchor = .relative <;> by_cases hqr : q.anchor = .relative
  · rw [hpr, hqr]
  · rw [parts_of_relative hpr, eq_comm, List.map_eq_cons_iff] at hp
    rw [parts_of_absolute hqr, List.cons.injEq] at hq
    obtain ⟨s, -, -, hs, -⟩ := hp
    exact absurd (hs.trans hq.1.symm) (s.text_ne_anchorText hqr)
  · rw [parts_of_absolute hpr, List.cons.injEq] at hp
    rw [parts_of_relative hqr, List.map_eq_cons_iff] at hq
    obtain ⟨s, -, -, hs, -⟩ := hq
    exact absurd (hs.trans hp.1) (s.text_ne_anchorText hpr)
  · rw [parts_of_absolute hpr, List.cons.injEq] at hp
    rw [parts_of_absolute hqr, List.cons.injEq] at hq
    exact Anchor.text_injective (hp.1.symm.trans hq.1.symm)

theorem isAbsolute_eq_of_anchor_eq {p q : Path} (h : p.anchor = q.anchor) :
    p.isAbsolute = q.isAbsolute := by
  rw [isAbsolute, isAbsolute, h]

theorem stepsToCommon?_of_isUnder {p q : Path} (h : q.isUnder p = true) :
    p.stepsToCommon? q = some 0 := by
  simp [stepsToCommon?, List.range_succ_eq_map, h]

/-- The path that lies as a list of segments below another. -/
def descend (p : Path) (place : List Segment) : Path := { p with segments := p.segments ++ place }

@[simp] theorem descend_nil (p : Path) : p.descend [] = p := by simp [descend]

theorem descend_append (p : Path) (place rest : List Segment) :
    p.descend (place ++ rest) = (p.descend place).descend rest := by
  simp [descend]

@[simp] theorem parent_descend_singleton (p : Path) (s : Segment) : (p.descend [s]).parent = p := by
  simp [descend, parent]

@[simp] theorem name_descend_singleton (p : Path) (s : Segment) : (p.descend [s]).name = s.text := by
  simp [descend, name]

theorem descend_singleton_inj {p q : Path} {s t : Segment} :
    p.descend [s] = q.descend [t] ↔ p = q ∧ s = t := by
  obtain ⟨anchor, segments⟩ := p
  obtain ⟨anchor', segments'⟩ := q
  simp only [descend, mk.injEq, List.append_singleton_inj, and_assoc]

/-- A file is seen from its directory by its name. -/
theorem join_parse_text (p : Path) (s : Segment) : p.join (parse s.text) = p.descend [s] := by
  rw [parse_text]
  rfl

/-- A path under another lies below it as its further segments. -/
theorem descend_drop {p q : Path} (ha : q.anchor = p.anchor) (h : p.segments <+: q.segments) :
    p.descend (q.segments.drop p.segments.length) = q := by
  obtain ⟨rest, hr⟩ := h
  cases q
  cases ha
  simp only [descend] at hr ⊢
  rw [← hr, List.drop_left]

/-- Strictly below a directory: more segments behind the same ones. -/
def IsBelow (p base : Path) : Prop :=
  p.anchor = base.anchor ∧ base.segments <+: p.segments ∧ p.segments ≠ base.segments

/-- A path strictly below a directory has a last segment, behind the way down to its parent. -/
theorem IsBelow.exists_descend {p base : Path} (h : p.IsBelow base) :
    ∃ sub last, p = base.descend (sub ++ [last]) := by
  obtain ⟨anchor, ⟨rest, segments⟩, apart⟩ := h
  have nonempty : rest ≠ [] := by
    rintro rfl
    exact apart (by simpa using segments.symm)
  obtain ⟨sub, last, rfl⟩ := List.eq_nil_or_concat rest |>.resolve_left nonempty
  refine ⟨sub, last, ?_⟩
  cases p
  cases anchor
  cases segments
  simp [descend]

/-! ### Paths seen from a directory -/

/-- Only the relative path without segments has no parts. -/
theorem parts_eq_nil_iff {p : Path} : p.parts = [] ↔ p.anchor = .relative ∧ p.segments = [] := by
  obtain ⟨anchor, segments⟩ := p
  cases anchor <;> simp [parts]

theorem join_of_relative {p q : Path} (h : q.isAbsolute = false) :
    p.join q = p.descend q.segments := by
  rw [join, if_neg (by simp [h])]
  rfl

/-- From the path without segments every path is itself. -/
theorem empty_join (p : Path) : (Path.mk .relative []).join p = p := by
  obtain ⟨anchor, segments⟩ := p
  cases anchor <;> rfl

/-- The path below a directory is the relative one that leads there from the directory. -/
theorem relativeTo?_eq_some_iff {p base q : Path} :
    p.relativeTo? base = some q ↔ base.join q = p ∧ q.isAbsolute = false := by
  unfold relativeTo?
  split
  · next h =>
    rw [Option.some.injEq]
    constructor
    · rintro rfl
      exact ⟨(join_of_relative rfl).trans (descend_drop h.1 h.2), rfl⟩
    · rintro ⟨rfl, relative⟩
      obtain ⟨anchor, segments⟩ := q
      have own : anchor = .relative := by simpa [isAbsolute] using relative
      subst own
      simp [join_of_relative relative, descend]
  · next h =>
    refine ⟨nofun, ?_⟩
    rintro ⟨rfl, relative⟩
    rw [join_of_relative relative] at h
    exact absurd ⟨rfl, List.prefix_append _ _⟩ h

/-- Under a directory without parts lies every path, but no relative path leads from there to an
absolute one. From any other directory one leads to each path under it. -/
theorem relativeTo?_eq_none_iff {p base : Path} (under : p.isUnder base = true) :
    p.relativeTo? base = none ↔ base.parts = [] ∧ p.isAbsolute = true := by
  rw [relativeTo?, ite_eq_right_iff]
  constructor
  · intro apart
    by_cases empty : base.parts = []
    · obtain ⟨anchor, segments⟩ := parts_eq_nil_iff.1 empty
      refine ⟨empty, ?_⟩
      rw [isAbsolute, decide_eq_true_eq]
      intro relative
      cases apart ⟨relative.trans anchor.symm, segments ▸ List.nil_prefix⟩
    · have anchor := anchor_eq_of_isUnder under empty
      cases apart ((isUnder_iff_segments (isAbsolute_eq_of_anchor_eq anchor)).1 under)
  · rintro ⟨empty, absolute⟩ ⟨anchor, -⟩
    rw [isAbsolute, anchor, (parts_eq_nil_iff.1 empty).1] at absolute
    simp at absolute

/-! ### Going up and down -/

/-- As many steps up as there were steps down lead back, and from there further steps down are
taken as they are. -/
theorem resolve_up_down {anchor : Anchor} {base sub place : List Segment}
    (hb : .up ∉ base) (hs : .up ∉ sub) (hp : .up ∉ place) :
    resolve ⟨anchor, base ++ sub ++ (List.replicate sub.length .up ++ place)⟩ =
      ⟨anchor, base ++ place⟩ := by
  -- The stack of `resolve` holds the innermost segment first.
  have down : (base ++ sub).foldl (enter anchor) [] = sub.reverse ++ base.reverse := by
    rw [foldl_enter_of_up_notMem (by simp [hb, hs])]
    simp
  have back : (List.replicate sub.length .up).foldl (enter anchor) (sub.reverse ++ base.reverse) =
      base.reverse := by
    rw [← List.length_reverse, foldl_enter_replicate_up (by simpa using hs)]
  rw [resolve, List.foldl_append, List.foldl_append, down, back, foldl_enter_of_up_notMem hp]
  simp

/-! ### A text in front of a path -/

theorem parse_anchor_ne_relative_iff {text : String} :
    (parse text).anchor ≠ .relative ↔ text.toList.head? = some '/' := by
  rw [parse]
  rcases text.toList with _ | ⟨c, rest⟩
  · simp [Anchor.ofSlashes]
  · by_cases slash : c = '/'
    · rw [List.takeWhile_cons_of_pos (by simpa using slash), List.length_cons]
      -- One slash or three and more are the root, two are the double root.
      rcases (rest.takeWhile (· == '/')).length with _ | _ | n <;> simp [Anchor.ofSlashes, slash]
    · simp [slash, Anchor.ofSlashes]

/-- A text in front of a path is glued to the first piece of it and to no other. The piece is empty
if the path starts with a slash. -/
theorem exists_first_piece {text : String} (nonempty : text ≠ "") :
    ∃ (first : String) (rest : List Segment), '/' ∉ first.toList ∧
      (first = "" ↔ (parse text).anchor ≠ .relative) ∧
      ∀ lead, (parse (lead ++ text)).segments = (parse (lead ++ first)).segments ++ rest := by
  rw [parse_anchor_ne_relative_iff]
  by_cases slash : '/' ∈ text.toList
  · obtain ⟨first, behind, shape, plain⟩ := List.eq_append_cons_of_mem slash
    have cut : text = .ofList first ++ "/" ++ .ofList behind := by
      rw [← String.toList_inj, shape]
      simp
    refine ⟨.ofList first, (parse (.ofList behind)).segments, by simpa using plain, ?_,
      fun lead => ?_⟩
    · rw [shape]
      rcases first with _ | ⟨c, first⟩
      · simp
      · have other : c ≠ '/' := fun same => plain (same ▸ .head _)
        simp [other, ← String.toList_eq_nil_iff]
    · rw [cut, ← String.append_assoc, ← String.append_assoc, parse_segments_append_slash]
  · refine ⟨text, [], slash, ?_, fun lead => by rw [List.append_nil]⟩
    refine iff_of_false nonempty fun head => slash ?_
    exact List.mem_of_mem_head? head

/-- Two texts without slashes make one segment if neither is empty. -/
theorem exists_segment_of_glued {glued piece : String} (hg : glued ≠ "") (hp : piece ≠ "")
    (slash : '/' ∉ (glued ++ piece).toList) :
    ∃ s : Segment, s.text = glued ++ piece ∧ (parse (glued ++ piece)).segments = [s] := by
  have long : 2 ≤ (glued ++ piece).length := by
    have := mt String.length_eq_zero_iff.1 hg
    have := mt String.length_eq_zero_iff.1 hp
    rw [String.length_append]
    omega
  have isSegment : glued ++ piece ≠ "" ∧ glued ++ piece ≠ "." ∧ '/' ∉ (glued ++ piece).toList := by
    refine ⟨fun short => ?_, fun short => ?_, slash⟩
    · exact absurd (short ▸ long) (by decide)
    · exact absurd (short ▸ long) (by decide)
  exact ⟨⟨_, isSegment⟩, rfl, parse_segments_text ⟨_, isSegment⟩⟩

/-- Behind one and the same text, different paths of one anchor stay different. -/
theorem parse_eq_of_append_eq {lead s t : String} (hs : s ≠ "") (ht : t ≠ "")
    (anchor : (parse s).anchor = (parse t).anchor)
    (same : parse (lead ++ s) = parse (lead ++ t)) : parse s = parse t := by
  suffices segments : (parse s).segments = (parse t).segments by
    calc parse s = ⟨(parse s).anchor, (parse s).segments⟩ := rfl
      _ = parse t := by rw [anchor, segments]
  -- What stands before the last slash of the text is read on its own.
  obtain ⟨glued, plain, same⟩ : ∃ glued : String, '/' ∉ glued.toList ∧
      (parse (glued ++ s)).segments = (parse (glued ++ t)).segments := by
    by_cases slash : '/' ∈ lead.toList
    · obtain ⟨dir, glued, rfl, plain⟩ := exists_eq_append_slash slash
      have behind (path : String) : (parse (dir ++ "/" ++ glued ++ path)).segments =
          (parse dir).segments ++ (parse (glued ++ path)).segments := by
        rw [String.append_assoc, parse_segments_append_slash]
      have same := congrArg Path.segments same
      rw [behind, behind] at same
      exact ⟨glued, plain, List.append_cancel_left same⟩
    · exact ⟨lead, slash, congrArg Path.segments same⟩
  obtain ⟨first, rest, hfirst, empty, cut⟩ := exists_first_piece hs
  obtain ⟨first', rest', hfirst', empty', cut'⟩ := exists_first_piece ht
  rw [cut, cut'] at same
  have cut := cut ""
  have cut' := cut' ""
  rw [String.empty_append, String.empty_append] at cut cut'
  by_cases absolute : (parse s).anchor ≠ .relative
  · obtain rfl := empty.2 absolute
    obtain rfl := empty'.2 (anchor ▸ absolute)
    rw [cut, cut', List.append_cancel_left same]
  · by_cases alone : glued = ""
    · subst alone
      rw [String.empty_append, String.empty_append] at same
      rw [cut, cut', same]
    · have segment {piece : String} (nonempty : piece ≠ "") (slash : '/' ∉ piece.toList) :=
        exists_segment_of_glued alone nonempty (by simp [plain, slash])
      obtain ⟨piece, text, read⟩ := segment (mt empty.1 absolute) hfirst
      obtain ⟨piece', text', read'⟩ := segment (mt empty'.1 (anchor ▸ absolute)) hfirst'
      rw [read, read'] at same
      obtain ⟨pieces, rests⟩ := List.cons.inj same
      have firsts : first = first' := by
        have glueds : glued ++ first = glued ++ first' := by rw [← text, ← text', pieces]
        exact (String.append_right_inj glued).1 glueds
      rw [cut, cut', firsts, show rest = rest' from rests]

end LinkSynthesis.Path
