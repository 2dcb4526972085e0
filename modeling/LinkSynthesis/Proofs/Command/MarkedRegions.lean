import LinkSynthesis.Proofs.Command.WholeArchive

/-!
# Marked regions

How the whole-archive markers stand among the input options. Taken out again, they leave the same
options whether everything is linked whole or not (`strip_appendInputOptions`). Read strictly, so
that a region may neither be nested nor left open, they form regions: one for the whole link, or one
for each always-link library (`pieces?_of_appendInputOptions`).
-/

namespace LinkSynthesis

namespace WholeArchiveMarkers

variable {markers : WholeArchiveMarkers} {token : String} {tokens rest : List String}

/-! ### Options without their markers -/

/-- The argument opens or closes a region. -/
def isMarker (markers : WholeArchiveMarkers) (token : String) : Bool :=
  token = markers.opening || token = markers.closing

/-- The arguments that are no markers. -/
def strip (markers : WholeArchiveMarkers) (tokens : List String) : List String :=
  tokens.filter (!markers.isMarker ·)

@[simp] theorem isMarker_opening : markers.isMarker markers.opening = true := by
  simp [isMarker]

@[simp] theorem isMarker_closing : markers.isMarker markers.closing = true := by
  simp [isMarker]

@[simp] theorem strip_append (tokens rest : List String) :
    markers.strip (tokens ++ rest) = markers.strip tokens ++ markers.strip rest := by
  simp [strip]

@[simp] theorem strip_opening_cons (tokens : List String) :
    markers.strip (markers.opening :: tokens) = markers.strip tokens := by
  simp [strip]

@[simp] theorem strip_closing_cons (tokens : List String) :
    markers.strip (markers.closing :: tokens) = markers.strip tokens := by
  simp [strip]

/-- The markers around an always-link library are all that wrapping adds. -/
theorem strip_wrapAlwaysLink (token : String) :
    markers.strip (Action.wrapAlwaysLink markers token) = markers.strip [token] := by
  unfold Action.wrapAlwaysLink
  split
  · rw [strip_opening_cons, ← List.singleton_append, strip_append, strip_closing_cons]
    simp [strip]
  · rfl

theorem strip_flatMap_wrapAlwaysLink (tokens : List String) :
    markers.strip (tokens.flatMap (Action.wrapAlwaysLink markers)) = markers.strip tokens := by
  induction tokens with
  | nil => rfl
  | cons token tokens ih =>
    rw [List.flatMap_cons, strip_append, strip_wrapAlwaysLink, ih, ← strip_append]
    rfl

/-! ### Pieces -/

/-- A piece of a command line: an argument on its own, or what stands between two markers. -/
inductive Piece where
  | single (token : String)
  | region (tokens : List String)
deriving DecidableEq

namespace Piece

/-- The arguments of the piece, markers left out. -/
def arguments : Piece → List String
  | single token => [token]
  | region tokens => tokens

/-- The piece as it is written. -/
def words (markers : WholeArchiveMarkers) : Piece → List String
  | single token => [token]
  | region tokens => markers.opening :: (tokens ++ [markers.closing])

theorem words_single : (single token).words markers = [token] := rfl

theorem words_region :
    (region rest).words markers = markers.opening :: (rest ++ [markers.closing]) := rfl

end Piece

variable {inside : Option (List String)} {pieces : List Piece}

/-- No piece holds a marker. -/
def AreUnmarked (markers : WholeArchiveMarkers) (pieces : List Piece) : Prop :=
  ∀ piece ∈ pieces, ∀ token ∈ piece.arguments, markers.IsUnmarked token

theorem areUnmarked_cons {piece : Piece} : markers.AreUnmarked (piece :: pieces) ↔
    (∀ token ∈ piece.arguments, markers.IsUnmarked token) ∧ markers.AreUnmarked pieces :=
  List.forall_mem_cons

/-- Reads arguments as pieces, from outside all regions or behind what a region holds so far. There
are no pieces if a region begins in another one, ends before it has begun, or does not end. -/
def pieces? (markers : WholeArchiveMarkers) :
    (inside : Option (List String)) → List String → Option (List Piece)
  | none, [] => some []
  | some _, [] => none
  | none, token :: rest =>
    if token = markers.opening then markers.pieces? (some []) rest
    else if token = markers.closing then none
    else (markers.pieces? none rest).map (.single token :: ·)
  | some held, token :: rest =>
    if token = markers.closing then (markers.pieces? none rest).map (.region held :: ·)
    else if token = markers.opening then none
    else markers.pieces? (some (held ++ [token])) rest

/-- A region is read to its end. -/
theorem pieces?_region (h : ∀ token ∈ tokens, markers.IsUnmarked token) (held : List String) :
    markers.pieces? (some held) (tokens ++ markers.closing :: rest) =
      (markers.pieces? none rest).map (.region (held ++ tokens) :: ·) := by
  induction tokens generalizing held with
  | nil => rw [List.nil_append, pieces?, if_pos rfl, List.append_nil]
  | cons token tokens ih =>
    obtain ⟨⟨opening, closing⟩, unmarked⟩ := List.forall_mem_cons.1 h
    rw [List.cons_append, pieces?, if_neg closing, if_neg opening, ih unmarked, List.append_assoc,
      List.singleton_append]

/-- Pieces without markers in them are read as they were written. -/
theorem pieces?_flatMap_words (h : markers.AreUnmarked pieces) :
    markers.pieces? none (pieces.flatMap (·.words markers)) = some pieces := by
  induction pieces with
  | nil => rfl
  | cons piece pieces ih =>
    obtain ⟨unmarked, others⟩ := areUnmarked_cons.1 h
    rw [List.flatMap_cons]
    cases piece with
    | single token =>
      obtain ⟨opening, closing⟩ := unmarked token (.head _)
      rw [Piece.words_single, List.singleton_append, pieces?, if_neg opening, if_neg closing,
        ih others]
      rfl
    | region tokens =>
      have inside : ∀ token ∈ tokens, markers.IsUnmarked token := unmarked
      rw [Piece.words_region, List.cons_append, pieces?, if_pos rfl, List.append_assoc,
        List.singleton_append, pieces?_region inside, ih others]
      rfl

/-- What reads as pieces is what is written for them. Behind the beginning of a region, its marker
and what it holds so far count in. -/
theorem flatMap_words_of_pieces? (h : markers.pieces? inside tokens = some pieces)
    (unmarked : ∀ held, inside = some held → ∀ token ∈ held, markers.IsUnmarked token) :
    pieces.flatMap (·.words markers) =
        (inside.map (markers.opening :: ·)).getD [] ++ tokens ∧
      markers.AreUnmarked pieces := by
  fun_induction pieces? markers inside tokens generalizing pieces with
  | case1 =>
    cases h
    exact ⟨rfl, by simp [AreUnmarked]⟩
  | case2 => cases h
  | case3 rest ih =>
    obtain ⟨written, others⟩ := ih h (by simp)
    exact ⟨by simpa using written, others⟩
  | case4 => cases h
  | case5 token rest opening closing ih =>
    obtain ⟨pieces, hp, rfl⟩ := Option.map_eq_some_iff.1 h
    obtain ⟨written, others⟩ := ih hp (by simp)
    refine ⟨by simpa [Piece.words_single] using written, areUnmarked_cons.2 ⟨?_, others⟩⟩
    exact List.forall_mem_singleton.2 ⟨opening, closing⟩
  | case6 held rest ih =>
    obtain ⟨pieces, hp, rfl⟩ := Option.map_eq_some_iff.1 h
    obtain ⟨written, others⟩ := ih hp (by simp)
    refine ⟨by simpa [Piece.words_region] using written, areUnmarked_cons.2 ⟨?_, others⟩⟩
    exact unmarked held rfl
  | case7 => cases h
  | case8 held token rest closing opening ih =>
    have more : ∀ t ∈ held ++ [token], markers.IsUnmarked t :=
      List.forall_mem_append.2
        ⟨unmarked held rfl, List.forall_mem_singleton.2 ⟨opening, closing⟩⟩
    obtain ⟨written, others⟩ := ih h fun _ own => Option.some.inj own ▸ more
    exact ⟨by simpa using written, others⟩

/-- Arguments read as some pieces just if they are what is written for them. -/
theorem pieces?_eq_some_iff : markers.pieces? none tokens = some pieces ↔
    tokens = pieces.flatMap (·.words markers) ∧ markers.AreUnmarked pieces := by
  constructor
  · intro h
    obtain ⟨written, unmarked⟩ := flatMap_words_of_pieces? h (by simp)
    exact ⟨written.symm, unmarked⟩
  · rintro ⟨rfl, unmarked⟩
    exact pieces?_flatMap_words unmarked

end WholeArchiveMarkers

namespace Action

open WholeArchiveMarkers (Piece)

variable {a : Action} {plan : RpathPlan} {linked runtime : List Contribution}
  {arguments result : List String} {whole includeLinkopts : Bool}

/-! ### Two ways to link, but for the markers -/

/-- Apart from markers, the tokens of the inputs stand one behind the other. -/
theorem strip_markedTokens (a : Action) (linked runtime : List Contribution) (whole : Bool) :
    a.wholeArchiveMarkers.strip (a.markedTokens linked runtime whole) =
      a.wholeArchiveMarkers.strip ((linked ++ runtime).flatMap (·.tokens)) := by
  rw [List.flatMap_append]
  unfold markedTokens
  dsimp only
  split
  · simp
  · split
    · rfl
    · rw [WholeArchiveMarkers.strip_flatMap_wrapAlwaysLink]

/-- Apart from markers, the arrangement does not depend on whether everything is linked whole. -/
theorem strip_arrange (plan : RpathPlan) (linked runtime : List Contribution)
    (whole includeLinkopts : Bool) :
    a.wholeArchiveMarkers.strip (a.arrange plan linked runtime whole includeLinkopts) =
      a.wholeArchiveMarkers.strip (a.frontOptions plan linked runtime false ++
        ((linked ++ runtime).flatMap (·.searchOptions)).eraseDups ++
        (linked ++ runtime).flatMap (·.tokens) ++ if includeLinkopts then a.linkopts else []) := by
  have parts : a.arrange plan linked runtime whole includeLinkopts =
      a.frontOptions plan linked runtime whole ++
        ((linked ++ runtime).flatMap (·.searchOptions)).eraseDups ++
        a.markedTokens linked runtime whole ++ if includeLinkopts then a.linkopts else [] := rfl
  rw [parts, frontOptions_eq plan whole]
  simp only [WholeArchiveMarkers.strip_append, strip_markedTokens]
  cases whole with
  | true => simp [WholeArchiveMarkers.strip]
  | false => rfl

/-- **Linking everything whole only inserts markers.** With and without, the input options fail with
the same error or are the same apart from markers. -/
theorem strip_appendInputOptions (a : Action) (arguments : List String) (includeLinkopts : Bool) :
    (a.appendInputOptions arguments true includeLinkopts).map a.wholeArchiveMarkers.strip =
      (a.appendInputOptions arguments false includeLinkopts).map a.wholeArchiveMarkers.strip := by
  unfold appendInputOptions inputOptions
  cases a.rpathPlan with
  | error e => rfl
  | ok plan =>
    cases hl : a.linkerInputs.mapM (a.linkerContribution plan) with
    | error e => simp [hl, Except.map]
    | ok linked =>
      cases hr : a.runtimeInputs.mapM (a.runtimeContribution plan) with
      | error e => simp [hl, hr, Except.map]
      | ok runtime => simp [hl, hr, Except.map, strip_arrange]

/-! ### Regions among the input options -/

/-- A token of an input: in a region of its own if it names an always-link library of a link. -/
def inputPiece (a : Action) (token : String) : Piece :=
  if a.target.isStaticLibrary = false ∧ FileType.isAlwaysLinkLibrary token = true then
    .region [token]
  else .single token

/-- The pieces that the arrangement writes. -/
def arrangedPieces (a : Action) (plan : RpathPlan) (linked runtime : List Contribution)
    (whole includeLinkopts : Bool) : List Piece :=
  let search := a.frontOptions plan linked runtime false ++ a.libraryOptions plan
  let linkopts := if includeLinkopts then a.linkopts else []
  if whole then
    .region (search ++ linked.flatMap (·.tokens)) ::
      (runtime.flatMap (·.tokens) ++ linkopts).map .single
  else
    search.map .single ++ ((linked ++ runtime).flatMap (·.tokens)).map a.inputPiece ++
      linkopts.map .single

theorem arguments_inputPiece (a : Action) (token : String) :
    (a.inputPiece token).arguments = [token] := by
  unfold inputPiece
  split <;> rfl

theorem flatMap_words_single (markers : WholeArchiveMarkers) (tokens : List String) :
    (tokens.map Piece.single).flatMap (·.words markers) = tokens := by
  simp [List.flatMap_map, Piece.words_single]

theorem words_inputPiece (token : String) :
    (a.inputPiece token).words a.wholeArchiveMarkers =
      if a.target.isStaticLibrary then [token]
      else wrapAlwaysLink a.wholeArchiveMarkers token := by
  unfold inputPiece wrapAlwaysLink
  cases a.target.isStaticLibrary <;> cases FileType.isAlwaysLinkLibrary token <;> rfl

theorem flatMap_words_inputPiece (tokens : List String) :
    (tokens.map a.inputPiece).flatMap (·.words a.wholeArchiveMarkers) =
      if a.target.isStaticLibrary then tokens
      else tokens.flatMap (wrapAlwaysLink a.wholeArchiveMarkers) := by
  simp only [List.flatMap_map, words_inputPiece]
  split
  · exact List.flatMap_singleton' tokens
  · rfl

/-- The regions that a link writes are those of tokens that name always-link libraries. -/
theorem region_mem_arrangedPieces_iff {tokens : List String} :
    .region tokens ∈ a.arrangedPieces plan linked runtime false includeLinkopts ↔
      a.target.isStaticLibrary = false ∧ ∃ token ∈ (linked ++ runtime).flatMap (·.tokens),
        FileType.isAlwaysLinkLibrary token = true ∧ tokens = [token] := by
  have single {l : List String} : .region tokens ∉ l.map Piece.single := by simp
  have own (token : String) : a.inputPiece token = .region tokens ↔
      a.target.isStaticLibrary = false ∧
        FileType.isAlwaysLinkLibrary token = true ∧ tokens = [token] := by
    unfold inputPiece
    split
    · next wrapped => simp only [Piece.region.injEq, wrapped, true_and, eq_comm]
    · next bare =>
      refine ⟨fun same => Piece.noConfusion same, fun h => ?_⟩
      exact absurd ⟨h.1, h.2.1⟩ bare
  unfold arrangedPieces
  dsimp only
  rw [if_neg (by decide), List.mem_append, List.mem_append, or_iff_left single,
    or_iff_right single, List.mem_map]
  constructor
  · rintro ⟨token, ht, same⟩
    obtain ⟨link, wrapped⟩ := (own token).1 same
    exact ⟨link, token, ht, wrapped⟩
  · rintro ⟨link, token, ht, wrapped⟩
    exact ⟨token, ht, (own token).2 ⟨link, wrapped⟩⟩

namespace Contributes

variable (h : a.Contributes plan linked runtime)

include h

theorem arrange_eq_flatMap_words (whole includeLinkopts : Bool) :
    a.arrange plan linked runtime whole includeLinkopts =
      (a.arrangedPieces plan linked runtime whole includeLinkopts).flatMap
        (·.words a.wholeArchiveMarkers) := by
  rw [h.arrange_eq, frontOptions_eq plan whole]
  unfold arrangedPieces markedTokens
  cases whole with
  | true =>
    simp only [↓reduceIte, List.flatMap_cons, flatMap_words_single, Piece.words_region,
      List.cons_append, List.append_assoc, List.nil_append]
  | false =>
    simp only [Bool.false_eq_true, ↓reduceIte, List.nil_append, List.flatMap_append,
      flatMap_words_single, flatMap_words_inputPiece, List.append_assoc]

theorem areUnmarked_arrangedPieces (hp : a.rpathPlan = .ok plan)
    (named : ∀ file ∈ a.inputFiles, a.wholeArchiveMarkers.IsUnmarked file.execPath)
    (options : ∀ option ∈ a.linkopts, a.wholeArchiveMarkers.IsUnmarked option)
    (whole includeLinkopts : Bool) :
    a.wholeArchiveMarkers.AreUnmarked
      (a.arrangedPieces plan linked runtime whole includeLinkopts) := by
  have search {token : String}
      (ht : token ∈ a.frontOptions plan linked runtime false ++ a.libraryOptions plan) :
      a.wholeArchiveMarkers.IsUnmarked token := isUnmarked_of_mem_options hp ht
  have input {token : String} (ht : token ∈ (linked ++ runtime).flatMap (·.tokens)) :
      a.wholeArchiveMarkers.IsUnmarked token := by
    obtain ⟨c, hc, ht⟩ := List.mem_flatMap.1 ht
    exact h.isUnmarked_of_mem_tokens named hc ht
  have linkopt {token : String} (ht : token ∈ if includeLinkopts then a.linkopts else []) :
      a.wholeArchiveMarkers.IsUnmarked token := by
    split at ht
    · exact options token ht
    · cases ht
  have single {l : List String} (hl : ∀ token ∈ l, a.wholeArchiveMarkers.IsUnmarked token) :
      a.wholeArchiveMarkers.AreUnmarked (l.map .single) := by
    intro piece hp
    obtain ⟨token, ht, rfl⟩ := List.mem_map.1 hp
    exact List.forall_mem_singleton.2 (hl token ht)
  rw [List.flatMap_append] at input
  unfold arrangedPieces
  dsimp only
  split
  · refine WholeArchiveMarkers.areUnmarked_cons.2 ⟨fun token ht => ?_, single fun token ht => ?_⟩
    · rcases List.mem_append.1 ht with own | linked
      · exact search own
      · exact input (List.mem_append_left _ linked)
    · rcases List.mem_append.1 ht with runtime | own
      · exact input (List.mem_append_right _ runtime)
      · exact linkopt own
  · refine List.forall_mem_append.2 ⟨List.forall_mem_append.2 ⟨single fun _ => search, ?_⟩,
      single fun _ => linkopt⟩
    intro piece hp
    obtain ⟨token, ht, rfl⟩ := List.mem_map.1 hp
    rw [arguments_inputPiece]
    exact List.forall_mem_singleton.2 (input (List.flatMap_append ▸ ht))

end Contributes

end Action
end LinkSynthesis
