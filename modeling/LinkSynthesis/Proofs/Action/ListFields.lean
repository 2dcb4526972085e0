import LinkSynthesis.Proofs.Action.DescriptionReadBack

/-!
# Fields that list something

Six fields of an action are described by lists. A value that is no list may stand for one: null and
its like stand for the empty list, a text for its characters, and an object for its names
(`IsListing`). So a description is read as if the lists were written out (`draft_writeLists`), and
each of the six fields holds what its value stands for, read element by element
(`listField_of_ofDocument`).
-/

namespace LinkSynthesis
open Json (Value Members)

/-! ### What values list -/

namespace Json.Value

/-- What a value lists where a list is wanted. -/
inductive IsListing : Value → List Value → Prop
  | list (items : List Value) : IsListing (.arr items) items
  | null : IsListing .null []
  | off : IsListing (.bool false) []
  | zero : IsListing (.int 0) []
  | zeroFloat {x : Binary64} (h : x.isZero = true) : IsListing (.float x) []
  | characters (text : String) : IsListing (.str text) (text.toList.map fun c => .str c.toString)
  | names (members : Members) : IsListing (.obj members) (members.map fun member => .str member.1)

variable {value : Value} {items : List Value}

theorem optionalElements?_arr (items : List Value) :
    (arr items).optionalElements? = some items := by
  cases items <;> rfl

/-- A value that is neither true nor a number other than zero lists something. -/
theorem optionalElements?_eq_some_iff :
    value.optionalElements? = some items ↔ IsListing value items := by
  constructor
  · intro h
    cases value with
    | null =>
      cases h
      exact .null
    | bool on =>
      cases on <;> cases h
      exact .off
    | int n =>
      rw [optionalElements?] at h
      split at h
      · cases h
      · next silent =>
        cases h
        obtain rfl : n = 0 := by simpa [isTruthy] using silent
        exact .zero
    | float x =>
      rw [optionalElements?] at h
      split at h
      · cases h
      · next silent =>
        cases h
        exact .zeroFloat (by simpa [isTruthy] using silent)
    | str text =>
      rw [optionalElements?] at h
      split at h
      · cases h
        exact .characters text
      · next silent =>
        cases h
        obtain rfl : text = "" := by simpa [isTruthy] using silent
        exact .characters ""
    | arr items =>
      cases (optionalElements?_arr items).symm.trans h
      exact .list items
    | obj members =>
      cases members <;> cases h <;> exact .names _
  · rintro (items | _ | _ | _ | zero | text | members)
    · exact optionalElements?_arr items
    · rfl
    · rfl
    · rfl
    · simp [optionalElements?, isTruthy, zero]
    · rw [optionalElements?]
      split
      · rfl
      · next silent =>
        obtain rfl : text = "" := by simpa [isTruthy] using silent
        rfl
    · cases members <;> rfl

/-- The list that a value stands for, if it stands for one. -/
def asList (value : Value) : Value := (value.optionalElements?.map arr).getD value

theorem optionalElements?_asList (value : Value) :
    value.asList.optionalElements? = value.optionalElements? := by
  unfold asList
  cases h : value.optionalElements? with
  | none => exact h
  | some items => exact optionalElements?_arr items

theorem asList_of_none (h : value.optionalElements? = none) : value.asList = value := by
  rw [asList, h]
  rfl

end Json.Value

namespace Description

variable {α : Type}

/-! ### List fields -/

/-- A field that lists something, with the type of its elements. -/
inductive ListField : Type → Type where
  | buildInfoHeaders : ListField (Option Artifact)
  | linkerInputs : ListField LinkerInput
  | runtimeInputs : ListField LinkerInput
  | linkopts : ListField String
  | features : ListField String
  | linkstamps : ListField Linkstamp

namespace ListField

/-- The key of the field. -/
def key : ListField α → String
  | buildInfoHeaders => "build_info_headers"
  | linkerInputs => "linker_inputs"
  | runtimeInputs => "runtime_inputs"
  | linkopts => "linkopts"
  | features => "features"
  | linkstamps => "linkstamps"

/-- One element of the field. -/
def read (binDir : String) : ListField α → Value → Except DescriptionError α
  | buildInfoHeaders => readArtifact binDir
  | linkerInputs => readInput binDir
  | runtimeInputs => readInput binDir
  | linkopts => fun value => .ok value.display
  | features => fun value => .ok value.display
  | linkstamps => readLinkstamp binDir

/-- The action holds the elements in the field: the features as a set, and no linkopts if it is an
archive action. -/
def IsHeldBy (a : Action) : ListField α → List α → Prop
  | buildInfoHeaders, elements => a.buildInfoHeaders = elements
  | linkerInputs, elements => a.linkerInputs = elements
  | runtimeInputs, elements => a.runtimeInputs = elements
  | linkopts, elements => a.linkopts = if a.target.isStaticLibrary then [] else elements
  | features, elements => a.features = .ofList elements
  | linkstamps, elements => a.linkstamps = elements

end ListField

variable {members : Members} {tc : Toolchain} {key : String} {items : List Value}

/-! ### Lists written out -/

/-- The keys under which a description lists something. -/
def listKeys : List String :=
  ["build_info_headers", "linker_inputs", "runtime_inputs", "linkopts", "features", "linkstamps"]

/-- A draft depends on the keys, on what is listed, and on the values under all other keys. -/
theorem draft_congr {members' : Members} (checked : checkKeys members = checkKeys members')
    (get : ∀ key ∉ listKeys, members.get? key = members'.get? key)
    (elements : ∀ key ∈ listKeys, elementsAt members key = elementsAt members' key)
    (tc : Toolchain) : draft members tc = draft members' tc := by
  have value : ∀ key ∉ listKeys, valueAt members key = valueAt members' key := by
    intro key h
    rw [valueAt, get key h, valueAt]
  have text : ∀ key ∉ listKeys, textAt members key = textAt members' key := by
    intro key h
    rw [textAt, value key h, textAt]
  have switch : ∀ key ∉ listKeys, switchAt members key = switchAt members' key := by
    intro key h
    rw [switchAt, get key h, switchAt]
  unfold draft
  simp (disch := decide) only [checked, get, value, elements, text, switch]

/-- The members with a list for each value that stands for one where lists are wanted. -/
def writeLists (members : Members) : Members :=
  members.map fun (key, value) => (key, if key ∈ listKeys then value.asList else value)

theorem keys_writeLists (members : Members) :
    (writeLists members).map (·.1) = members.map (·.1) := by
  rw [writeLists, List.map_map]
  rfl

theorem get?_writeLists (members : Members) (key : String) :
    (writeLists members).get? key =
      (members.get? key).map fun value => if key ∈ listKeys then value.asList else value := by
  induction members with
  | nil => rfl
  | cons member members ih =>
    rw [writeLists, List.map_cons, Members.get?, List.lookup_cons, Members.get?, List.lookup_cons]
    cases same : key == member.1 with
    | true =>
      rw [beq_iff_eq.1 same]
      rfl
    | false => exact ih

theorem get?_writeLists_of_notMem (members : Members) (h : key ∉ listKeys) :
    (writeLists members).get? key = members.get? key := by
  rw [get?_writeLists]
  simp [h]

theorem valueAt_writeLists_of_mem (members : Members) (h : key ∈ listKeys) :
    valueAt (writeLists members) key = valueAt members key ∨
      valueAt (writeLists members) key = (valueAt members key).asList := by
  rw [valueAt, get?_writeLists, valueAt]
  cases members.get? key with
  | none => exact .inl rfl
  | some value => exact .inr (if_pos h)

/-- What is listed stays the same, and so does a value that lists nothing. -/
theorem elementsAt_writeLists (members : Members) (h : key ∈ listKeys) :
    elementsAt (writeLists members) key = elementsAt members key := by
  unfold elementsAt
  rcases valueAt_writeLists_of_mem members h with same | list
  · rw [same]
  · rw [list]
    dsimp only
    rw [Value.optionalElements?_asList]
    cases nothing : (valueAt members key).optionalElements? with
    | some items => rfl
    | none => rw [Value.asList_of_none nothing]

theorem checkKeys_writeLists (members : Members) :
    checkKeys (writeLists members) = checkKeys members := by
  have there (key : String) : (writeLists members).has key = members.has key := by
    rw [Members.has, get?_writeLists, Option.isSome_map, Members.has]
  unfold checkKeys
  simp only [keys_writeLists, there]

/-- **A description is read as if its lists were written out**, with the same draft or the same
error. -/
theorem draft_writeLists (members : Members) (tc : Toolchain) :
    draft (writeLists members) tc = draft members tc :=
  draft_congr (checkKeys_writeLists members) (fun _ h => get?_writeLists_of_notMem members h)
    (fun _ h => elementsAt_writeLists members h) tc

/-! ### Elements -/

theorem elementsAt_eq_ok_iff :
    elementsAt members key = .ok items ↔ Value.IsListing (valueAt members key) items := by
  rw [← Value.optionalElements?_eq_some_iff, elementsAt]
  cases (valueAt members key).optionalElements? <;> simp

/-- The staticness is read if it is there, and reading goes on in either case. -/
theorem exists_staticness {β : Type} {value? : Option Value} {result : β}
    {f : Staticness → Except DescriptionError β}
    (h : (match value? with
      | some value => readStaticness value >>= f
      | none => Except.ok Staticness.fullyStatic >>= f) = .ok result) :
    ∃ tier, f tier = .ok result := by
  cases value? with
  | none => exact ⟨_, h⟩
  | some value =>
    obtain ⟨tier, -, h⟩ := bind_eq_ok_iff.1 h
    exact ⟨tier, h⟩

/-- Elements that are texts are read as they are displayed. -/
theorem mapM_display (items : List Value) :
    items.mapM (fun value => (.ok value.display : Except DescriptionError String)) =
      .ok (items.map (·.display)) := by
  rw [mapM_eq_ok_iff, List.forall₂_map_right_iff, List.forall₂_same]
  exact fun _ _ => rfl

/-- A draft that was read holds what is listed, and hands it on to its action. -/
theorem listField_of_draft {d : Draft} (h : draft members tc = .ok d) (field : ListField α) :
    ∃ items elements, Value.IsListing (valueAt members field.key) items ∧
      items.mapM (field.read tc.binDir) = .ok elements ∧
      ∀ target, field.IsHeldBy (d.toAction target) elements := by
  unfold draft at h
  dsimp only at h
  obtain ⟨_, -, h⟩ := bind_eq_ok_iff.1 h
  obtain ⟨kind, -, h⟩ := bind_eq_ok_iff.1 h
  obtain ⟨start, -, h⟩ := bind_eq_ok_iff.1 h
  obtain ⟨tier, h⟩ := exists_staticness h
  obtain ⟨output, -, h⟩ := bind_eq_ok_iff.1 h
  obtain ⟨interfaceOutput, -, h⟩ := bind_eq_ok_iff.1 h
  obtain ⟨symbolCountsOutput, -, h⟩ := bind_eq_ok_iff.1 h
  obtain ⟨headerItems, headersListed, h⟩ := bind_eq_ok_iff.1 h
  obtain ⟨headers, headersRead, h⟩ := bind_eq_ok_iff.1 h
  obtain ⟨linkerItems, linkerListed, h⟩ := bind_eq_ok_iff.1 h
  obtain ⟨linker, linkerRead, h⟩ := bind_eq_ok_iff.1 h
  obtain ⟨runtimeItems, runtimeListed, h⟩ := bind_eq_ok_iff.1 h
  obtain ⟨runtime, runtimeRead, h⟩ := bind_eq_ok_iff.1 h
  obtain ⟨options, optionsListed, h⟩ := bind_eq_ok_iff.1 h
  obtain ⟨names, namesListed, h⟩ := bind_eq_ok_iff.1 h
  obtain ⟨stampItems, stampsListed, h⟩ := bind_eq_ok_iff.1 h
  obtain ⟨stamps, stampsRead, h⟩ := bind_eq_ok_iff.1 h
  obtain ⟨runtimeSolibDir, -, h⟩ := bind_eq_ok_iff.1 h
  obtain ⟨nativeDeps, -, h⟩ := bind_eq_ok_iff.1 h
  obtain ⟨useExecOrigin, -, h⟩ := bind_eq_ok_iff.1 h
  obtain ⟨interfaceSoBuilder, -, h⟩ := bind_eq_ok_iff.1 h
  cases h
  cases field with
  | buildInfoHeaders =>
    exact ⟨_, _, elementsAt_eq_ok_iff.1 headersListed, headersRead, fun _ => rfl⟩
  | linkerInputs =>
    exact ⟨_, _, elementsAt_eq_ok_iff.1 linkerListed, linkerRead, fun _ => rfl⟩
  | runtimeInputs =>
    exact ⟨_, _, elementsAt_eq_ok_iff.1 runtimeListed, runtimeRead, fun _ => rfl⟩
  | linkopts =>
    exact ⟨_, _, elementsAt_eq_ok_iff.1 optionsListed, mapM_display _, fun _ => rfl⟩
  | features =>
    exact ⟨_, _, elementsAt_eq_ok_iff.1 namesListed, mapM_display _, fun _ => rfl⟩
  | linkstamps =>
    exact ⟨_, _, elementsAt_eq_ok_iff.1 stampsListed, stampsRead, fun _ => rfl⟩

end Description

namespace Action

open Description (ListField valueAt writeLists)

variable {document : Value} {members : Members} {tc : Toolchain} {a : Action}

theorem ofDocument_writeLists (members : Members) (tc : Toolchain) :
    ofDocument (.obj (writeLists members)) tc = ofDocument (.obj members) tc := by
  rw [ofDocument, ofDescription, Description.draft_writeLists]
  rfl

/-- **Fields that list something.** A document that describes an action is an object. The value of
each field that lists something is a list or stands for one: null, false and zero for the empty
list, a text for its characters, an object for its names. It is no other number, and not true. The
field holds one element for each item, read from it, in the order of the list; the features are a
set, and an archive action drops its linkopts. The description with the lists written out describes
the same action. -/
theorem listField_of_ofDocument (accepted : ofDocument document tc = .ok a) :
    ∃ members, document = .obj members ∧
      ofDocument (.obj (writeLists members)) tc = .ok a ∧
      ∀ (α : Type) (field : ListField α), ∃ items elements,
        Value.IsListing (valueAt members field.key) items ∧
        List.Forall₂ (fun item element => field.read tc.binDir item = .ok element)
          items elements ∧
        field.IsHeldBy a elements := by
  cases document with
  | obj members =>
    refine ⟨members, rfl, (ofDocument_writeLists members tc).trans accepted, fun α field => ?_⟩
    obtain ⟨d, drafted, built⟩ := bind_eq_ok_iff.1 accepted
    obtain ⟨-, target, -, -, rfl⟩ := Draft.isBuildable_of_build (mapError_eq_ok_iff.1 built)
    obtain ⟨items, elements, listed, read, held⟩ := Description.listField_of_draft drafted field
    exact ⟨items, elements, listed, mapM_eq_ok_iff.1 read, held target⟩
  | _ => cases accepted

/-- The description of a link with some linkopts. -/
def suiteDescription (linkopts : Value) : Members :=
  [("owner", .str "//suite:run"), ("target", .str "executable"),
   ("output", .str "buck-out/bin/suite/run"), ("linkopts", linkopts),
   ("linker_inputs", .arr [.str "suite/run.o", .str "suite/cases.o"]), ("features", .null)]

theorem listField_suiteDescription : ∃ a,
    ofDocument (.obj (suiteDescription (.arr [.str "-lm", .int 2]))) {} = .ok a ∧
      a.linkopts = ["-lm", "2"] ∧ a.linkerInputs.length = 2 ∧ a.features = .empty := by
  obtain ⟨a, accepted, kind⟩ : ∃ a,
      ofDocument (.obj (suiteDescription (.arr [.str "-lm", .int 2]))) {} = .ok a ∧
        a.target = .executable := ⟨_, rfl, rfl⟩
  obtain ⟨members, same, -, listed⟩ := listField_of_ofDocument accepted
  cases same
  refine ⟨a, accepted, ?_, ?_, ?_⟩
  · obtain ⟨items, elements, listing, read, held⟩ := listed _ .linkopts
    cases listing
    have texts : Except.ok ["-lm", "2"] = Except.ok elements := mapM_eq_ok_iff.2 read
    cases texts
    rwa [ListField.IsHeldBy, kind] at held
  · obtain ⟨items, elements, listing, read, held⟩ := listed _ .linkerInputs
    cases listing
    exact (congrArg List.length held).trans read.length_eq.symm
  · obtain ⟨items, elements, listing, read, held⟩ := listed _ .features
    cases listing
    cases read
    exact held

/-- A text stands for its characters, so linkopts that are no list are taken apart. -/
theorem listField_looseDescription :
    (∃ a, ofDocument (.obj (suiteDescription (.str "-lm"))) {} = .ok a ∧
      a.linkopts = ["-", "l", "m"]) ∧
    ¬∃ items, valueAt (suiteDescription (.str "-lm")) ListField.linkopts.key = .arr items := by
  refine ⟨⟨_, rfl, rfl⟩, ?_⟩
  rintro ⟨items, list⟩
  cases list

end Action
end LinkSynthesis
