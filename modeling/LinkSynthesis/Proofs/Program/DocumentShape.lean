import LinkSynthesis.Proofs.Program.Breaks

/-!
# Shapes of documents

What the values of a document must be for its reading not to break off. A reader checks most of what
it is given and reports what is wrong; it takes for granted that the feature groups of a flag table
are an object, that lists list something, and that a path without a root is a text. These conditions
separate the documents that are read from those whose reading breaks off
(`separates_ofMembers`, `separates_ofDescription`).
-/

namespace LinkSynthesis
open Json (Value Members)
open Program

/-! ### Toolchains -/

namespace Toolchain

/-- The error of a setting is reported. -/
abbrev reportsSetting (e : SettingError) : Bool := (RunError.setting e).isReported

/-- If the value is an object, its feature groups say nothing or are an object too. -/
def HasGroups (value : Value) : Prop :=
  ∀ table, value = .obj table →
    ∃ groups, Setting.orEmpty (.obj []) (Members.get? table "features") = .obj groups

/-- The feature groups of every flag table say nothing or are an object. -/
def HaveGroups (members : Members) : Prop :=
  ∀ member ∈ members, ∀ name, Field.ofName? member.1 = some (.table name) → HasGroups member.2

namespace Setting

theorem separates_readWords (key : String) (value : Value) :
    Separates reportsSetting (readWords key value) True := by
  have word (item : Value) : Separates reportsSetting (readWord key item) True := by
    unfold readWord
    split
    · trivial
    · exact .inl rfl
  unfold readWords
  split
  · exact (separates_mapM fun item _ => word item).congr (by simp)
  · exact .inl rfl

theorem separates_readGroups (key : String) (value : Value) :
    Separates reportsSetting (readGroups key value) (∃ groups, value = .obj groups) := by
  unfold readGroups
  split
  · have group (member : String × Value) : Separates reportsSetting
        (do return (member.1, ← readWords (key ++ ".features." ++ member.1) member.2)) True :=
      (separates_readWords _ _).bind_pure _
    exact (separates_mapM fun member _ => group member).congr (by simp)
  · next other => exact .inr fun ⟨groups, same⟩ => other groups same

theorem separates_readTable (key : String) (value : Value) :
    Separates reportsSetting (readTable key value) (HasGroups value) := by
  unfold readTable
  split
  · exact ((separates_readWords key _).bind_pure _).congr (by simp [HasGroups])
  · next table =>
    dsimp only
    split
    · exact .inl rfl
    · have rest := (separates_readGroups key
        (orEmpty (.obj []) (Members.get? table "features"))).bind fun groups =>
          (separates_readWords (key ++ ".flags")
            (orEmpty (.arr []) (Members.get? table "flags"))).bind_pure fun flags =>
              ({ flags, groups } : FlagTable)
      exact rest.congr (by simp [HasGroups])
  · exact .inl rfl

/-- Only a flag table is read without a check of every value. -/
theorem separates_read (field : Field) (value : Value) :
    Separates reportsSetting (read field value)
      (∀ name, field = .table name → HasGroups value) := by
  cases field with
  | table name =>
    have table : Separates reportsSetting (read (.table name) value) (HasGroups value) :=
      (separates_readTable _ value).map _
    exact table.congr (by simp)
  | words name =>
    have words : Separates reportsSetting (read (.words name) value) True :=
      (separates_readWords _ value).map _
    exact words.congr (by simp)
  | archiveType =>
    refine (separates_true fun e h => ?_).congr (by simp)
    simp only [read] at h
    split at h
    · cases h
    · cases h
      rfl
  | fdoMode =>
    refine (separates_true fun e h => ?_).congr (by simp)
    cases value with
    | str word =>
      simp only [read] at h
      split at h
      · cases h
      · cases h
        rfl
    | _ => cases h <;> rfl
  | text | sysroot | switch =>
    refine (separates_true fun e h => ?_).congr (by simp)
    cases value <;> cases h <;> rfl

theorem separates_ofMember (member : String × Value) :
    Separates reportsSetting (ofMember member)
      (∀ name, Field.ofName? member.1 = some (.table name) → HasGroups member.2) := by
  unfold ofMember
  split
  · next field named => exact (separates_read field member.2).congr (by simp [named])
  · exact .inl rfl

end Setting

theorem separates_ofMembers (members : Members) :
    Separates reportsSetting (ofMembers members) (HaveGroups members) :=
  (separates_mapM fun member _ => Setting.separates_ofMember member).bind_pure _

end Toolchain

/-! ### Link descriptions -/

namespace Description

variable {α β : Type} {Q : Prop}

/-- The error of a description is reported. -/
abbrev reportsDescription (e : DescriptionError) : Bool := (RunError.description e).isReported

/-- A path that comes without a root is a text. -/
def IsPlaced (value : Value) : Prop :=
  ∀ members, value = .obj members → ∀ path, Members.get? members "path" = some path →
    (Members.get? members "root").getD .null = .null → ∃ text, path = .str text

/-- A value lists elements, and each of them meets a condition. -/
def Lists (elements? : Option (List Value)) (R : Value → Prop) : Prop :=
  ∃ elements, elements? = some elements ∧ ∀ element ∈ elements, R element

/-- The value lists members of an archive if it speaks of any, and all paths can be placed. -/
def IsInput (value : Value) : Prop :=
  (∀ members, value = .obj members → ∀ objects, Members.get? members "objects" = some objects →
    Lists objects.elements? IsPlaced) ∧
  IsPlaced value

/-- Both paths of a linkstamp can be placed. -/
def IsStamp (value : Value) : Prop :=
  ∀ members, value = .obj members → ∀ source object, Members.get? members "source" = some source →
    Members.get? members "object" = some object → IsPlaced source ∧ IsPlaced object

/-- The member of a description says nothing or lists elements that meet a condition. -/
abbrev ListsAt (members : Members) (key : String) (R : Value → Prop) : Prop :=
  Lists (valueAt members key).optionalElements? R

/-- The values of a description have shapes that can be read. -/
@[mk_iff]
structure IsReadable (members : Members) : Prop where
  output : IsPlaced (valueAt members "output")
  interfaceOutput : IsPlaced (valueAt members "interface_output")
  symbolCountsOutput : IsPlaced (valueAt members "symbol_counts_output")
  buildInfoHeaders : ListsAt members "build_info_headers" IsPlaced
  linkerInputs : ListsAt members "linker_inputs" IsInput
  runtimeInputs : ListsAt members "runtime_inputs" IsInput
  linkopts : ListsAt members "linkopts" fun _ => True
  features : ListsAt members "features" fun _ => True
  linkstamps : ListsAt members "linkstamps" IsStamp
  interfaceSoBuilder : IsPlaced (valueAt members "interface_so_builder")

/-! #### Values -/

theorem separates_placeArtifact (binDir : String) (path root : Value) :
    Separates reportsDescription (placeArtifact binDir path root)
      (root = .null → ∃ text, path = .str text) := by
  have placed (execPath root : String) : Separates reportsDescription
      ((Artifact.ofStrings execPath root).mapError .badArtifact) True :=
    (separates_true fun _ _ => rfl).mapError _
  unfold placeArtifact
  split
  · exact (placed _ _).congr (by simp)
  · next noText =>
    refine .inr fun met => ?_
    obtain ⟨text, same⟩ := met rfl
    exact noText text same
  · next rooted _ =>
    exact (placed _ _).congr ⟨fun _ noRoot => (rooted noRoot).elim, fun _ => trivial⟩

theorem separates_readArtifact (binDir : String) (value : Value) :
    Separates reportsDescription (readArtifact binDir value) (IsPlaced value) := by
  unfold readArtifact
  split
  · rintro _ ⟨⟩
  · exact ((separates_placeArtifact binDir _ _).map some).congr (by simp [IsPlaced])
  · split
    · next path named =>
      exact ((separates_placeArtifact binDir path _).map some).congr (by simp [IsPlaced, named])
    · exact .inl rfl
  · exact .inl rfl

/-- The elements are read one by one, if there is anything to list, and the run goes on. -/
theorem separates_each {elements? : Option (List Value)} {value : Value}
    {g : Value → Except DescriptionError α} {f : List α → Except DescriptionError β}
    {R : Value → Prop} (each : ∀ v, Separates reportsDescription (g v) (R v))
    (rest : ∀ results, Separates reportsDescription (f results) Q) :
    Separates reportsDescription
      ((match elements? with
        | some elements => .ok elements
        | none => .error (.nothingToList value)) >>= fun elements => elements.mapM g >>= f)
      (Lists elements? R ∧ Q) := by
  cases elements? with
  | none => exact .inr fun ⟨⟨_, listed, _⟩, _⟩ => nomatch listed
  | some elements =>
    exact ((separates_mapM fun v _ => each v).bind rest).congr (by simp [Lists])

/-- An input that is no archive is separated by what separates its artifact. -/
theorem separates_readInput (binDir : String) (value : Value) :
    Separates reportsDescription (readInput binDir value) (IsInput value) := by
  have artifact := separates_readArtifact binDir value
  unfold readInput
  split
  · next members =>
    split
    · next objects named =>
      exact (separates_each (separates_readArtifact binDir) fun _ => artifact.bind_pure _).congr
        (by simp [IsInput, named])
    · next unnamed =>
      have same : IsPlaced (.obj members) ↔ IsInput (.obj members) := by simp [IsInput, unnamed]
      split
      · exact (artifact.map LinkerInput.fake).congr same
      · exact (artifact.map LinkerInput.plain).congr same
  · next noObject =>
    -- A value that is no object speaks of no members.
    refine (artifact.map LinkerInput.plain).congr ⟨fun placed => ⟨?_, placed⟩, And.right⟩
    rintro members rfl
    exact (noObject members rfl).elim

theorem separates_readLinkstamp (binDir : String) (value : Value) :
    Separates reportsDescription (readLinkstamp binDir value) (IsStamp value) := by
  unfold readLinkstamp
  split
  · split
    · next source object hasSource hasObject =>
      split
      · exact ((separates_readArtifact binDir source).bind fun _ =>
          (separates_readArtifact binDir object).bind_pure _).congr
          (by simp [IsStamp, hasSource, hasObject])
      · exact .inl rfl
    · exact .inl rfl
  · exact .inl rfl

/-! #### Members -/

theorem separates_readTarget (value : Value) :
    Separates reportsDescription (readTarget value) True := by
  unfold readTarget
  split
  · trivial
  · exact .inl rfl

theorem separates_checkKeys (members : Members) :
    Separates reportsDescription (checkKeys members) True := by
  unfold checkKeys
  dsimp only
  split
  · exact .inl rfl
  · split
    · exact .inl rfl
    · trivial

theorem separates_edit (draft : Draft) (change : Draft.Edit) :
    Separates reportsDescription (edit draft change) True :=
  (separates_true fun _ _ => rfl).mapError _

theorem separates_textAt (members : Members) (key : String) :
    Separates reportsDescription (textAt members key) True := by
  unfold textAt
  split
  · trivial
  · trivial
  · exact .inl rfl

theorem separates_switchAt (members : Members) (key : String) :
    Separates reportsDescription (switchAt members key) True := by
  unfold switchAt
  split
  · trivial
  · trivial
  · exact .inl rfl

theorem separates_elementsAt (members : Members) (key : String) :
    Separates reportsDescription (elementsAt members key) (ListsAt members key fun _ => True) := by
  unfold elementsAt
  dsimp only
  split
  · next elements listed => exact ⟨elements, listed, fun _ _ => trivial⟩
  · next nothing => exact .inr fun ⟨_, listed, _⟩ => nomatch nothing.symm.trans listed

/-- The staticness is read if it is there, and the run goes on in either case. -/
theorem separates_staticness {value? : Option Value}
    {f : Staticness → Except DescriptionError α}
    (rest : ∀ tier, Separates reportsDescription (f tier) Q) :
    Separates reportsDescription
      (match value? with
        | some value => readStaticness value >>= f
        | none => Except.ok .fullyStatic >>= f) Q := by
  cases value? with
  | none => exact rest .fullyStatic
  | some value =>
    dsimp only [readStaticness]
    split
    · exact rest _
    · exact .inl rfl

/-- The values are read in turn, so each place of a description has its own condition. -/
theorem separates_draft (members : Members) (tc : Toolchain) :
    Separates reportsDescription (draft members tc) (IsReadable members) := by
  have placed (key : String) := separates_readArtifact tc.binDir (valueAt members key)
  -- The chain of conditions below is the chain of reads; what is checked in full adds `True`.
  unfold draft
  dsimp only
  refine Separates.congr ((separates_checkKeys members).bind fun _ =>
    (separates_readTarget _).bind fun kind =>
    (separates_edit _ (.target kind)).bind fun draft =>
    separates_staticness fun staticness =>
    (placed "output").bind fun output =>
    (placed "interface_output").bind fun interfaceOutput =>
    (placed "symbol_counts_output").bind fun symbolCountsOutput =>
    separates_each (separates_readArtifact tc.binDir) fun buildInfoHeaders =>
    separates_each (separates_readInput tc.binDir) fun linkerInputs =>
    separates_each (separates_readInput tc.binDir) fun runtimeInputs =>
    (separates_elementsAt members "linkopts").bind fun linkopts =>
    (separates_elementsAt members "features").bind fun features =>
    separates_each (separates_readLinkstamp tc.binDir) fun linkstamps =>
    (separates_textAt members "runtime_solib_dir").bind fun runtimeSolibDir =>
    (separates_switchAt members "native_deps").bind fun nativeDeps =>
    (separates_switchAt members "use_exec_origin").bind fun useExecOrigin =>
    (placed "interface_so_builder").bind_pure _) ?_
  simp only [true_and, isReadable_iff]

end Description

/-- A description that has been read can be checked in full, so the conditions of its values are
those of the action that it describes. -/
theorem separates_ofDescription (members : Members) (tc : Toolchain) :
    Separates Description.reportsDescription (Action.ofDescription members tc)
      (Description.IsReadable members) := by
  have checked (draft : Draft) : Separates Description.reportsDescription
      (draft.build.mapError .badDraft) True :=
    (separates_true fun _ _ => rfl).mapError _
  exact ((Description.separates_draft members tc).bind checked).congr (by simp)

end LinkSynthesis
