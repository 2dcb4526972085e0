import Mathlib.Data.List.Sort
import LinkSynthesis.Action.Description.Printer
import LinkSynthesis.Proofs.Action.DraftSession

/-!
# Descriptions read back

The description of an action says all about it. Each kind of value is read back as it was written,
and a built action is built again from its own fields, since the rules that it kept are kept by what
it holds. So the description of a built action is read as this action.
-/

namespace LinkSynthesis
open Json (Value Members)

/-! ### Members of objects -/

namespace Json.Members

variable {members members' : Members} {key : String} {value : Value}

theorem mem_of_get? (h : members.get? key = some value) : (key, value) ∈ members := by
  induction members with
  | nil => cases h
  | cons member members ih =>
    obtain ⟨k, v⟩ := member
    rw [get?, List.lookup_cons] at h
    split at h
    · next same =>
      cases h
      rw [beq_iff_eq.1 same]
      exact .head _
    · exact .tail _ (ih h)

/-- Where no name is repeated, the value of a member is the one that it has. -/
theorem get?_eq_some_iff (unique : (members.map (·.1)).Nodup) :
    members.get? key = some value ↔ (key, value) ∈ members := by
  refine ⟨mem_of_get?, fun h => ?_⟩
  induction members with
  | nil => cases h
  | cons member members ih =>
    obtain ⟨first, rest⟩ := List.nodup_cons.1 unique
    rw [get?, List.lookup_cons]
    rcases List.mem_cons.1 h with rfl | h
    · simp
    · have apart : key ≠ member.1 := by
        rintro rfl
        exact first (List.mem_map.2 ⟨_, h, rfl⟩)
      rw [beq_false_of_ne apart]
      exact ih rest h

end Json.Members

/-! ### Sets of names -/

theorem NameSet.ext_of_mem {s t : NameSet} (h : ∀ name, name ∈ s.names ↔ name ∈ t.names) :
    s = t := by
  have nodup (u : NameSet) : u.names.Nodup := u.ascending.imp fun hlt he => by
    subst he
    exact String.lt_irrefl _ hlt
  have same : s.names.Perm t.names := (List.perm_ext_iff_of_nodup (nodup s) (nodup t)).2 h
  have equal : s.names = t.names := same.eq_of_pairwise
    (fun _ _ _ _ hab hba => absurd (String.lt_trans hab hba) (String.lt_irrefl _))
    s.ascending t.ascending
  cases s
  cases t
  congr

/-- A set is read from its names in any order. -/
theorem NameSet.ofList_of_perm {s : NameSet} {names : List String} (h : names.Perm s.names) :
    ofList names = s :=
  ext_of_mem fun _ => mem_ofList.trans h.mem_iff

namespace Description

variable {binDir key : String} {a : Action} {features : List String} {members : Members}

/-! ### Values -/

theorem readTarget_keyword (kind : TargetKind) : readTarget (.str kind.keyword) = .ok kind := by
  have letters : Text.lower (Value.display (.str kind.keyword)) = kind.keyword := by
    cases kind <;> rfl
  rw [readTarget, letters, TargetKind.ofKeyword?_keyword]

theorem readStaticness_keyword (tier : Staticness) :
    readStaticness (.str tier.keyword) = .ok tier := by
  have letters : Text.lower (Value.display (.str tier.keyword)) = tier.keyword := by
    cases tier <;> rfl
  rw [readStaticness, letters, Staticness.ofKeyword?_keyword]

/-- An artifact is told by its path and root, whatever else an object says. -/
theorem readArtifact_obj (binDir : String) (artifact : Artifact) (rest : Members) :
    readArtifact binDir (.obj (artifactMembers (some artifact) ++ rest)) =
      .ok (some artifact) := by
  simp [readArtifact, artifactMembers, Members.get?, List.lookup_cons, placeArtifact, Value.display,
    Except.mapError, Except.map]

theorem readArtifact_writeArtifact (artifact : Option Artifact) :
    readArtifact binDir (writeArtifact artifact) = .ok artifact := by
  cases artifact with
  | none => rfl
  | some artifact => exact readArtifact_obj binDir artifact []

/-- The kind of an input is told by what is said beside its artifact. -/
theorem readInput_writeInput {input : LinkerInput} (h : input.artifact.isSome) :
    readInput binDir (writeInput input) = .ok input := by
  obtain ⟨artifact, hf⟩ := Option.isSome_iff_exists.1 h
  cases input with
  | plain _ =>
    cases hf
    have file := readArtifact_obj binDir artifact []
    rw [List.append_nil] at file
    simp only [readInput, writeInput, writeArtifact, file]
    rfl
  | archive _ objects =>
    cases hf
    have file := readArtifact_obj binDir artifact
      [("objects", .arr (objects.map writeArtifact))]
    have members : (objects.map writeArtifact).mapM (readArtifact binDir) = .ok objects :=
      mapM_map_eq_ok fun _ _ => readArtifact_writeArtifact _
    have listed : Members.get? (artifactMembers (some artifact) ++
        [("objects", .arr (objects.map writeArtifact))]) "objects" =
          some (.arr (objects.map writeArtifact)) := rfl
    simp only [readInput, writeInput, listed, readElements, Value.elements?, members, file,
      except_bind_ok, except_pure]
  | fake _ =>
    cases hf
    have file := readArtifact_obj binDir artifact [("fake", .bool true)]
    simp only [readInput, writeInput, file]
    rfl

theorem readLinkstamp_writeLinkstamp (stamp : Linkstamp) :
    readLinkstamp binDir (writeLinkstamp stamp) = .ok stamp := by
  simp [readLinkstamp, writeLinkstamp, Members.get?, List.lookup_cons, readArtifact_writeArtifact]

/-! ### Fields -/

theorem keys_fields (a : Action) (features : List String) :
    (fields a features).map (·.1) = keys := rfl

theorem mem_ofAction_iff {value : Value} :
    (key, value) ∈ ofAction a features ↔ (key, some value) ∈ fields a features := by
  simp only [ofAction, List.mem_filterMap, Option.map_eq_some_iff, Prod.mk.injEq]
  constructor
  · rintro ⟨⟨key, value⟩, h, v, rfl, rfl, rfl⟩
    exact h
  · intro h
    exact ⟨_, h, value, rfl, rfl, rfl⟩

/-- Leaving fields out leaves the other keys as they are. -/
theorem keys_filterMap_sublist (given : List (String × Option Value)) :
    ((given.filterMap fun (key, value) => value.map (key, ·)).map (·.1)).Sublist
      (given.map (·.1)) := by
  induction given with
  | nil => exact .slnil
  | cons field given ih =>
    obtain ⟨key, _ | value⟩ := field
    · exact .cons _ ih
    · exact .cons_cons _ ih

section

variable (order : members.Perm (ofAction a features))

include order

/-- Each key is one that descriptions have, and none is there twice. -/
theorem keys_of_perm : (members.map (·.1)).Nodup ∧ members.map (·.1) ⊆ keys := by
  have sublist : ((ofAction a features).map (·.1)).Sublist keys := keys_filterMap_sublist _
  have same := order.map (·.1)
  exact ⟨same.nodup_iff.2 (sublist.nodup (by decide)), List.Subset.trans same.subset sublist.subset⟩

/-- What a description says key by key, whatever the order of the keys. -/
theorem forall_get? : ∀ field ∈ fields a features, members.get? field.1 = field.2 := by
  rintro ⟨key, value⟩ h
  have said {v : Value} : members.get? key = some v ↔ (key, some v) ∈ fields a features := by
    rw [Members.get?_eq_some_iff (keys_of_perm order).1, order.mem_iff, mem_ofAction_iff]
  cases value with
  | some v => exact said.2 h
  | none =>
    rw [Option.eq_none_iff_forall_ne_some]
    intro v hv
    have unique : ((fields a features).map (·.1)).Nodup := by
      rw [keys_fields]
      decide
    cases List.inj_on_of_nodup_map unique h (said.1 hv) rfl

theorem checkKeys_of_perm : checkKeys members = .ok () := by
  have known : (members.map (·.1)).filter (fun key => !keys.contains key) = [] := by
    rw [List.filter_eq_nil_iff]
    intro key hkey
    simp [(keys_of_perm order).2 hkey]
  have required : requiredKeys.find? (fun key => !members.has key) = none := by
    obtain ⟨owner, target, staticness, output, -⟩ := by
      simpa only [fields, List.forall_mem_cons] using forall_get? order
    simp [requiredKeys, Members.has, owner, target, output]
  simp only [checkKeys, known, required]
  rfl

end

/-! ### Members read back -/

section

variable {artifact : Option Artifact} {items : List Value} {text : Option String} {on : Bool}

theorem readArtifact_valueAt_of_optional (h : members.get? key = writeOptional artifact) :
    readArtifact binDir (valueAt members key) = .ok artifact := by
  rw [valueAt, h]
  cases artifact with
  | none => rfl
  | some artifact => exact readArtifact_writeArtifact (some artifact)

theorem elementsAt_eq (h : members.get? key = some (.arr items)) :
    elementsAt members key = .ok items := by
  rw [elementsAt, valueAt, h]
  cases items <;> rfl

theorem textAt_eq (h : members.get? key = some ((text.map Value.str).getD .null)) :
    textAt members key = .ok text := by
  rw [textAt, valueAt, h]
  cases text <;> rfl

theorem switchAt_eq (h : members.get? key = some (.bool on)) : switchAt members key = .ok on := by
  rw [switchAt, h]

end

end Description

/-! ### Actions built again -/

namespace Draft

/-- The draft that holds the fields of an action. -/
def ofAction (a : Action) : Draft where
  toolchain := a.toolchain
  ownerLabel := a.ownerLabel
  target := some a.target
  staticness := a.staticness
  output := a.output
  interfaceOutput := a.interfaceOutput
  symbolCountsOutput := a.symbolCountsOutput
  buildInfoHeaders := a.buildInfoHeaders
  linkerInputs := a.linkerInputs
  runtimeInputs := a.runtimeInputs
  linkopts := a.linkopts
  features := a.features
  linkstamps := a.linkstamps
  runtimeSolibDir := a.runtimeSolibDir
  nativeDeps := a.nativeDeps
  useExecOrigin := a.useExecOrigin
  interfaceSoBuilder := a.interfaceSoBuilder

variable {d : Draft} {a : Action} {target : TargetKind}

/-- What an action dropped of a draft is not there to be dropped again. -/
theorem toAction_ofAction (d : Draft) (target : TargetKind) :
    (ofAction (d.toAction target)).toAction target = d.toAction target := by
  simp only [toAction, ofAction]
  split <;> split <;> rfl

/-- The fields of a built action fit together, as those that were collected for it did. -/
theorem IsBuildable.ofAction (h : d.IsBuildable) (ht : d.target = some target) :
    (ofAction (d.toAction target)).IsBuildable where
  target := rfl
  output := h.output
  interfaceOutput := h.interfaceOutput.imp_right ht.symm.trans
  sources := h.sources
  archive static := by
    have archive : d.isArchive = true := by
      rw [isArchive, ht]
      exact static
    exact h.archive archive
  builder _ interface := by
    have both : (d.toAction target).interfaceSoBuilder.isSome ↔ _ := h.builder_iff
    exact both.2 interface

/-- **Building is idempotent.** -/
theorem build_ofAction (built : d.build = .ok a) : (ofAction a).build = .ok a := by
  obtain ⟨buildable, target, ht, allowed, rfl⟩ := isBuildable_of_build built
  have allowed : (ofAction (d.toAction target)).target ≠ some .interfaceDynamicLibrary :=
    fun interface => allowed (Option.some.inj interface)
  exact build_eq_ok_iff.2 ⟨(isBuildable_iff allowed).1 (buildable.ofAction ht), target, rfl,
    (toAction_ofAction d target).symm⟩

end Draft

namespace Description

variable {a : Action} {features : List String} {members : Members}

theorem edit_target {d : Draft} {kind : TargetKind} (h : kind ≠ .interfaceDynamicLibrary) :
    edit d (.target kind) = .ok { d with target := kind } := by
  cases kind <;> first | rfl | exact absurd rfl h

/-- A description is read into the draft of its action, unless the draft refuses the target. -/
theorem draft_of_perm (order : members.Perm (ofAction a features))
    (names : features.Perm a.features.names) (complete : a.IsComplete)
    (target : a.target ≠ .interfaceDynamicLibrary) :
    draft members a.toolchain = .ok (.ofAction a) := by
  obtain ⟨owner, kind, tier, output, interfaceOutput, symbolCountsOutput, buildInfoHeaders,
    linkerInputs, runtimeInputs, linkopts, featureNames, linkstamps, runtimeSolibDir, nativeDeps,
    useExecOrigin, interfaceSoBuilder, -⟩ := by
      simpa only [fields, List.forall_mem_cons] using forall_get? order
  have texts (l : List String) : (l.map Value.str).map (·.display) = l := by
    simp [Value.display, Function.comp_def]
  have artifacts (l : List (Option Artifact)) :
      (l.map writeArtifact).mapM (readArtifact a.toolchain.binDir) = .ok l :=
    mapM_map_eq_ok fun _ _ => readArtifact_writeArtifact _
  have inputs {l : List LinkerInput} (sub : l ⊆ a.inputs) :
      (l.map writeInput).mapM (readInput a.toolchain.binDir) = .ok l :=
    mapM_map_eq_ok fun input hi => readInput_writeInput (complete.inputs input (sub hi)).1
  have stamps : (a.linkstamps.map writeLinkstamp).mapM (readLinkstamp a.toolchain.binDir) =
      .ok a.linkstamps :=
    mapM_map_eq_ok fun _ _ => readLinkstamp_writeLinkstamp _
  have ownerText : valueAt members "owner" = .str a.ownerLabel := by rw [valueAt, owner]; rfl
  have kindText : valueAt members "target" = .str a.target.keyword := by rw [valueAt, kind]; rfl
  have outputValue : valueAt members "output" = writeArtifact a.output := by
    rw [valueAt, output]; rfl
  simp only [draft, checkKeys_of_perm order, except_bind_ok, ownerText, kindText, outputValue,
    readTarget_keyword, edit_target target, tier, readStaticness_keyword,
    readArtifact_writeArtifact, readArtifact_valueAt_of_optional interfaceOutput,
    readArtifact_valueAt_of_optional symbolCountsOutput,
    readArtifact_valueAt_of_optional interfaceSoBuilder, elementsAt_eq buildInfoHeaders,
    artifacts, elementsAt_eq linkerInputs, inputs (List.subset_append_left _ _),
    elementsAt_eq runtimeInputs, inputs (List.subset_append_right _ _), elementsAt_eq linkopts,
    elementsAt_eq featureNames, elementsAt_eq linkstamps, stamps, textAt_eq runtimeSolibDir,
    switchAt_eq nativeDeps, switchAt_eq useExecOrigin, texts, NameSet.ofList_of_perm names]
  rfl

end Description

namespace Action

variable {a : Action} {features : List String} {members : Members}

/-- **Descriptions say all.** The description of a built action, its keys and the names of its
features in any order, is read as that action. -/
theorem ofDocument_of_build {d : Draft} (built : d.build = .ok a) (complete : a.IsComplete)
    (names : features.Perm a.features.names)
    (order : members.Perm (Description.ofAction a features)) :
    ofDocument (.obj members) a.toolchain = .ok a := by
  have target : a.target ≠ .interfaceDynamicLibrary := (Draft.target_and_builder_of_build built).1
  rw [ofDocument, ofDescription, Description.draft_of_perm order names complete target,
    except_bind_ok, Draft.build_ofAction built]
  rfl

/-- A shared object. -/
def pluginFile : Artifact := ⟨"out/bin/pkg/plugin.so", "out/bin", by decide, by decide +kernel⟩

/-- The interface of the shared object. -/
def pluginInterface : Artifact := ⟨"out/bin/pkg/plugin.ifso", "", by decide, .inl rfl⟩

/-- The builder of the interface. -/
def pluginInterfaceBuilder : Artifact := ⟨"tools/make_interface", "", by decide, .inl rfl⟩

/-- An archive in the output tree that belongs to no root. -/
def rootlessArchive : Artifact := ⟨"out/bin/pkg/lib.a", "", by decide, .inl rfl⟩

/-- The source of a linkstamp. -/
def stampSource : Artifact := ⟨"pkg/stamp.cc", "", by decide, .inl rfl⟩

/-- A link with an archive without members and a stand-in. -/
def pluginDraft : Draft where
  toolchain := { binDir := "out/bin" }
  ownerLabel := "//pkg:plugin"
  target := some .dynamicLibrary
  output := some pluginFile
  interfaceOutput := some pluginInterface
  interfaceSoBuilder := some pluginInterfaceBuilder
  linkerInputs := [.archive (some rootlessArchive) [], .fake (some rootlessArchive)]
  linkopts := ["-lm", ""]
  features := .ofList ["thin_lto", "asan"]
  linkstamps := [⟨some stampSource, some pluginFile⟩]
  runtimeSolibDir := some ""

theorem ofDocument_pluginDraft : ∃ a, pluginDraft.build = .ok a ∧
    ofDocument (.obj (Description.ofAction a ["thin_lto", "asan"]).reverse) a.toolchain =
      .ok a := by
  have built : pluginDraft.build = .ok (pluginDraft.toAction .dynamicLibrary) := rfl
  have complete : (pluginDraft.toAction .dynamicLibrary).IsComplete := by
    constructor <;> decide
  have names : ["thin_lto", "asan"].Perm
      (pluginDraft.toAction .dynamicLibrary).features.names := by decide
  exact ⟨_, built, ofDocument_of_build built complete names (List.reverse_perm _)⟩

end Action
end LinkSynthesis
