import Mathlib.Data.List.Nodup
import LinkSynthesis.Proofs.Results
import LinkSynthesis.Toolchain.Setting

/-!
# Settings in effect

A toolchain says for each field which setting is in effect, and is told by that (`ext_setting`). A
further setting takes effect for its own field and for no other (`setting_apply`), so settings of
different fields may be put in effect in any order, and so may the members of a document that has no
name twice (`ofMembers_of_perm`).
-/

namespace LinkSynthesis.Toolchain
open Json (Value Members)

/-! ### Fields of settings and toolchains -/

/-- The field that a setting is for. -/
def Setting.field : Setting → Field
  | .text field _ => .text field
  | .sysroot _ => .sysroot
  | .words field _ => .words field
  | .switch field _ => .switch field
  | .table field _ => .table field
  | .archiveType _ => .archiveType
  | .fdoMode _ => .fdoMode

/-- The text of a field. -/
def text (tc : Toolchain) : TextField → String
  | .compiler => tc.compiler
  | .ar => tc.ar
  | .shExecutable => tc.shExecutable
  | .targetLibc => tc.targetLibc
  | .binDir => tc.binDir
  | .solibDirectory => tc.solibDirectory
  | .description => tc.description

/-- The words of a field. -/
def words (tc : Toolchain) : WordsField → List String
  | .arFlags => tc.arFlags
  | .arThinFlags => tc.arThinFlags
  | .cFlags => tc.cFlags
  | .dynamicLibraryLinkFlags => tc.dynamicLibraryLinkFlags
  | .linkFlags => tc.linkFlags
  | .fdoLinkFlags => tc.fdoLinkFlags

/-- The switch of a field. -/
def switch (tc : Toolchain) : SwitchField → Bool
  | .supportsEmbeddedRuntimes => tc.supportsEmbeddedRuntimes
  | .lipoBinary => tc.lipoBinary
  | .useFission => tc.useFission
  | .forcePic => tc.forcePic
  | .needsPic => tc.needsPic
  | .coverage => tc.coverage
  | .skipStaticOutputs => tc.skipStaticOutputs
  | .shareNativeDeps => tc.shareNativeDeps
  | .legacyWholeArchive => tc.legacyWholeArchive

/-- The setting that is in effect for a field. -/
def setting (tc : Toolchain) : Field → Setting
  | .text field => .text field (tc.text field)
  | .sysroot => .sysroot tc.sysroot
  | .words field => .words field (tc.words field)
  | .switch field => .switch field (tc.switch field)
  | .table field => .table field (tc.table field)
  | .archiveType => .archiveType tc.archiveType
  | .fdoMode => .fdoMode tc.fdoMode

/-- A setting takes effect for its own field and for no other. -/
theorem setting_apply (tc : Toolchain) (s : Setting) (field : Field) :
    (Setting.apply tc s).setting field = if s.field = field then s else tc.setting field := by
  cases s with
  | text own _ =>
    cases field with
    | text field => cases own <;> cases field <;> rfl
    | _ => cases own <;> rfl
  | words own _ =>
    cases field with
    | words field => cases own <;> cases field <;> rfl
    | _ => cases own <;> rfl
  | switch own _ =>
    cases field with
    | switch field => cases own <;> cases field <;> rfl
    | _ => cases own <;> rfl
  | table own _ =>
    cases field with
    | table field => cases own <;> cases field <;> rfl
    | _ => cases own <;> rfl
  | sysroot _ | archiveType _ | fdoMode _ => cases field <;> rfl

/-- A toolchain is what is in effect for its fields. -/
theorem ext_setting {tc tc' : Toolchain} (h : ∀ field, tc.setting field = tc'.setting field) :
    tc = tc' := by
  have text (field : TextField) : tc.text field = tc'.text field := by
    simpa [setting] using h (.text field)
  have words (field : WordsField) : tc.words field = tc'.words field := by
    simpa [setting] using h (.words field)
  have switch (field : SwitchField) : tc.switch field = tc'.switch field := by
    simpa [setting] using h (.switch field)
  have table (field : TableField) : tc.table field = tc'.table field := by
    simpa [setting] using h (.table field)
  have sysroot : tc.sysroot = tc'.sysroot := by simpa [setting] using h .sysroot
  have archiveType : tc.archiveType = tc'.archiveType := by simpa [setting] using h .archiveType
  have fdoMode : tc.fdoMode = tc'.fdoMode := by simpa [setting] using h .fdoMode
  cases tc
  cases tc'
  rw [mk.injEq]
  exact ⟨text .compiler, text .ar, text .shExecutable, words .arFlags, words .arThinFlags,
    archiveType, text .targetLibc, text .binDir, text .solibDirectory, sysroot,
    text .description, table .compilerFlags, words .cFlags, table .unfilteredCompilerFlags,
    table .fullyStaticLinkFlags, table .mostlyStaticLinkFlags, table .mostlyStaticSharedLinkFlags,
    table .dynamicLinkFlags, words .dynamicLibraryLinkFlags, switch .supportsEmbeddedRuntimes,
    words .linkFlags, fdoMode, switch .lipoBinary, words .fdoLinkFlags, switch .useFission,
    switch .forcePic, switch .needsPic, switch .coverage, switch .skipStaticOutputs,
    switch .shareNativeDeps, switch .legacyWholeArchive⟩

/-! ### Order -/

/-- Settings of different fields do not get in the way of each other. -/
theorem apply_comm {s t : Setting} (apart : s.field ≠ t.field) (tc : Toolchain) :
    Setting.apply (Setting.apply tc s) t = Setting.apply (Setting.apply tc t) s := by
  refine ext_setting fun field => ?_
  simp only [setting_apply]
  by_cases first : s.field = field
  · have second : t.field ≠ field := fun h => apart (first.trans h.symm)
    rw [if_neg second, if_pos first, if_pos first]
  · rw [if_neg first, if_neg first]

theorem foldl_apply_of_perm {settings settings' : List Setting} (order : settings.Perm settings')
    (unique : (settings.map Setting.field).Nodup) (tc : Toolchain) :
    settings.foldl Setting.apply tc = settings'.foldl Setting.apply tc := by
  refine order.foldl_eq' (fun s hs t ht tc => ?_) tc
  by_cases same : s.field = t.field
  · rw [List.inj_on_of_nodup_map unique hs ht same]
  · exact apply_comm same tc

theorem Field.name_of_ofName? {name : String} {field : Field} (h : ofName? name = some field) :
    field.name = name := by
  rw [ofName?] at h
  simpa using List.find?_some h

theorem Setting.field_of_read {field : Field} {value : Value} {s : Setting}
    (h : Setting.read field value = .ok s) : s.field = field := by
  cases field with
  | text | sysroot | switch => cases value <;> cases h <;> rfl
  | words =>
    obtain ⟨words, -, rfl⟩ := map_eq_ok_iff.1 h
    rfl
  | table =>
    obtain ⟨table, -, rfl⟩ := map_eq_ok_iff.1 h
    rfl
  | archiveType =>
    rw [Setting.read] at h
    split at h <;> cases h
    rfl
  | fdoMode =>
    cases value with
    | str word =>
      rw [Setting.read] at h
      split at h <;> cases h
      rfl
    | _ => cases h <;> rfl

/-- The field of a setting is the one that its member names. -/
theorem Setting.name_of_ofMember {member : String × Value} {s : Setting}
    (h : Setting.ofMember member = .ok s) : s.field.name = member.1 := by
  unfold ofMember at h
  split at h
  · next field named =>
    rw [field_of_read h, Field.name_of_ofName? named]
  · cases h

/-- The settings of members are for the fields that these name, one by one. -/
theorem map_name_of_mapM {members : Members} {settings : List Setting}
    (h : members.mapM Setting.ofMember = .ok settings) :
    members.map (·.1) = settings.map (·.field.name) := by
  rw [← List.forall₂_eq_eq_eq, List.forall₂_map_left_iff, List.forall₂_map_right_iff]
  exact (mapM_eq_ok_iff.1 h).imp fun _ _ read => (Setting.name_of_ofMember read).symm

/-- No field is set twice where no name is there twice. -/
theorem nodup_field_of_mapM {members : Members} {settings : List Setting}
    (unique : (members.map (·.1)).Nodup) (h : members.mapM Setting.ofMember = .ok settings) :
    (settings.map Setting.field).Nodup := by
  rw [map_name_of_mapM h] at unique
  refine List.Nodup.of_map Field.name ?_
  rwa [List.map_map]

/-- Members in another order make the same toolchain, if they make one. -/
theorem ofMembers_of_perm {members members' : Members} {tc : Toolchain}
    (order : members.Perm members') (unique : (members.map (·.1)).Nodup)
    (h : ofMembers members = .ok tc) : ofMembers members' = .ok tc := by
  obtain ⟨settings, read, applied⟩ := bind_eq_ok_iff.1 h
  cases applied
  obtain ⟨settings', read', order'⟩ := exists_mapM_of_perm order read
  rw [ofMembers, read', except_bind_ok,
    foldl_apply_of_perm order' (nodup_field_of_mapM unique read)]
  rfl

end LinkSynthesis.Toolchain
