import LinkSynthesis.Proofs.Toolchain.Setting

/-!
# Toolchain documents, member by member

A document with one member is a load of its own. A whole document loads just if each of its members
does, fails with the error of the first member that does not, and gives each field that it names
what the load of that one member gives it; every other field keeps its default
(`ofMembers_memberwise`). A flag table that is given as a mapping is in effect as it is written: its
flags, and behind them the enabled groups.
-/

namespace LinkSynthesis.Toolchain
open Json (Value Members)

variable {members : Members} {tc : Toolchain} {settings : List Setting}

/-! ### What a flag table says -/

/-- The text of a value that is one. -/
def wordOf? : Value → Option String
  | .str word => some word
  | _ => none

/-- The texts of a list. A value that is no list has none. -/
def wordsOf : Value → List String
  | .arr items => items.filterMap wordOf?
  | _ => []

/-- The members of a mapping. A value that is no mapping has none. -/
def membersOf : Value → Members
  | .obj members => members
  | _ => []

/-- The flags that a flag table lists. -/
def flagsOf (table : Members) : List String := ((table.get? "flags").map wordsOf).getD []

/-- The feature groups that a flag table names, in document order. -/
def groupsOf (table : Members) : Members := ((table.get? "features").map membersOf).getD []

namespace Setting

theorem readWord_eq_ok_iff {key word : String} {item : Value} :
    readWord key item = .ok word ↔ wordOf? item = some word := by
  cases item <;> simp [readWord, wordOf?]

theorem readWords_eq_ok {key : String} {value : Value} {words : List String}
    (h : readWords key value = .ok words) : wordsOf value = words := by
  unfold readWords at h
  split at h
  · next items =>
    have read := (mapM_eq_ok_iff.1 h).imp fun _ _ => readWord_eq_ok_iff.1
    rw [wordsOf]
    clear h
    induction read with
    | nil => rfl
    | cons text _ ih => rw [List.filterMap_cons_some text, ih]
  · cases h

theorem readGroups_eq_ok {key : String} {value : Value} {groups : List (String × List String)}
    (h : readGroups key value = .ok groups) :
    (membersOf value).map (fun group => (group.1, wordsOf group.2)) = groups := by
  unfold readGroups at h
  split at h
  · next members =>
    rw [membersOf, ← List.forall₂_eq_eq_eq, List.forall₂_map_left_iff]
    refine (mapM_eq_ok_iff.1 h).imp fun member group read => ?_
    obtain ⟨words, hw, read⟩ := bind_eq_ok_iff.1 read
    cases read
    rw [readWords_eq_ok hw]
  · cases h

/-- A member that says nothing has no elements, and neither has what is read for it. -/
theorem elements_orEmpty {α : Type} (elements : Value → List α) (empty : Value)
    (none : elements empty = [])
    (nothing : ∀ value : Value, value.isTruthy = false → elements value = [])
    (value : Option Value) :
    elements (orEmpty empty value) = (value.map elements).getD [] := by
  cases value with
  | none => exact none
  | some value =>
    cases said : value.isTruthy with
    | true => simp [orEmpty, said]
    | false => simp [orEmpty, said, none, nothing value said]

/-- A mapping that is read as a flag table is read as it is written. -/
theorem readTable_obj_eq_ok {key : String} {table : Members} {read : FlagTable}
    (h : readTable key (.obj table) = .ok read) :
    read = {
      flags := flagsOf table
      groups := (groupsOf table).map fun group => (group.1, wordsOf group.2) } := by
  have words := elements_orEmpty wordsOf (.arr []) rfl fun value nothing => by
    cases value <;> simp_all [Value.isTruthy, wordsOf]
  have members := elements_orEmpty membersOf (.obj []) rfl fun value nothing => by
    cases value <;> simp_all [Value.isTruthy, membersOf]
  unfold readTable at h
  dsimp only at h
  split at h
  · cases h
  · obtain ⟨groups, hgroups, h⟩ := bind_eq_ok_iff.1 h
    obtain ⟨flags, hflags, h⟩ := bind_eq_ok_iff.1 h
    cases h
    rw [← readGroups_eq_ok hgroups, ← readWords_eq_ok hflags, words, members, flagsOf, groupsOf]

end Setting

/-- The flags in effect of a mapping that is read as a flag table. -/
theorem evaluate_of_readTable {key : String} {table : Members} {read : FlagTable}
    (h : Setting.readTable key (.obj table) = .ok read) (features : NameSet) :
    read.evaluate features = flagsOf table ++
      ((groupsOf table).filter (features.contains ·.1)).flatMap (wordsOf ·.2) := by
  rw [Setting.readTable_obj_eq_ok h, FlagTable.evaluate, List.flatMap_map, List.append_cancel_left_eq]
  induction groupsOf table with
  | nil => rfl
  | cons group groups ih =>
    rw [List.flatMap_cons, ih]
    by_cases enabled : features.contains group.1 = true <;> simp [enabled]

/-! ### Settings in effect -/

theorem setting_foldl_of_notMem {field : Field} (h : field ∉ settings.map Setting.field)
    (tc : Toolchain) : (settings.foldl Setting.apply tc).setting field = tc.setting field := by
  induction settings generalizing tc with
  | nil => rfl
  | cons s settings ih =>
    rw [List.map_cons, List.mem_cons, not_or] at h
    rw [List.foldl_cons, ih h.2, setting_apply, if_neg (Ne.symm h.1)]

/-- Of settings of different fields each stays in effect. -/
theorem setting_foldl_of_mem (unique : (settings.map Setting.field).Nodup) {s : Setting}
    (hs : s ∈ settings) (tc : Toolchain) :
    (settings.foldl Setting.apply tc).setting s.field = s := by
  induction settings generalizing tc with
  | nil => cases hs
  | cons first settings ih =>
    rw [List.map_cons, List.nodup_cons] at unique
    rw [List.foldl_cons]
    rcases List.mem_cons.1 hs with rfl | hs
    · rw [setting_foldl_of_notMem unique.1, setting_apply, if_pos rfl]
    · exact ih unique.2 hs _

theorem Field.ofName?_name (field : Field) : Field.ofName? field.name = some field := by
  cases field with
  | text field => cases field <;> rfl
  | words field => cases field <;> rfl
  | switch field => cases field <;> rfl
  | table field => cases field <;> rfl
  | sysroot | archiveType | fdoMode => rfl

theorem Field.name_injective : Function.Injective Field.name := by
  intro field field' same
  rw [← Option.some_inj, ← ofName?_name, same, ofName?_name]

/-! ### Loads -/

theorem ofMembers_eq_ok_iff : ofMembers members = .ok tc ↔
    ∃ settings, members.mapM Setting.ofMember = .ok settings ∧
      settings.foldl Setting.apply {} = tc := by
  simp only [ofMembers, bind_eq_ok_iff, except_pure, Except.ok.injEq]

theorem ofMembers_eq_error_iff {e : SettingError} :
    ofMembers members = .error e ↔ members.mapM Setting.ofMember = .error e := by
  rw [ofMembers]
  cases members.mapM Setting.ofMember <;> simp

theorem ofMembers_singleton (member : String × Value) :
    ofMembers [member] = (Setting.ofMember member).map (Setting.apply {}) := by
  rw [ofMembers, List.mapM_cons]
  cases Setting.ofMember member <;> rfl

theorem exists_ofMembers_singleton_iff {member : String × Value} :
    (∃ single, ofMembers [member] = .ok single) ↔ ∃ s, Setting.ofMember member = .ok s := by
  rw [ofMembers_singleton]
  cases Setting.ofMember member <;> simp [Except.map]

theorem ofMembers_singleton_eq_error_iff {member : String × Value} {e : SettingError} :
    ofMembers [member] = .error e ↔ Setting.ofMember member = .error e := by
  rw [ofMembers_singleton]
  cases Setting.ofMember member <;> simp [Except.map]

/-- What a member sets is in effect once the document is loaded. -/
theorem exists_setting_of_mem (unique : (members.map (·.1)).Nodup)
    (loaded : ofMembers members = .ok tc) {member : String × Value} (hm : member ∈ members) :
    ∃ s, Setting.ofMember member = .ok s ∧ tc.setting s.field = s := by
  obtain ⟨settings, read, rfl⟩ := ofMembers_eq_ok_iff.1 loaded
  obtain ⟨s, hs, made⟩ := exists_result_of_mem read hm
  exact ⟨s, made, setting_foldl_of_mem (nodup_field_of_mapM unique read) hs {}⟩

/-- A field that no member names keeps its default. -/
theorem setting_of_notMem (loaded : ofMembers members = .ok tc) {field : Field}
    (h : field.name ∉ members.map (·.1)) : tc.setting field = setting {} field := by
  obtain ⟨settings, read, rfl⟩ := ofMembers_eq_ok_iff.1 loaded
  refine setting_foldl_of_notMem (fun set => h ?_) {}
  obtain ⟨s, hs, rfl⟩ := List.mem_map.1 set
  rw [map_name_of_mapM read]
  exact List.mem_map_of_mem hs

/-- The member that names a field sets it to what it would on its own. -/
theorem setting_eq_of_singleton (unique : (members.map (·.1)).Nodup)
    (loaded : ofMembers members = .ok tc) {member : String × Value} (hm : member ∈ members)
    {single : Toolchain} (alone : ofMembers [member] = .ok single) {field : Field}
    (named : field.name = member.1) : tc.setting field = single.setting field := by
  obtain ⟨s, made, effect⟩ := exists_setting_of_mem unique loaded hm
  obtain ⟨s', made', effect'⟩ :=
    exists_setting_of_mem (by simp) alone (List.mem_singleton_self member)
  cases made.symm.trans made'
  have own : s.field = field :=
    Field.name_injective ((Setting.name_of_ofMember made).trans named.symm)
  rw [← own, effect, effect']

/-- A flag table that is given as a mapping is in effect as it is written. -/
theorem evaluate_of_mem (unique : (members.map (·.1)).Nodup) (loaded : ofMembers members = .ok tc)
    {field : TableField} {table : Members} (hm : ((Field.table field).name, .obj table) ∈ members)
    (features : NameSet) : (tc.table field).evaluate features = flagsOf table ++
      ((groupsOf table).filter (features.contains ·.1)).flatMap (wordsOf ·.2) := by
  obtain ⟨s, made, effect⟩ := exists_setting_of_mem unique loaded hm
  rw [Setting.ofMember, Field.ofName?_name] at made
  obtain ⟨read, hread, rfl⟩ := map_eq_ok_iff.1 made
  have value : tc.table field = read := by simpa [Setting.field, setting] using effect
  rw [value, evaluate_of_readTable hread]

/-- **A toolchain document is read member by member.** It loads just if each member loads alone, and
fails as the first member that does not. What is loaded has for each field that is named what the
member gives on its own, and the default for every other; a flag table that is given as a mapping
has its flags in effect and behind them the enabled groups, in document order. -/
theorem ofMembers_memberwise (unique : (members.map (·.1)).Nodup) :
    ((∃ tc, ofMembers members = .ok tc) ↔
      ∀ member ∈ members, ∃ single, ofMembers [member] = .ok single) ∧
    (∀ e, ofMembers members = .error e ↔ ∃ before member after,
      members = before ++ member :: after ∧
        (∀ earlier ∈ before, ∃ single, ofMembers [earlier] = .ok single) ∧
        ofMembers [member] = .error e) ∧
    ∀ tc, ofMembers members = .ok tc →
      (∀ member ∈ members, ∀ single, ofMembers [member] = .ok single →
        ∀ field : Field, field.name = member.1 → tc.setting field = single.setting field) ∧
      (∀ field : Field, field.name ∉ members.map (·.1) →
        tc.setting field = setting {} field) ∧
      ∀ field table, ((Field.table field).name, .obj table) ∈ members → ∀ features,
        (tc.table field).evaluate features = flagsOf table ++
          ((groupsOf table).filter (features.contains ·.1)).flatMap (wordsOf ·.2) := by
  refine ⟨⟨fun ⟨tc, loaded⟩ member hm => ?_, fun all => ?_⟩, fun e => ?_, fun tc loaded => ?_⟩
  · obtain ⟨s, made, -⟩ := exists_setting_of_mem unique loaded hm
    exact exists_ofMembers_singleton_iff.2 ⟨s, made⟩
  · obtain ⟨settings, read⟩ := exists_mapM_eq_ok fun member hm =>
      exists_ofMembers_singleton_iff.1 (all member hm)
    exact ⟨_, ofMembers_eq_ok_iff.2 ⟨settings, read, rfl⟩⟩
  · rw [ofMembers_eq_error_iff, mapM_eq_error_iff_exists]
    simp only [exists_ofMembers_singleton_iff, ofMembers_singleton_eq_error_iff]
  · exact ⟨fun member hm single alone field named =>
        setting_eq_of_singleton unique loaded hm alone named,
      fun field => setting_of_notMem loaded,
      fun field table hm => evaluate_of_mem unique loaded hm⟩

/-- Settings of several kinds. The flag table names its groups before its flags. -/
def labSettings : Members :=
  [("link_flags", .arr [.str "-s"]),
   ("compiler_flags", .obj [
     ("features", .obj [("dbg", .arr [.str "-g"]), ("asan", .arr [.str "-fsanitize=address"])]),
     ("flags", .arr [.str "-O2"])]),
   ("sysroot", .null), ("force_pic", .bool true)]

/-- The same settings with two more, neither of which has a value that its name allows. -/
def faultySettings : Members := labSettings ++ [("coverage", .int 1), ("c_flags", .null)]

theorem ofMembers_labSettings :
    (∃ tc, ofMembers labSettings = .ok tc ∧ tc.linkFlags = ["-s"] ∧ tc.ar = "/usr/bin/ar" ∧
      tc.compilerFlags.evaluate (.ofList ["asan", "lto"]) = ["-O2", "-fsanitize=address"]) ∧
    ofMembers faultySettings = .error (.notSwitch "coverage") := by
  have each : ∀ member ∈ labSettings, ∃ single, ofMembers [member] = .ok single := by
    simp only [labSettings, List.forall_mem_cons, List.not_mem_nil, false_implies, implies_true,
      and_true]
    exact ⟨⟨_, rfl⟩, ⟨_, rfl⟩, ⟨_, rfl⟩, ⟨_, rfl⟩⟩
  constructor
  · have unique : (labSettings.map (·.1)).Nodup := by decide
    obtain ⟨loads, -, effect⟩ := ofMembers_memberwise unique
    obtain ⟨tc, loaded⟩ := loads.2 each
    obtain ⟨named, unnamed, tables⟩ := effect tc loaded
    have flags := named _ (.head _) _ rfl (.words .linkFlags) rfl
    have archiver := unnamed (.text .ar) (by decide)
    exact ⟨tc, loaded, (Setting.words.inj flags).2, (Setting.text.inj archiver).2,
      tables .compilerFlags _ (.tail _ (.head _)) _⟩
  · have unique : (faultySettings.map (·.1)).Nodup := by decide
    obtain ⟨-, fails, -⟩ := ofMembers_memberwise unique
    exact (fails _).2 ⟨labSettings, _, _, rfl, each, rfl⟩

end LinkSynthesis.Toolchain
