import LinkSynthesis.Proofs.Program.CommandFiles
import LinkSynthesis.Proofs.Program.DocumentShape

/-!
# How runs end

Every run prints a command, reports one error and prints nothing else, or is broken off. It is
broken off by values of shapes that no check foresees, by absent files that the command names, and
by options that are there without a text; `IsSound` says that none of these occurs. A run that prints
a command is sound, and one that is broken off is not (`ending_run`).
-/

namespace LinkSynthesis.Program
open Json (Value Members)

variable {read : String → Except FileError Value} {options : Options}

/-- The option names a file. If the file holds an object, its members meet a condition. -/
def FileMeets (read : String → Except FileError Value) (file : OptionText) (R : Members → Prop) :
    Prop :=
  ∃ name, file = .given name ∧ ∀ members, read name = .ok (.obj members) → R members

/-- Nothing breaks the run off. -/
structure IsSound (read : String → Except FileError Value) (options : Options) : Prop where
  toolchain : FileMeets read options.toolchain Toolchain.HaveGroups
  link : FileMeets read options.link Description.IsReadable
  command : ∀ tc a, loadToolchain read options.toolchain = .ok tc →
    loadAction read options.link tc = .ok a → HasCommandFiles options a

/-! ### Documents -/

theorem load_eq_ok_iff {option name : String} {file : OptionText} {document : Value} :
    load read option file = .ok (name, document) ↔
      file = .given name ∧ read name = .ok document := by
  cases file with
  | takenOut => simp [load]
  | given given =>
    cases h : read given with
    | error e =>
      simp only [load, h]
      constructor
      · rintro ⟨⟩
      · rintro ⟨⟨⟩, there⟩
        exact nomatch h.symm.trans there
    | ok value =>
      simp only [load, h]
      constructor
      · rintro ⟨⟩
        exact ⟨rfl, h⟩
      · rintro ⟨⟨⟩, there⟩
        cases h.symm.trans there
        rfl

/-- Only an option without a text is not reported when its document is read. -/
theorem separates_load (read : String → Except FileError Value) (option : String)
    (file : OptionText) :
    Separates RunError.isReported (load read option file) (∃ name, file = .given name) := by
  cases file with
  | takenOut => exact .inr (by simp)
  | given name =>
    have document : Separates RunError.isReported ((read name).mapError .file) True :=
      (separates_true fun _ _ => rfl).mapError RunError.file
    exact (document.map (name, ·)).congr (by simp)

theorem FileMeets.named {file : OptionText} {R : Members → Prop} (h : FileMeets read file R) :
    ∃ name, file = .given name :=
  h.imp fun _ => And.left

theorem fileMeets_iff {option name : String} {file : OptionText} {document : Value}
    {R : Members → Prop} (loaded : load read option file = .ok (name, document)) :
    FileMeets read file R ↔ ∀ members, document = .obj members → R members := by
  obtain ⟨rfl, there⟩ := load_eq_ok_iff.1 loaded
  simp [FileMeets, there]

/-! ### Steps of a run -/

theorem separates_loadToolchain (read : String → Except FileError Value) (file : OptionText) :
    Separates RunError.isReported (loadToolchain read file)
      (FileMeets read file Toolchain.HaveGroups) := by
  refine (separates_load read "--toolchain" file).bind_of_ok FileMeets.named ?_
  rintro ⟨name, document⟩ loaded
  refine Separates.congr ?_ (fileMeets_iff loaded).symm
  cases document with
  | null => exact fun _ noObject => nomatch noObject
  | obj members =>
    exact ((Toolchain.separates_ofMembers members).mapError RunError.setting).congr (by simp)
  | _ => exact .inl rfl

/-- A document that says nothing is read as one without members, which has readable shapes. -/
theorem isReadable_nil : Description.IsReadable [] := by
  have placed (key : String) : Description.IsPlaced (Description.valueAt [] key) := by
    rintro _ ⟨⟩
  have lists (key : String) (R : Value → Prop) : Description.ListsAt [] key R :=
    ⟨[], rfl, List.forall_mem_nil R⟩
  constructor <;> first | exact placed _ | exact lists _ _

theorem separates_loadAction (read : String → Except FileError Value) (file : OptionText)
    (tc : Toolchain) : Separates RunError.isReported (loadAction read file tc)
      (FileMeets read file Description.IsReadable) := by
  refine (separates_load read "--link" file).bind_of_ok FileMeets.named ?_
  rintro ⟨name, document⟩ loaded
  refine Separates.congr ?_ (fileMeets_iff loaded).symm
  have described (members : Members) : Separates RunError.isReported
      ((Action.ofDescription members tc).mapError .description)
      (Description.IsReadable members) :=
    (separates_ofDescription members tc).mapError RunError.description
  dsimp only
  cases truthy : document.isTruthy with
  | true =>
    rw [if_pos rfl]
    cases document with
    | obj members => exact (described members).congr (by simp)
    | _ => exact .inl rfl
  | false =>
    rw [if_neg (by decide)]
    refine (described []).congr ⟨fun empty members => ?_, fun _ => isReadable_nil⟩
    rintro rfl
    rw [Value.isTruthy, Bool.not_eq_false', List.isEmpty_iff] at truthy
    rwa [truthy]

/-- What is linked has been built. -/
theorem exists_build_of_loadAction {file : OptionText} {tc : Toolchain} {a : Action}
    (loaded : loadAction read file tc = .ok a) : ∃ d : Draft, d.build = .ok a := by
  obtain ⟨⟨name, document⟩, -, h⟩ := bind_eq_ok_iff.1 loaded
  dsimp only at h
  split at h
  · obtain ⟨draft, -, h⟩ := bind_eq_ok_iff.1 (mapError_eq_ok_iff.1 h)
    exact ⟨draft, mapError_eq_ok_iff.1 h⟩
  · cases h

/-! ### Runs -/

/-- A run succeeds if it is sound, breaks off if it is not, or has a reported error. -/
theorem separates_run (read : String → Except FileError Value) (options : Options) :
    Separates RunError.isReported (run read options) (IsSound read options) := by
  have toolchain := separates_loadToolchain read options.toolchain
  -- Each condition of a sound run is used up by its own step, if the steps before it succeed.
  refine toolchain.bind_of_ok IsSound.toolchain fun tc htc => ?_
  have link := separates_loadAction read options.link tc
  refine link.bind_of_ok IsSound.link fun a ha => ?_
  obtain ⟨d, built⟩ := exists_build_of_loadAction ha
  refine ((separates_command built options).bind_pure _).congr
    ⟨fun files => ⟨toolchain.of_ok htc, link.of_ok ha, ?_⟩,
      fun sound => sound.command tc a htc ha⟩
  intro tc' a' htc' ha'
  cases htc.symm.trans htc'
  cases ha.symm.trans ha'
  exact files

/-! ### Endings -/

/-- The two documents are read as an action. -/
def Loads (read : String → Except FileError Value) (options : Options) (a : Action) : Prop :=
  ∃ tc, loadToolchain read options.toolchain = .ok tc ∧ loadAction read options.link tc = .ok a

theorem run_eq_ok {report : Report} (h : run read options = .ok report) :
    ∃ a words, Loads read options a ∧ command options a = .ok words ∧ report = {
      stdout := options.format.render words ++ "\n"
      stderr := if options.verbose then summary a ++ "\n" else "" } := by
  obtain ⟨tc, htc, h⟩ := bind_eq_ok_iff.1 h
  obtain ⟨a, ha, h⟩ := bind_eq_ok_iff.1 h
  obtain ⟨words, hw, h⟩ := bind_eq_ok_iff.1 h
  cases h
  exact ⟨a, words, ⟨tc, htc, ha⟩, hw, rfl⟩

/-- **How a run ends.** It reports one error and prints nothing else, or it is sound and prints the
command of what the documents describe, or it is not sound and is broken off. -/
theorem ending_run (read : String → Except FileError Value) (options : Options) :
    (∃ e : RunError, run read options = .error e ∧
      ending (run read options) = .exits 1 "" ("error: " ++ e.message ++ "\n")) ∨
    (IsSound read options ∧ ∃ a words, Loads read options a ∧ command options a = .ok words ∧
      ending (run read options) = .exits 0 (options.format.render words ++ "\n")
        (if options.verbose then summary a ++ "\n" else "")) ∨
    (¬IsSound read options ∧ ∃ reason, ending (run read options) = .brokenOff reason) := by
  have separated := separates_run read options
  cases h : run read options with
  | ok report =>
    obtain ⟨a, words, loaded, hw, rfl⟩ := run_eq_ok h
    exact .inr (.inl ⟨separated.of_ok h, a, words, loaded, hw, rfl⟩)
  | error e =>
    rw [h, separates_error] at separated
    cases reported : e.isReported with
    | true => exact .inl ⟨e, rfl, by simp [ending, reported]⟩
    | false =>
      refine .inr (.inr ⟨separated.resolve_left (by simp [reported]), e.message, ?_⟩)
      simp [ending, reported]

/-- An empty toolchain document, and the description of an executable with some linker inputs. -/
def appFolder (linkerInputs : Value) : Folder :=
  [("tc.yaml", .obj []),
   ("link.yaml", .obj [("owner", .str "//pkg:app"), ("target", .str "executable"),
     ("output", .str "buck-out/bin/pkg/app"), ("linker_inputs", linkerInputs)])]

/-- A number stands where inputs are listed. The description is wrong, and nothing is reported. -/
theorem ending_run_appFolder : ∃ options,
    Options.parse ["--toolchain", "tc.yaml", "--link", "link.yaml"] = .ok options ∧
      ending (run (appFolder (.int 5)).read options) = .brokenOff "not a list: 5" := by
  refine ⟨_, rfl, ?_⟩
  decide +kernel

/-- An archive is listed instead. -/
example : ending (run (appFolder (.arr [.str "buck-out/bin/pkg/libdep.a"])).read
      { toolchain := .given "tc.yaml", link := .given "link.yaml", format := .shell }) =
    .exits 0 "/usr/bin/gcc -o buck-out/bin/pkg/app buck-out/bin/pkg/libdep.a\n" "" := by
  decide +kernel

end LinkSynthesis.Program
