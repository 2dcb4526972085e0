import LinkSynthesis.Proofs.Command.InputTokens

/-!
# Stand-ins among the inputs

A stand-in is passed by a marked path, so that it can be told from a file. Where its token stands
follows from its place among the inputs, like that of any input (`exists_markedTokens_eq`). Whether
the token has the mark depends on the name of the file: a stand-in that is named like a shared
library is linked as one, by a name or a path without the mark. No other input gets the mark, but
for a file whose own path begins with it (`standIn_of_appendInputOptions`).
-/

namespace LinkSynthesis

/-! ### The mark -/

/-- The token begins with the mark of stand-ins. -/
def HasFakeObjectMark (token : String) : Prop := fakeObjectMark.toList <+: token.toList

theorem hasFakeObjectMark_append (path : String) : HasFakeObjectMark (fakeObjectMark ++ path) := by
  rw [HasFakeObjectMark, String.toList_append]
  exact List.prefix_append _ _

/-- An option is no marked path. -/
theorem not_hasFakeObjectMark_option (rest : String) : ¬HasFakeObjectMark ("-" ++ rest) := by
  simp [HasFakeObjectMark, fakeObjectMark]

theorem fakeObjectMark_append_ne (path : String) : fakeObjectMark ++ path ≠ path := by
  intro same
  have lengths := congrArg String.length same
  rw [String.length_append] at lengths
  have marked : fakeObjectMark.length = 5 := rfl
  omega

namespace Action

/-- A shared library is passed by an option that names it, or by its path. -/
theorem dynamicToken_cases (file : Artifact) :
    (∃ name, dynamicToken file = "-" ++ name) ∨ dynamicToken file = file.execPath := by
  unfold dynamicToken
  split
  · exact .inl ⟨"l" ++ libraryName file.filename, by rw [← String.append_assoc]; rfl⟩
  · exact .inr rfl

end Action

namespace LinkerInput

variable {tc : Toolchain} {input : LinkerInput} {file : Artifact} {token : String}

/-- A stand-in is passed by its marked path just if its name is not that of a shared library. -/
theorem tokens_fake_eq_iff : (fake (some file)).tokens tc = [fakeObjectMark ++ file.execPath] ↔
    file.isDynamicLibrary = false := by
  constructor
  · intro own
    rw [← Bool.not_eq_true]
    intro dynamic
    rw [tokens_of_dynamic rfl dynamic] at own
    have token := List.singleton_inj.1 own
    rcases Action.dynamicToken_cases file with ⟨name, option⟩ | path
    · rw [option] at token
      exact not_hasFakeObjectMark_option name (token ▸ hasFakeObjectMark_append _)
    · rw [path] at token
      exact fakeObjectMark_append_ne _ token.symm
  · intro static
    have apart : ¬(fake (some file)).IsExpanded tc := by
      rintro ⟨-, expandable⟩
      cases expandable
    exact tokens_of_static rfl static apart

/-- A token with the mark is that of a stand-in, or the path of a file that begins with the mark
itself. -/
theorem hasFakeObjectMark_cases (ht : token ∈ input.tokens tc) (marked : HasFakeObjectMark token) :
    (∃ file, input = fake (some file) ∧ file.isDynamicLibrary = false ∧
        token = fakeObjectMark ++ file.execPath) ∨
      ∃ file, (input.artifact = some file ∨ input.IsExpanded tc ∧ some file ∈ input.members) ∧
        token = file.execPath := by
  obtain ⟨expanded, rfl | rfl | ⟨member, hm, rfl⟩⟩ |
    ⟨-, file, hf, ⟨-, rfl⟩ | ⟨static, rfl⟩⟩ := mem_tokens_cases ht
  · exact absurd marked (not_hasFakeObjectMark_option "Wl,--start-lib")
  · exact absurd marked (not_hasFakeObjectMark_option "Wl,--end-lib")
  · exact .inr ⟨member, .inr ⟨expanded, hm⟩, rfl⟩
  · rcases Action.dynamicToken_cases file with ⟨name, option⟩ | path
    · rw [option] at marked
      exact absurd marked (not_hasFakeObjectMark_option name)
    · exact .inr ⟨file, .inl hf, path⟩
  · cases input with
    | fake =>
      cases hf
      exact .inl ⟨file, rfl, static, rfl⟩
    | plain | archive => exact .inr ⟨file, .inl hf, rfl⟩

end LinkerInput

/-! ### The place of an input -/

namespace Action

variable {a : Action} {plan : RpathPlan} {input : LinkerInput} {before after : List LinkerInput}
  {linked runtime : List Contribution} {arguments result : List String}
  {whole includeLinkopts : Bool}

/-- Tokens of inputs as they are written: each always-link library of a link is in a region of its
own, unless everything is linked whole. -/
def writtenTokens (a : Action) (whole : Bool) (tokens : List String) : List String :=
  if whole || a.target.isStaticLibrary then tokens
  else tokens.flatMap (wrapAlwaysLink a.wholeArchiveMarkers)

theorem writtenTokens_append (whole : Bool) (tokens rest : List String) :
    a.writtenTokens whole (tokens ++ rest) =
      a.writtenTokens whole tokens ++ a.writtenTokens whole rest := by
  unfold writtenTokens
  split
  · rfl
  · exact List.flatMap_append

theorem strip_writtenTokens (whole : Bool) (tokens : List String) :
    a.wholeArchiveMarkers.strip (a.writtenTokens whole tokens) =
      a.wholeArchiveMarkers.strip tokens := by
  unfold writtenTokens
  split
  · rfl
  · exact WholeArchiveMarkers.strip_flatMap_wrapAlwaysLink tokens

/-- What stands between the tokens of the linker inputs and those of the runtime inputs. -/
def regionEnd (a : Action) (whole : Bool) : List String :=
  if whole then [a.wholeArchiveMarkers.closing] else []

theorem strip_regionEnd (whole : Bool) :
    a.wholeArchiveMarkers.strip (a.regionEnd whole) = [] := by
  cases whole with
  | true => exact WholeArchiveMarkers.strip_closing_cons []
  | false => rfl

/-- The options in front of the tokens, markers apart. -/
def searchOptions (a : Action) (plan : RpathPlan) : List String :=
  plan.runtimeOption.toList ++ (if a.needsRoot plan then [plan.root] else []) ++
    a.libraryOptions plan

namespace Contributes

variable (h : a.Contributes plan linked runtime)

include h

theorem markedTokens_eq (whole : Bool) : a.markedTokens linked runtime whole =
    a.writtenTokens whole (a.linkerInputs.flatMap (·.tokens a.toolchain)) ++ a.regionEnd whole ++
      a.writtenTokens whole (a.runtimeInputs.flatMap (·.tokens a.toolchain)) := by
  unfold markedTokens writtenTokens regionEnd
  rw [h.flatMap_tokens_linked, h.flatMap_tokens_runtime]
  cases whole with
  | true => simp
  | false => cases a.target.isStaticLibrary <;> simp

/-- The tokens of an input stand behind those of the inputs before it and in front of those of the
inputs after it, markers apart. -/
theorem exists_markedTokens_eq (place : a.inputs = before ++ input :: after) (whole : Bool) :
    ∃ lead trail, a.markedTokens linked runtime whole =
        lead ++ a.writtenTokens whole (input.tokens a.toolchain) ++ trail ∧
      a.wholeArchiveMarkers.strip lead =
        a.wholeArchiveMarkers.strip (before.flatMap (·.tokens a.toolchain)) ∧
      a.wholeArchiveMarkers.strip trail =
        a.wholeArchiveMarkers.strip (after.flatMap (·.tokens a.toolchain)) := by
  rw [h.markedTokens_eq]
  obtain ⟨inside, linker, rfl⟩ | ⟨inside, runtime, rfl⟩ := append_eq_append_cons_cases place
  · refine ⟨a.writtenTokens whole (before.flatMap (·.tokens a.toolchain)),
      a.writtenTokens whole (inside.flatMap (·.tokens a.toolchain)) ++ a.regionEnd whole ++
        a.writtenTokens whole (a.runtimeInputs.flatMap (·.tokens a.toolchain)), ?_, ?_, ?_⟩
    · rw [linker, List.flatMap_append, List.flatMap_cons]
      simp only [writtenTokens_append, List.append_assoc]
    · exact strip_writtenTokens _ _
    · simp [strip_writtenTokens, strip_regionEnd]
  · refine ⟨a.writtenTokens whole (a.linkerInputs.flatMap (·.tokens a.toolchain)) ++
        a.regionEnd whole ++ a.writtenTokens whole (inside.flatMap (·.tokens a.toolchain)),
      a.writtenTokens whole (after.flatMap (·.tokens a.toolchain)), ?_, ?_, ?_⟩
    · rw [runtime, List.flatMap_append, List.flatMap_cons]
      simp only [writtenTokens_append, List.append_assoc]
    · simp [strip_writtenTokens, strip_regionEnd]
    · exact strip_writtenTokens _ _

theorem strip_frontOptions_append_libraryOptions (whole : Bool) :
    a.wholeArchiveMarkers.strip (a.frontOptions plan linked runtime whole ++
        a.libraryOptions plan) = a.wholeArchiveMarkers.strip (a.searchOptions plan) := by
  rw [h.frontOptions_eq_needsRoot, searchOptions]
  cases whole with
  | true => simp
  | false => rfl

end Contributes

/-- **Stand-ins among the inputs.** Every input has its place among the added options: behind the
search options and the tokens of the inputs before it, in front of the tokens of the inputs after it
and the linkopts, markers apart. A stand-in is there by its marked path, and nothing else, just if
its name is not that of a shared library; otherwise it is there by the name or the path that the
library would be linked by. Whatever begins with the mark is a stand-in, or the path of a file or of
an archive member passed in the place of its archive, with the mark in the path itself. -/
theorem standIn_of_appendInputOptions
    (success : a.appendInputOptions arguments whole includeLinkopts = .ok result) :
    ∃ plan, a.rpathPlan = .ok plan ∧
      ∀ before input after, a.inputs = before ++ input :: after →
        ∃ file lead trail, input.artifact = some file ∧
          result = arguments ++ lead ++ a.writtenTokens whole (input.tokens a.toolchain) ++ trail ∧
          a.wholeArchiveMarkers.strip lead = a.wholeArchiveMarkers.strip
            (a.searchOptions plan ++ before.flatMap (·.tokens a.toolchain)) ∧
          a.wholeArchiveMarkers.strip trail = a.wholeArchiveMarkers.strip
            (after.flatMap (·.tokens a.toolchain) ++ if includeLinkopts then a.linkopts else []) ∧
          (input = .fake (some file) →
            (input.tokens a.toolchain = [fakeObjectMark ++ file.execPath] ↔
              file.isDynamicLibrary = false) ∧
            (file.isDynamicLibrary = true →
              input.tokens a.toolchain = [dynamicToken file])) ∧
          ∀ token ∈ input.tokens a.toolchain, HasFakeObjectMark token →
            input = .fake (some file) ∧ file.isDynamicLibrary = false ∧
                token = fakeObjectMark ++ file.execPath ∨
              ∃ own, (own = file ∨ input.IsExpanded a.toolchain ∧ some own ∈ input.members) ∧
                token = own.execPath := by
  obtain ⟨plan, linked, runtime, hp, contributes, rfl⟩ := appendInputOptions_eq_ok success
  refine ⟨plan, hp, fun before input after place => ?_⟩
  have among : input ∈ a.inputs := place ▸ List.mem_append_right _ (.head _)
  obtain ⟨file, hf⟩ := Option.isSome_iff_exists.1 (contributes.isSome_artifact input among)
  obtain ⟨lead, trail, written, hlead, htrail⟩ := contributes.exists_markedTokens_eq place whole
  refine ⟨file, a.frontOptions plan linked runtime whole ++ a.libraryOptions plan ++ lead,
    trail ++ (if includeLinkopts then a.linkopts else []), hf, ?_, ?_, ?_, ?_, ?_⟩
  · rw [contributes.arrange_eq, written]
    simp only [List.append_assoc]
  · rw [WholeArchiveMarkers.strip_append, contributes.strip_frontOptions_append_libraryOptions,
      hlead, ← WholeArchiveMarkers.strip_append]
  · rw [WholeArchiveMarkers.strip_append, htrail, ← WholeArchiveMarkers.strip_append]
  · rintro rfl
    exact ⟨LinkerInput.tokens_fake_eq_iff, LinkerInput.tokens_of_dynamic rfl⟩
  · intro token ht marked
    rcases LinkerInput.hasFakeObjectMark_cases ht marked with
      ⟨standIn, rfl, static, rfl⟩ | ⟨own, named, rfl⟩
    · cases hf
      exact .inl ⟨rfl, static, rfl⟩
    · rw [hf, Option.some.injEq, eq_comm] at named
      exact .inr ⟨own, named, rfl⟩

/-- An executable. -/
def tracerTool : Artifact :=
  ⟨"buck-out/bin/tool/tracer", "buck-out/bin", by decide, by decide +kernel⟩

/-- Its own object. -/
def tracerMain : Artifact := ⟨"buck-out/bin/tool/main.o", "", by decide, .inl rfl⟩

/-- A stand-in for an object. -/
def tracerStandIn : Artifact := ⟨"buck-out/bin/tool/hook.o", "", by decide, .inl rfl⟩

/-- A stand-in for an always-link library. -/
def tracerAlways : Artifact := ⟨"buck-out/bin/tool/libtrace.lo", "", by decide, .inl rfl⟩

/-- A stand-in that is named like a shared library. -/
def tracerShared : Artifact := ⟨"buck-out/bin/_solib_k8/libhook.so", "", by decide, .inl rfl⟩

/-- The link of the executable with some inputs. -/
def tracerAction (linkerInputs runtimeInputs : List LinkerInput) : Action where
  toolchain := {}
  ownerLabel := "//tool:tracer"
  target := .executable
  staticness := .dynamic
  output := some tracerTool
  linkerInputs
  runtimeInputs

theorem standIn_tracerAction : ∃ result lead trail,
    (tracerAction [.plain (some tracerMain), .fake (some tracerStandIn)]
      [.fake (some tracerAlways)]).appendInputOptions ["gcc"] false true = .ok result ∧
    result = ["gcc"] ++ lead ++ ["fake:buck-out/bin/tool/hook.o"] ++ trail ∧
    WholeArchiveMarkers.strip ⟨"-Wl,-whole-archive", "-Wl,-no-whole-archive"⟩ lead =
      ["buck-out/bin/tool/main.o"] ∧
    WholeArchiveMarkers.strip ⟨"-Wl,-whole-archive", "-Wl,-no-whole-archive"⟩ trail =
      ["fake:buck-out/bin/tool/libtrace.lo"] := by
  have success : (tracerAction [.plain (some tracerMain), .fake (some tracerStandIn)]
      [.fake (some tracerAlways)]).appendInputOptions ["gcc"] false true = .ok ["gcc",
        "buck-out/bin/tool/main.o", "fake:buck-out/bin/tool/hook.o", "-Wl,-whole-archive",
        "fake:buck-out/bin/tool/libtrace.lo", "-Wl,-no-whole-archive"] := by
    decide +kernel
  obtain ⟨plan, hp, places⟩ := standIn_of_appendInputOptions success
  obtain ⟨file, lead, trail, hf, result, hlead, htrail, own, -⟩ :=
    places [.plain (some tracerMain)] (.fake (some tracerStandIn)) [.fake (some tracerAlways)] rfl
  cases hf
  have marked := (own rfl).1.2 (by decide +kernel)
  have written : (tracerAction [.plain (some tracerMain), .fake (some tracerStandIn)]
      [.fake (some tracerAlways)]).writtenTokens false [fakeObjectMark ++ tracerStandIn.execPath] =
        ["fake:buck-out/bin/tool/hook.o"] := by
    decide +kernel
  rw [marked, written] at result
  have plan_eq : (tracerAction [.plain (some tracerMain), .fake (some tracerStandIn)]
      [.fake (some tracerAlways)]).rpathPlan = .ok {
        solibDir := Path.parse "buck-out/bin/_solib_k8"
        runtimeSolibDir := none
        root := "-Wl,-rpath,$ORIGIN/../_solib_k8/"
        runtimeOption := none } := by
    decide +kernel
  cases hp.symm.trans plan_eq
  refine ⟨_, lead, trail, success, result, hlead.trans ?_, htrail.trans ?_⟩
  · decide +kernel
  · decide +kernel

/-- A stand-in that is named like a shared library is linked by its name, and cannot be told from
one. -/
theorem standIn_tracerShared : ∃ result,
    (tracerAction [.fake (some tracerShared)] []).appendInputOptions [] false false = .ok result ∧
      result = ["-Wl,-rpath,$ORIGIN/../_solib_k8/", "-Lbuck-out/bin/_solib_k8", "-lhook"] ∧
      "fake:buck-out/bin/_solib_k8/libhook.so" ∉ result ∧
      ∀ token ∈ result, ¬HasFakeObjectMark token := by
  have success : (tracerAction [.fake (some tracerShared)] []).appendInputOptions [] false false =
      .ok ["-Wl,-rpath,$ORIGIN/../_solib_k8/", "-Lbuck-out/bin/_solib_k8", "-lhook"] := by
    decide +kernel
  refine ⟨_, success, rfl, by decide, ?_⟩
  simp [HasFakeObjectMark, fakeObjectMark]

end Action
end LinkSynthesis
