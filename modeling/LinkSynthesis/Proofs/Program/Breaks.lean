import LinkSynthesis.Program.Run
import LinkSynthesis.Proofs.Results

/-!
# Successes and breaks

A step of a run succeeds, is stopped by an error that is reported, or breaks off. A condition
separates successes from breaks if every success meets it and no break does; where an error is
reported, it may hold or not. Steps in a row are separated by the conditions of all of them, so the
condition of a whole run is found step by step.
-/

namespace LinkSynthesis.Program

variable {ε ε' α β : Type} {reported : ε → Bool} {x : Except ε α} {f : α → Except ε β} {P Q : Prop}

/-- The condition is met if the step succeeds and is not if it breaks off. -/
def Separates (reported : ε → Bool) (x : Except ε α) (P : Prop) : Prop :=
  match x with
  | .ok _ => P
  | .error e => reported e = true ∨ ¬P

theorem separates_ok {v : α} : Separates reported (.ok v) P ↔ P := Iff.rfl

theorem separates_error {e : ε} :
    Separates reported (.error e : Except ε α) P ↔ reported e = true ∨ ¬P := Iff.rfl

/-- A step all of whose errors are reported has no condition. -/
theorem separates_true (h : ∀ e, x = .error e → reported e = true) :
    Separates reported x True := by
  cases x with
  | ok v => trivial
  | error e => exact .inl (h e rfl)

theorem Separates.congr (h : Separates reported x P) (same : P ↔ Q) : Separates reported x Q :=
  propext same ▸ h

theorem Separates.of_ok {v : α} (h : Separates reported x P) (given : x = .ok v) : P := by
  subst given
  exact h

/-- A first step whose condition is needed leaves the rest to what comes after its success. -/
theorem Separates.bind_of_ok (first : Separates reported x P) (needed : Q → P)
    (rest : ∀ v, x = .ok v → Separates reported (f v) Q) : Separates reported (x >>= f) Q := by
  cases x with
  | error e => exact first.imp_right (mt needed)
  | ok v => exact rest v rfl

/-- Steps in a row are separated by both conditions. -/
theorem Separates.bind (first : Separates reported x P) (rest : ∀ v, Separates reported (f v) Q) :
    Separates reported (x >>= f) (P ∧ Q) :=
  first.bind_of_ok And.left fun v given =>
    (rest v).congr ⟨fun h => ⟨first.of_ok given, h⟩, And.right⟩

theorem Separates.map (h : Separates reported x P) (g : α → β) :
    Separates reported (x.map g) P := by
  cases x <;> exact h

theorem Separates.bind_pure (h : Separates reported x P) (g : α → β) :
    Separates reported (x >>= fun v => pure (g v)) P := by
  cases x <;> exact h

theorem Separates.mapError {reported : ε' → Bool} (g : ε → ε')
    (h : Separates (fun e => reported (g e)) x P) : Separates reported (x.mapError g) P := by
  cases x <;> exact h

/-- A step for each element is separated by the conditions of all elements. -/
theorem separates_mapM {γ : Type} {g : γ → Except ε β} {R : γ → Prop} {l : List γ}
    (h : ∀ z ∈ l, Separates reported (g z) (R z)) :
    Separates reported (l.mapM g) (∀ z ∈ l, R z) := by
  induction l with
  | nil => exact List.forall_mem_nil R
  | cons z l ih =>
    obtain ⟨first, others⟩ := List.forall_mem_cons.1 h
    rw [List.mapM_cons, List.forall_mem_cons]
    exact first.bind fun y => (ih others).bind_pure (y :: ·)

end LinkSynthesis.Program
