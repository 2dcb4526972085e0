import Mathlib.Data.List.Perm.Basic

/-!
# Results that may fail

How a result is taken apart: a success into the results of its steps, and for a list into the
results of its elements; a failure into the first step that fails. Two results are alike if they are
the same error, or values that belong together.
-/

namespace LinkSynthesis

variable {ε α β γ δ : Type}

@[simp] theorem except_bind_ok (x : α) (f : α → Except ε β) : (Except.ok x >>= f) = f x := rfl

@[simp] theorem except_bind_error (e : ε) (f : α → Except ε β) :
    (Except.error e >>= f) = .error e := rfl

@[simp] theorem except_pure (x : α) : (pure x : Except ε α) = .ok x := rfl

@[simp] theorem except_throw (e : ε) : (throw e : Except ε α) = .error e := rfl

/-- A chain succeeds when each of its two parts does. -/
theorem bind_eq_ok_iff {x : Except ε α} {f : α → Except ε β} {y : β} :
    x >>= f = .ok y ↔ ∃ v, x = .ok v ∧ f v = .ok y := by
  cases x <;> simp

theorem map_eq_ok_iff {x : Except ε α} {f : α → β} {y : β} :
    x.map f = .ok y ↔ ∃ v, x = .ok v ∧ f v = y := by
  cases x <;> simp [Except.map]

theorem mapError_eq_ok_iff {ε' : Type} {x : Except ε α} {f : ε → ε'} {y : α} :
    x.mapError f = .ok y ↔ x = .ok y := by
  cases x <;> simp [Except.mapError]

theorem exists_eq_ok_iff {x : Except ε α} : (∃ v, x = .ok v) ↔ ∀ e, x ≠ .error e := by
  cases x <;> simp

/-- A list of steps succeeds when each step does, and gives their results in order. -/
theorem mapM_eq_ok_iff {f : α → Except ε β} {l : List α} {r : List β} :
    l.mapM f = .ok r ↔ List.Forall₂ (fun x y => f x = .ok y) l r := by
  induction l generalizing r with
  | nil => simp [eq_comm]
  | cons x l ih =>
    rw [List.mapM_cons, bind_eq_ok_iff]
    constructor
    · rintro ⟨y, hy, h⟩
      obtain ⟨ys, hys, h⟩ := bind_eq_ok_iff.1 h
      cases h
      exact .cons hy (ih.1 hys)
    · rintro (_ | ⟨hy, hys⟩)
      exact ⟨_, hy, bind_eq_ok_iff.2 ⟨_, ih.2 hys, rfl⟩⟩

theorem exists_right_of_forall₂ {R : α → β → Prop} {l : List α} {r : List β}
    (h : List.Forall₂ R l r) {x : α} (hx : x ∈ l) : ∃ y ∈ r, R x y := by
  induction h with
  | nil => cases hx
  | @cons x' y l r hy _ ih =>
    rcases List.mem_cons.1 hx with rfl | hx
    · exact ⟨y, .head _, hy⟩
    · obtain ⟨y, hr, hy⟩ := ih hx
      exact ⟨y, .tail _ hr, hy⟩

/-- Each element of the list has its result among the results. -/
theorem exists_result_of_mem {f : α → Except ε β} {l : List α} {r : List β} (h : l.mapM f = .ok r)
    {x : α} (hx : x ∈ l) : ∃ y ∈ r, f x = .ok y :=
  exists_right_of_forall₂ (mapM_eq_ok_iff.1 h) hx

/-- Each result is the result of an element of the list. -/
theorem exists_of_mem_results {f : α → Except ε β} {l : List α} {r : List β}
    (h : l.mapM f = .ok r) {y : β} (hy : y ∈ r) : ∃ x ∈ l, f x = .ok y :=
  exists_right_of_forall₂ (R := flip fun x y => f x = .ok y) (mapM_eq_ok_iff.1 h).flip hy

/-- A list of steps has results if each step has one. -/
theorem exists_mapM_eq_ok {f : α → Except ε β} {l : List α} (h : ∀ x ∈ l, ∃ y, f x = .ok y) :
    ∃ r, l.mapM f = .ok r := by
  induction l with
  | nil => exact ⟨_, rfl⟩
  | cons x l ih =>
    obtain ⟨y, hy⟩ := h x (.head _)
    obtain ⟨r, hr⟩ := ih fun z hz => h z (.tail _ hz)
    exact ⟨y :: r, mapM_eq_ok_iff.2 (.cons hy (mapM_eq_ok_iff.1 hr))⟩

/-- Steps that undo what was done to each element give the list again. -/
theorem mapM_map_eq_ok {f : β → Except ε α} {g : α → β} {l : List α}
    (h : ∀ x ∈ l, f (g x) = .ok x) : (l.map g).mapM f = .ok l := by
  rw [mapM_eq_ok_iff, List.forall₂_map_left_iff, List.forall₂_same]
  exact h

/-- Steps in another order have the same results in another order. -/
theorem exists_mapM_of_perm {f : α → Except ε β} {l l' : List α} {r : List β} (order : l.Perm l')
    (h : l.mapM f = .ok r) : ∃ r', l'.mapM f = .ok r' ∧ r.Perm r' := by
  obtain ⟨r', hr', order'⟩ := List.perm_comp_forall₂ order.symm (mapM_eq_ok_iff.1 h)
  exact ⟨r', mapM_eq_ok_iff.2 hr', order'.symm⟩

/-- A list of steps fails with the error of the first step that has one. -/
theorem mapM_eq_error_iff {f : α → Except ε β} {error? : α → Option ε} {l : List α}
    (h : ∀ x ∈ l, ∀ e, f x = .error e ↔ error? x = some e) {e : ε} :
    l.mapM f = .error e ↔ l.findSome? error? = some e := by
  induction l with
  | nil => simp
  | cons x l ih =>
    have first := h x (.head _)
    rw [List.mapM_cons, List.findSome?_cons]
    cases hx : f x with
    | error e' =>
      rw [(first e').1 hx, except_bind_error]
      simp
    | ok v =>
      have none : error? x = none := by
        rw [Option.eq_none_iff_forall_ne_some]
        intro e' he
        cases hx.symm.trans ((first e').2 he)
      rw [none, except_bind_ok, ← ih fun y hy => h y (.tail _ hy)]
      cases l.mapM f <;> simp

/-- The first step that fails, with the steps before it. -/
theorem mapM_eq_error_iff_exists {f : α → Except ε β} {l : List α} {e : ε} :
    l.mapM f = .error e ↔ ∃ before x after, l = before ++ x :: after ∧
      (∀ y ∈ before, ∃ v, f y = .ok v) ∧ f x = .error e := by
  let error? (x : α) : Option ε := match f x with
    | .error e => some e
    | .ok _ => none
  have fails (x : α) (e : ε) : f x = .error e ↔ error? x = some e := by
    cases h : f x <;> simp [error?, h]
  have succeeds (x : α) : (∃ v, f x = .ok v) ↔ error? x = none := by
    cases h : f x <;> simp [error?, h]
  rw [mapM_eq_error_iff fun x _ => fails x, List.findSome?_eq_some_iff]
  simp only [succeeds, fails]
  constructor
  · rintro ⟨before, x, after, split, failed, ok⟩
    exact ⟨before, x, after, split, ok, failed⟩
  · rintro ⟨before, x, after, split, ok, failed⟩
    exact ⟨before, x, after, split, failed, ok⟩

/-- Steps in a row have no error that none of them has. -/
theorem bind_ne_error {x : Except ε α} {f : α → Except ε β} {e : ε} (first : x ≠ .error e)
    (rest : ∀ v, f v ≠ .error e) : x >>= f ≠ .error e := by
  cases x with
  | ok v => exact rest v
  | error e' =>
    rintro ⟨⟩
    exact first rfl

theorem mapM_ne_error {f : α → Except ε β} {l : List α} {e : ε} (h : ∀ x ∈ l, f x ≠ .error e) :
    l.mapM f ≠ .error e := by
  intro failed
  obtain ⟨before, x, after, rfl, -, hx⟩ := mapM_eq_error_iff_exists.1 failed
  exact h x (List.mem_append_right _ (.head _)) hx

/-! ### Two results -/

/-- Two results with the same error, or with values in a relation. -/
def Alike (R : α → β → Prop) (x : Except ε α) (y : Except ε β) : Prop :=
  match x, y with
  | .ok v, .ok w => R v w
  | .error e, .error e' => e = e'
  | _, _ => False

variable {R : α → β → Prop} {S : γ → δ → Prop} {x : Except ε α} {y : Except ε β}

theorem Alike.cases (h : Alike R x y) :
    (∃ e, x = .error e ∧ y = .error e) ∨ ∃ v w, x = .ok v ∧ y = .ok w ∧ R v w := by
  cases x with
  | ok v =>
    cases y with
    | ok w => exact .inr ⟨v, w, rfl, rfl, h⟩
    | error e => exact h.elim
  | error e =>
    cases y with
    | ok w => exact h.elim
    | error e' =>
      cases h
      exact .inl ⟨e, rfl, rfl⟩

/-- Steps in a row are alike if they are alike one by one. -/
theorem Alike.bind {f : α → Except ε γ} {g : β → Except ε δ} (first : Alike R x y)
    (rest : ∀ v w, x = .ok v → y = .ok w → R v w → Alike S (f v) (g w)) :
    Alike S (x >>= f) (y >>= g) := by
  obtain ⟨e, rfl, rfl⟩ | ⟨v, w, rfl, rfl, related⟩ := first.cases
  · rfl
  · exact rest v w rfl rfl related

theorem alike_refl {R : α → α → Prop} (h : ∀ v, R v v) (x : Except ε α) : Alike R x x := by
  cases x with
  | ok v => exact h v
  | error e => rfl

/-- Steps that begin with one and the same step are alike if what follows it is. -/
theorem alike_bind_self {f : α → Except ε γ} {g : α → Except ε δ}
    (rest : ∀ v, x = .ok v → Alike S (f v) (g v)) : Alike S (x >>= f) (x >>= g) := by
  cases x with
  | ok v => exact rest v rfl
  | error e => rfl

theorem alike_mapM {f : γ → Except ε α} {g : γ → Except ε β} {l : List γ}
    (h : ∀ z ∈ l, Alike R (f z) (g z)) : Alike (List.Forall₂ R) (l.mapM f) (l.mapM g) := by
  induction l with
  | nil => exact .nil
  | cons z l ih =>
    obtain ⟨first, others⟩ := List.forall_mem_cons.1 h
    rw [List.mapM_cons, List.mapM_cons]
    refine first.bind fun v w _ _ related => (ih others).bind fun vs ws _ _ all => ?_
    exact .cons related all

end LinkSynthesis
