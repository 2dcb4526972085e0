import Mathlib.Data.List.Basic

/-!
# Elements at their first use

Lists from which repeated elements are dropped, so that each element stands once, where it is used
first: nothing is in such a list twice, a search does not notice what was dropped, and what was
there before leaves no trace.
-/

namespace LinkSynthesis

variable {α : Type} [BEq α]

/-- Induction the way repeated elements are dropped: all that equals the first element goes at
once. -/
theorem eraseDups_induction {motive : List α → Prop} (nil : motive [])
    (cons : ∀ x l, motive (l.filter fun y => !y == x) → motive (x :: l)) (l : List α) :
    motive l := by
  induction h : l.length using Nat.strongRecOn generalizing l with
  | ind n ih =>
    cases l with
    | nil => exact nil
    | cons x l =>
      have shorter : (l.filter fun y => !y == x).length < n :=
        h ▸ Nat.lt_succ_of_le (List.length_filter_le _ l)
      exact cons x l (ih _ shorter _ rfl)

variable [LawfulBEq α]

theorem nodup_eraseDups (l : List α) : l.eraseDups.Nodup := by
  induction l using eraseDups_induction with
  | nil => exact .nil
  | cons x l ih =>
    rw [List.eraseDups_cons, List.nodup_cons]
    refine ⟨?_, ih⟩
    rw [List.mem_eraseDups, List.mem_filter]
    simp

/-- What stands in front already leaves no trace. -/
theorem eraseDups_append_append {l again : List α} (h : again ⊆ l) (rest : List α) :
    (l ++ (again ++ rest)).eraseDups = (l ++ rest).eraseDups := by
  have gone : again.removeAll l = [] := by
    rw [List.removeAll, List.filter_eq_nil_iff]
    intro x hx
    simp [h hx]
  have behind : (again ++ rest).removeAll l = rest.removeAll l := by
    rw [List.removeAll, List.filter_append]
    exact (congrArg (· ++ _) gone).trans (List.nil_append _)
  rw [List.eraseDups_append, behind, ← List.eraseDups_append]

/-! ### First hits -/

variable {p : α → Bool}

/-- The first of equal elements is found, so the others can go. -/
theorem find?_eraseDups (l : List α) : l.eraseDups.find? p = l.find? p := by
  induction l using eraseDups_induction with
  | nil => rfl
  | cons x l ih =>
    rw [List.eraseDups_cons, List.find?_cons, List.find?_cons]
    cases hx : p x with
    | true => rfl
    | false =>
      dsimp only
      rw [ih, List.find?_filter]
      refine congrArg (List.find? · l) (funext fun y => ?_)
      by_cases hy : y = x
      · simp [hy, hx]
      · simp [hy]

/-- What is found comes first of all that could be found. -/
theorem find?_eq_some_iff_idxOf_le {l : List α} {x : α} (hx : x ∈ l) (hp : p x = true) :
    l.find? p = some x ↔ ∀ y ∈ l, p y = true → l.idxOf x ≤ l.idxOf y := by
  induction l with
  | nil => cases hx
  | cons z l ih =>
    rw [List.find?_cons]
    cases hz : p z with
    | true =>
      simp only [Option.some.injEq]
      constructor
      · rintro rfl y _ _
        simp
      · intro first
        by_contra apart
        have later := first z (.head _) hz
        rw [List.idxOf_cons_ne _ apart, List.idxOf_cons_self] at later
        omega
    | false =>
      have apart {y : α} (hy : p y = true) : z ≠ y := by
        rintro rfl
        cases hz.symm.trans hy
      dsimp only
      rw [ih ((List.mem_cons.1 hx).resolve_left (apart hp).symm), List.forall_mem_cons]
      constructor
      · intro first
        refine ⟨fun h => absurd rfl (apart h), fun y hy h => ?_⟩
        rw [List.idxOf_cons_ne _ (apart hp), List.idxOf_cons_ne _ (apart h)]
        exact Nat.succ_le_succ (first y hy h)
      · rintro ⟨-, first⟩ y hy h
        have later := first y hy h
        rw [List.idxOf_cons_ne _ (apart hp), List.idxOf_cons_ne _ (apart h)] at later
        exact Nat.le_of_succ_le_succ later

end LinkSynthesis
