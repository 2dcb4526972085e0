/-!
# Text patterns

Patterns over characters: single characters by class, sequence, alternative and repetition.
Matching takes one derivative for each character of the text, so it is a plain recursion on the
text. `Pattern.Matches` says which texts a pattern describes; `accepts_iff` ties the two.
-/

namespace LinkSynthesis.Text

/-- A pattern over characters. -/
inductive Pattern where
  /-- The pattern of no text. -/
  | fail
  /-- The pattern of the empty text. -/
  | empty
  /-- One character of a class. -/
  | one (ok : Char → Bool)
  | seq (p q : Pattern)
  | alt (p q : Pattern)
  /-- Any number of repetitions, none included. -/
  | many (p : Pattern)

namespace Pattern

/-- The texts that a pattern describes. -/
inductive Matches : Pattern → List Char → Prop where
  | empty : Matches .empty []
  | one {ok : Char → Bool} {c : Char} : ok c = true → Matches (.one ok) [c]
  | seq {p q : Pattern} {s t : List Char} : Matches p s → Matches q t → Matches (.seq p q) (s ++ t)
  | left {p q : Pattern} {s : List Char} : Matches p s → Matches (.alt p q) s
  | right {p q : Pattern} {s : List Char} : Matches q s → Matches (.alt p q) s
  | manyNil {p : Pattern} : Matches (.many p) []
  | manyCons {p : Pattern} {s t : List Char} :
      Matches p s → Matches (.many p) t → Matches (.many p) (s ++ t)

/-- The pattern describes the empty text. -/
def nullable : Pattern → Bool
  | fail => false
  | empty => true
  | one _ => false
  | seq p q => p.nullable && q.nullable
  | alt p q => p.nullable || q.nullable
  | many _ => true

/-- A sequence, kept small: nothing follows a pattern of no text. -/
def followedBy : Pattern → Pattern → Pattern
  | fail, _ => fail
  | empty, q => q
  | p, q => seq p q

/-- An alternative, kept small: a pattern of no text is no choice. -/
def orElse : Pattern → Pattern → Pattern
  | fail, q => q
  | p, fail => p
  | p, q => alt p q

/-- What is left of the pattern after the character `c`. -/
def deriv (c : Char) : Pattern → Pattern
  | fail => fail
  | empty => fail
  | one ok => if ok c then empty else fail
  | seq p q =>
    if p.nullable then orElse (followedBy (p.deriv c) q) (q.deriv c)
    else followedBy (p.deriv c) q
  | alt p q => orElse (p.deriv c) (q.deriv c)
  | many p => followedBy (p.deriv c) (many p)

/-- Decides whether the pattern describes the whole text. -/
def accepts (p : Pattern) : List Char → Bool
  | [] => p.nullable
  | c :: s => (p.deriv c).accepts s

/-- As `accepts`, but one line break may stand at the end of the text. -/
def acceptsLine (p : Pattern) (s : List Char) : Bool :=
  p.accepts s || (s.getLast? == some '\n' && p.accepts s.dropLast)

/-! ### Building patterns -/

/-- A character other than a line break. -/
def inLine : Pattern := one (· != '\n')

/-- At least one repetition. -/
def oneOrMore (p : Pattern) : Pattern := seq p (many p)

/-- The pattern, or nothing. -/
def optional (p : Pattern) : Pattern := alt p empty

/-- Exactly the given text. -/
def literal (text : String) : Pattern :=
  text.toList.foldr (fun c p => seq (one (· == c)) p) empty

/-! ### The matcher decides the description -/

theorem nullable_iff {p : Pattern} : p.nullable = true ↔ Matches p [] := by
  induction p with
  | fail => exact ⟨nofun, nofun⟩
  | empty => exact ⟨fun _ => .empty, fun _ => rfl⟩
  | one ok => exact ⟨nofun, nofun⟩
  | seq p q hp hq =>
    rw [nullable, Bool.and_eq_true, hp, hq]
    constructor
    · exact fun h => .seq (s := []) (t := []) h.1 h.2
    · intro h
      generalize hs : ([] : List Char) = s at h
      cases h with
      | seq h₁ h₂ =>
        obtain ⟨rfl, rfl⟩ := List.append_eq_nil_iff.1 hs.symm
        exact ⟨h₁, h₂⟩
  | alt p q hp hq =>
    rw [nullable, Bool.or_eq_true, hp, hq]
    exact ⟨fun h => h.elim .left .right, fun | .left h => .inl h | .right h => .inr h⟩
  | many p _ => exact ⟨fun _ => .manyNil, fun _ => rfl⟩

theorem matches_seq_iff {p q : Pattern} {s : List Char} :
    Matches (.seq p q) s ↔ ∃ u v, s = u ++ v ∧ Matches p u ∧ Matches q v := by
  constructor
  · rintro (_ | _ | ⟨h₁, h₂⟩)
    exact ⟨_, _, rfl, h₁, h₂⟩
  · rintro ⟨u, v, rfl, h₁, h₂⟩
    exact .seq h₁ h₂

theorem matches_alt_iff {p q : Pattern} {s : List Char} :
    Matches (.alt p q) s ↔ Matches p s ∨ Matches q s :=
  ⟨fun | .left h => .inl h | .right h => .inr h, fun h => h.elim .left .right⟩

theorem matches_followedBy_iff {p q : Pattern} {s : List Char} :
    Matches (p.followedBy q) s ↔ Matches (.seq p q) s := by
  unfold followedBy
  split
  · rw [matches_seq_iff]
    exact ⟨nofun, fun ⟨_, _, _, h, _⟩ => nomatch h⟩
  · rw [matches_seq_iff]
    constructor
    · exact fun h => ⟨[], s, rfl, .empty, h⟩
    · rintro ⟨u, v, rfl, h₁, h₂⟩
      cases h₁
      exact h₂
  · rfl

theorem matches_orElse_iff {p q : Pattern} {s : List Char} :
    Matches (p.orElse q) s ↔ Matches p s ∨ Matches q s := by
  unfold orElse
  split
  · exact ⟨.inr, fun h => h.elim nofun id⟩
  · exact ⟨.inl, fun h => h.elim id nofun⟩
  · exact matches_alt_iff

/-- A repetition that starts with `c` starts with a non-empty round that does. -/
theorem matches_many_cons {p : Pattern} {c : Char} {s : List Char}
    (h : Matches (.many p) (c :: s)) :
    ∃ u v, s = u ++ v ∧ Matches p (c :: u) ∧ Matches (.many p) v := by
  generalize hr : Pattern.many p = r at h
  generalize ht : c :: s = t at h
  induction h with
  | manyNil => cases ht
  | @manyCons p' u v h₁ h₂ _ ih =>
    cases u with
    | nil => exact ih hr ht
    | cons d u =>
      obtain ⟨rfl, rfl⟩ := List.cons.inj ht
      cases hr
      exact ⟨u, v, rfl, h₁, h₂⟩
  | _ => cases hr

theorem matches_deriv_iff {c : Char} {p : Pattern} {s : List Char} :
    Matches (p.deriv c) s ↔ Matches p (c :: s) := by
  induction p generalizing s with
  | fail => exact ⟨nofun, nofun⟩
  | empty => exact ⟨nofun, nofun⟩
  | one ok =>
    rw [deriv]
    split
    · next h => exact ⟨fun hs => by cases hs; exact .one h, fun hs => by cases hs; exact .empty⟩
    · next h => exact ⟨nofun, fun hs => by cases hs; contradiction⟩
  | seq p q hp hq =>
    have split : Matches (.seq p q) (c :: s) ↔
        (Matches p [] ∧ Matches q (c :: s)) ∨
          ∃ u v, s = u ++ v ∧ Matches p (c :: u) ∧ Matches q v := by
      rw [matches_seq_iff]
      constructor
      · rintro ⟨u, v, h, h₁, h₂⟩
        cases u with
        | nil => exact .inl ⟨h₁, by rw [h]; exact h₂⟩
        | cons d u =>
          obtain ⟨rfl, rfl⟩ := List.cons.inj h
          exact .inr ⟨u, v, rfl, h₁, h₂⟩
      · rintro (⟨h₁, h₂⟩ | ⟨u, v, rfl, h₁, h₂⟩)
        · exact ⟨[], _, rfl, h₁, h₂⟩
        · exact ⟨c :: u, v, rfl, h₁, h₂⟩
    have first : Matches ((p.deriv c).followedBy q) s ↔
        ∃ u v, s = u ++ v ∧ Matches p (c :: u) ∧ Matches q v := by
      simp only [matches_followedBy_iff, matches_seq_iff, hp]
    rw [split, deriv]
    split
    · next h => rw [matches_orElse_iff, first, hq, ← nullable_iff, h, or_comm]; simp
    · next h => rw [first, ← nullable_iff]; simp [h]
  | alt p q hp hq => rw [deriv, matches_orElse_iff, matches_alt_iff, hp, hq]
  | many p hp =>
    rw [deriv, matches_followedBy_iff, matches_seq_iff]
    constructor
    · rintro ⟨u, v, rfl, h₁, h₂⟩
      exact .manyCons (hp.1 h₁) h₂
    · intro h
      obtain ⟨u, v, rfl, h₁, h₂⟩ := matches_many_cons h
      exact ⟨u, v, rfl, hp.2 h₁, h₂⟩

/-- The matcher decides exactly the described texts. -/
theorem accepts_iff {p : Pattern} {s : List Char} : p.accepts s = true ↔ Matches p s := by
  induction s generalizing p with
  | nil => exact nullable_iff
  | cons c s ih => rw [accepts, ih, matches_deriv_iff]

end Pattern
end LinkSynthesis.Text
