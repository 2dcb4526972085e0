import LinkSynthesis.Json.Reader
import LinkSynthesis.Json.Text
import Mathlib.Algebra.Group.Nat.Defs
import Mathlib.Data.List.Basic

/-!
# JSON strings read back

The scanner of `Json.Token` is taken through what is written for a string. The text of one character
leaves it inside the string, with that character added (`takes_encodeChar`), so the text of a string
completes the token of that string, and the text of a list of strings reads as the array of them
(`parse_encodeStrings`). The text is printable ASCII, whatever the strings are
(`isPrinted_encodeStrings`).
-/

namespace LinkSynthesis.Json

namespace Token

/-- The text takes the scanner from one place to another and completes some tokens. -/
def Takes (place : Place) (text : List Char) (next : Place) (tokens : List Token) : Prop :=
  ∀ found rest, scanFrom place found (text ++ rest) = scanFrom next (tokens.reverse ++ found) rest

variable {place next last : Place} {text more : List Char} {tokens others : List Token} {c : Char}
  {done : List Char}

theorem takes_nil (place : Place) : Takes place [] place [] := fun _ _ => rfl

theorem takes_of_step (h : step place c = some (next, tokens)) : Takes place [c] next tokens := by
  intro found rest
  rw [List.singleton_append, scanFrom, h]

theorem Takes.append (h : Takes place text next tokens) (h' : Takes next more last others) :
    Takes place (text ++ more) last (tokens ++ others) := by
  intro found rest
  rw [List.append_assoc, h, h', List.reverse_append, List.append_assoc]

/-- A character in front that completes no token. -/
theorem Takes.behind (h : Takes next text last tokens) (first : step place c = some (next, [])) :
    Takes place (c :: text) last tokens :=
  (takes_of_step first).append h

/-! ### Escapes -/

/-- Up to the last digit of an escape, the scanner holds the value of the digits so far. -/
theorem takes_hexDigits {high : Option Nat} {width n : Nat} (short : width ≤ 3)
    (bound : n < 16 ^ width) :
    Takes (.unit done high 0 0) (Text.hexDigits width n) (.unit done high width n) [] := by
  induction width generalizing n with
  | zero =>
    rw [Nat.pow_zero, Nat.lt_one_iff] at bound
    subst bound
    exact takes_nil _
  | succ width ih =>
    rw [Nat.pow_succ] at bound
    refine (ih (by omega) (Nat.div_lt_of_lt_mul (Nat.mul_comm _ _ ▸ bound))).append
      (takes_of_step ?_)
    have value : 16 * (n / 16) + n % 16 = n := Nat.div_add_mod n 16
    have counted : width < 3 := by omega
    simp [step, Text.hexValue?_hexDigit _ (Nat.mod_lt n (by decide)), value, counted]

/-- The four digits of a UTF-16 unit. -/
theorem takes_unit {high : Option Nat} {unit : Nat} (bound : unit < 0x10000)
    (h : unitDone done high unit = some next) :
    Takes (.unit done high 0 0) (Text.hexDigits 4 unit) next [] := by
  have leading : Takes (.unit done high 0 0) (Text.hexDigits 3 (unit / 16))
      (.unit done high 3 (unit / 16)) [] := takes_hexDigits (Nat.le_refl _) (by omega)
  refine leading.append (takes_of_step ?_)
  have value : 16 * (unit / 16) + unit % 16 = unit := Nat.div_add_mod unit 16
  simp [step, Text.hexValue?_hexDigit _ (Nat.mod_lt unit (by decide)), value, h]

theorem takes_unitEscape {unit : Nat} (bound : unit < 0x10000)
    (h : unitDone done none unit = some next) : Takes (.string done) (unitEscape unit) next [] :=
  ((takes_unit bound h).behind rfl).behind rfl

theorem takes_unitEscape_half {high unit : Nat} (bound : unit < 0x10000)
    (h : unitDone done (some high) unit = some next) :
    Takes (.half done high) (unitEscape unit) next [] :=
  ((takes_unit bound h).behind rfl).behind rfl

/-- No character is half of a surrogate pair. -/
theorem toNat_lt_or_lt (c : Char) :
    c.toNat < 0xd800 ∨ 0xdfff < c.toNat ∧ c.toNat < 0x110000 := c.valid

/-- A character of the first plane is one unit. -/
theorem takes_unitEscape_char (h : c.toNat < 0x10000) :
    Takes (.string done) (unitEscape c.toNat) (.string (c :: done)) [] := by
  refine takes_unitEscape h ?_
  have whole := toNat_lt_or_lt c
  rw [unitDone, if_neg (by omega), if_neg (by omega), Char.ofNat_toNat]

/-- Any other character is the two halves of a surrogate pair. -/
theorem takes_surrogates (h : 0x10000 ≤ c.toNat) :
    Takes (.string done) (unitEscape (0xd800 + (c.toNat - 0x10000) / 0x400) ++
      unitEscape (0xdc00 + (c.toNat - 0x10000) % 0x400)) (.string (c :: done)) [] := by
  have whole := toNat_lt_or_lt c
  refine (takes_unitEscape (by omega) (if_pos (by omega))).append
    (takes_unitEscape_half (by omega) ?_)
  have value : 0x10000 + (0xd800 + (c.toNat - 0x10000) / 0x400 - 0xd800) * 0x400 +
      (0xdc00 + (c.toNat - 0x10000) % 0x400 - 0xdc00) = c.toNat := by
    omega
  rw [unitDone, if_pos (by omega), value, Char.ofNat_toNat]

/-! ### Strings -/

/-- What is written for a character reads as that character. -/
theorem takes_encodeChar (c : Char) (done : List Char) :
    Takes (.string done) (encodeChar c) (.string (c :: done)) [] := by
  unfold encodeChar
  split
  -- The short escapes first: a backslash and a letter.
  iterate 7 exact fun _ _ => rfl
  next quote backslash _ _ _ _ _ =>
    split
    · next printed =>
      refine takes_of_step ?_
      rw [step, if_neg quote, if_neg backslash, if_neg (by omega)]
    · split
      · next plane => exact takes_unitEscape_char plane
      · next astral => exact takes_surrogates (by omega)

theorem takes_flatMap_encodeChar (text done : List Char) :
    Takes (.string done) (text.flatMap encodeChar) (.string (text.reverse ++ done)) [] := by
  induction text generalizing done with
  | nil => exact takes_nil _
  | cons c text ih =>
    rw [List.flatMap_cons, List.reverse_cons, List.append_assoc]
    exact (takes_encodeChar c done).append (ih (c :: done))

theorem takes_encodeString (text : String) :
    Takes .between (encodeString text).toList .between [.scalar (.str text)] := by
  rw [encodeString, String.toList_ofList]
  refine ((takes_flatMap_encodeChar text.toList []).append (takes_of_step ?_)).behind rfl
  simp [step]

/-! ### Lists of strings -/

/-- The tokens of strings with commas between them. -/
def itemTokens (texts : List String) : List Token :=
  (texts.map fun text => .scalar (.str text)).intersperse .comma

theorem takes_intercalate (texts : List String) :
    Takes .between (", ".intercalate (texts.map encodeString)).toList .between
      (itemTokens texts) := by
  induction texts with
  | nil => exact takes_nil _
  | cons text texts ih =>
    cases texts with
    | nil => exact takes_encodeString text
    | cons next texts =>
      rw [List.map_cons, List.map_cons, String.intercalate_cons_cons, ← List.map_cons,
        String.toList_append, String.toList_append, List.append_assoc]
      have separator : Takes .between ", ".toList .between [.comma] := fun _ _ => rfl
      exact (takes_encodeString text).append (separator.append ih)

theorem scan_encodeStrings (texts : List String) :
    scan (encodeStrings texts).toList =
      some (.openArray :: (itemTokens texts ++ [.closeArray])) := by
  have taken : Takes .between (encodeStrings texts).toList .between
      (.openArray :: (itemTokens texts ++ [.closeArray])) := by
    rw [encodeStrings, String.toList_append, String.toList_append, List.append_assoc]
    have opening : Takes .between "[".toList .between [.openArray] := fun _ _ => rfl
    have closing : Takes .between "]".toList .between [.closeArray] := fun _ _ => rfl
    exact opening.append ((takes_intercalate texts).append closing)
  have ended := taken [] []
  rw [List.append_nil, List.append_nil] at ended
  simp [scan, ended, scanFrom, finish?]

end Token

namespace Reader

/-- Inside an array, strings with commas between them are its further items. -/
theorem run_itemTokens (text : String) (texts : List String) (done : List Value) :
    run ⟨.value, [.array done]⟩ (Token.itemTokens (text :: texts) ++ [.closeArray]) =
      some (.arr (done.reverse ++ (text :: texts).map .str)) := by
  induction texts generalizing text done with
  | nil =>
    have closed : Frame.close (.str text) (.array done) =
        .arr (done.reverse ++ [text].map .str) := by
      simp [Frame.close]
    rw [← closed]
    rfl
  | cons next texts ih =>
    have behind : done.reverse ++ (text :: next :: texts).map Value.str =
        (.str text :: done).reverse ++ (next :: texts).map .str := by
      simp
    rw [behind, ← ih]
    rfl

end Reader

/-- **Lists of strings read back.** -/
theorem parse_encodeStrings (texts : List String) :
    parse (encodeStrings texts) = some (.arr (texts.map .str)) := by
  rw [parse, Token.scan_encodeStrings, Option.bind_some]
  cases texts with
  | nil => rfl
  | cons text texts =>
    -- The first item of an array is read like an item behind a comma.
    have first : Reader.run ⟨.value, []⟩
          (.openArray :: (Token.itemTokens (text :: texts) ++ [.closeArray])) =
        Reader.run ⟨.value, [.array []]⟩ (Token.itemTokens (text :: texts) ++ [.closeArray]) := by
      cases texts <;> rfl
    rw [first, Reader.run_itemTokens]
    rfl

/-! ### Printable texts -/

/-- The character is one of ASCII that is printed. -/
def IsPrinted (c : Char) : Prop := 0x20 ≤ c.toNat ∧ c.toNat < 0x7f

instance : DecidablePred IsPrinted := fun c =>
  inferInstanceAs (Decidable (0x20 ≤ c.toNat ∧ c.toNat < 0x7f))

theorem isPrinted_hexDigits (width n : Nat) : ∀ c ∈ Text.hexDigits width n, IsPrinted c := by
  have digit : ∀ n < 16, IsPrinted (Text.hexDigit n) := by decide
  induction width generalizing n with
  | zero => exact List.forall_mem_nil _
  | succ width ih =>
    rw [Text.hexDigits, List.forall_mem_append, List.forall_mem_singleton]
    exact ⟨ih _, digit _ (Nat.mod_lt n (by decide))⟩

theorem isPrinted_unitEscape (unit : Nat) : ∀ c ∈ unitEscape unit, IsPrinted c :=
  List.forall_mem_cons.2 ⟨by decide, List.forall_mem_cons.2 ⟨by decide, isPrinted_hexDigits 4 unit⟩⟩

theorem isPrinted_encodeChar (c : Char) : ∀ d ∈ encodeChar c, IsPrinted d := by
  unfold encodeChar
  split
  iterate 7 simp [IsPrinted]
  split
  · next printed => exact List.forall_mem_singleton.2 printed
  · split
    · exact isPrinted_unitEscape _
    · exact List.forall_mem_append.2 ⟨isPrinted_unitEscape _, isPrinted_unitEscape _⟩

theorem isPrinted_encodeString (text : String) : ∀ c ∈ (encodeString text).toList, IsPrinted c := by
  rw [encodeString, String.toList_ofList]
  refine List.forall_mem_cons.2 ⟨by decide, List.forall_mem_append.2
    ⟨fun d hd => ?_, List.forall_mem_singleton.2 (by decide)⟩⟩
  obtain ⟨c, -, hd⟩ := List.mem_flatMap.1 hd
  exact isPrinted_encodeChar c d hd

theorem isPrinted_encodeStrings (texts : List String) :
    ∀ c ∈ (encodeStrings texts).toList, IsPrinted c := by
  have items : ∀ c ∈ (", ".intercalate (texts.map encodeString)).toList, IsPrinted c := by
    induction texts with
    | nil => exact List.forall_mem_nil _
    | cons text texts ih =>
      cases texts with
      | nil => exact isPrinted_encodeString text
      | cons next texts =>
        rw [List.map_cons, List.map_cons, String.intercalate_cons_cons, ← List.map_cons,
          String.toList_append, String.toList_append, List.forall_mem_append,
          List.forall_mem_append]
        exact ⟨⟨isPrinted_encodeString text, by simp [IsPrinted]⟩, ih⟩
  rw [encodeStrings, String.toList_append, String.toList_append, List.forall_mem_append,
    List.forall_mem_append]
  exact ⟨⟨by simp [IsPrinted], items⟩, by simp [IsPrinted]⟩

end LinkSynthesis.Json
