import BrokenLinks.Json
import Mathlib.Data.List.Basic
import Mathlib.Tactic.IntervalCases

/-! What is printed of a JSON value, part by part: its characters and numbers, and its lists. -/

set_option autoImplicit false

namespace BrokenLinks.Json

/-- Case by case, with the values inside an array or an object at hand. -/
@[elab_as_elim]
theorem nested_induction {motive : Json → Prop} (bool : ∀ value, motive (.bool value))
    (number : ∀ value, motive (.number value)) (string : ∀ value, motive (.string value))
    (array : ∀ items : List Json, (∀ item ∈ items, motive item) → motive (.array items))
    (object : ∀ members : List (String × Json), (∀ member ∈ members, motive member.2) →
      motive (.object members)) : ∀ value, motive value
  | .bool value => bool value
  | .number value => number value
  | .string value => string value
  | .array items => array items fun item _ =>
      nested_induction bool number string array object item
  | .object members => object members fun member _ =>
      nested_induction bool number string array object member.2
  decreasing_by
    · have := List.sizeOf_lt_of_mem ‹item ∈ items›
      simp only [Json.array.sizeOf_spec]
      omega
    · have := List.sizeOf_lt_of_mem ‹member ∈ members›
      have : sizeOf member = 1 + sizeOf member.1 + sizeOf member.2 := rfl
      simp only [Json.object.sizeOf_spec]
      omega

/-! ### Printed lists -/

def listed {α : Type} (form : α → List Char) (item : α) (others : List α) : List Char :=
  form item ++ others.flatMap fun other => ',' :: form other

def itemForm (depth : Nat) (item : Json) : List Char :=
  newLine depth ++ print depth item

def memberForm (depth : Nat) (member : String × Json) : List Char :=
  newLine depth ++ quoted member.1 ++ ':' :: ' ' :: print depth member.2

theorem listed_cons {α : Type} (form : α → List Char) (item other : α) (others : List α) :
    listed form item (other :: others) = form item ++ ',' :: listed form other others := rfl

theorem printItems_eq_flatMap (depth : Nat) (items : List Json) :
    printItems depth items = items.flatMap fun item => ',' :: itemForm depth item := by
  induction items with
  | nil => rfl
  | cons item items ih => simp [printItems, ih, itemForm]

theorem printMembers_eq_flatMap (depth : Nat) (members : List (String × Json)) :
    printMembers depth members = members.flatMap fun member => ',' :: memberForm depth member := by
  induction members with
  | nil => rfl
  | cons member members ih => simp [printMembers, ih, memberForm]

theorem print_array_cons (depth : Nat) (item : Json) (items : List Json) :
    print depth (.array (item :: items)) =
      '[' :: listed (itemForm (depth + 1)) item items ++ newLine depth ++ [']'] := by
  simp [print, printItems_eq_flatMap, listed, itemForm]

theorem print_object_cons (depth : Nat) (member : String × Json)
    (members : List (String × Json)) :
    print depth (.object (member :: members)) =
      '\x7b' :: listed (memberForm (depth + 1)) member members ++ newLine depth ++ ['\x7d'] := by
  simp [print, printMembers_eq_flatMap, listed, memberForm]

/-! ### Printed characters -/

def letters : List (Char × Char) := [
  ('"', '"'), ('\\', '\\'), ('/', '/'), ('b', '\x08'), ('f', '\x0c'), ('n', '\n'), ('r', '\r'),
  ('t', '\t')]

/-- A character is told by a letter or by its code, or stands for itself. -/
theorem escape_cases (c : Char) :
    (∃ letter, (letter, c) ∈ letters ∧ escape c = ['\\', letter]) ∨
      c.toNat < 0x20 ∧ escape c =
        ['\\', 'u', '0', '0', Nat.digitChar (c.toNat / 16), Nat.digitChar (c.toNat % 16)] ∨
      c ≠ '"' ∧ c ≠ '\\' ∧ 0x20 ≤ c.toNat ∧ escape c = [c] := by
  unfold escape
  split_ifs with quote backslash _ _ _ _ _ control
  rotate_right 2
  · exact .inr (.inl ⟨control, rfl⟩)
  · exact .inr (.inr ⟨quote, backslash, Nat.le_of_not_lt control, rfl⟩)
  all_goals
    subst c
    refine .inl ⟨_, ?_, rfl⟩
    decide

theorem head?_toDigits_ne_zero {value : Nat} (positive : 0 < value) :
    (Nat.toDigits 10 value).head? ≠ some '0' := by
  -- Only zero itself is printed with a zero in front.
  induction value using Nat.strongRecOn with
  | ind value ih =>
    by_cases small : value < 10
    · rw [Nat.toDigits_of_lt_base small]
      interval_cases value <;> decide
    · rw [Nat.toDigits_of_base_le (by decide) (Nat.le_of_not_lt small),
        List.head?_append_of_ne_nil _ Nat.toDigits_ne_nil]
      exact ih (value / 10) (by omega) (by omega)

end BrokenLinks.Json
