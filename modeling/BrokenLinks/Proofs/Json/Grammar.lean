import BrokenLinks.Proofs.Json.Printed
import Mathlib.Computability.Language

/-! The grammar of JSON, and that every printed value follows it.

The rules are those of the standard. Only what nests is an inductive family; the rest are regular
languages. Printed values use a part of the rules: they have no null, no numbers but whole ones,
and of the space between tokens the line ends and margins that show the levels. -/

set_option autoImplicit false

open scoped Computability

namespace BrokenLinks.Json

namespace Grammar

/-! ### Tokens -/

def one (kind : Char → Prop) : Language Char :=
  {text | ∃ c, kind c ∧ text = [c]}

def just (text : String) : Language Char :=
  {text.toList}

def maybe (language : Language Char) : Language Char :=
  1 + language

def blank : Language Char :=
  (one (· ∈ [' ', '\n', '\r', '\t']))∗

def digit : Language Char :=
  one (·.isDigit)

def whole : Language Char :=
  just "0" + one (fun c => c.isDigit ∧ c ≠ '0') * digit∗

def fraction : Language Char :=
  just "." * digit * digit∗

def exponent : Language Char :=
  one (· ∈ ['e', 'E']) * maybe (one (· ∈ ['+', '-'])) * digit * digit∗

def number : Language Char :=
  maybe (just "-") * whole * maybe fraction * maybe exponent

def hexDigit : Language Char :=
  one fun c => c.isDigit ∨ c ∈ "abcdefABCDEF".toList

def character : Language Char :=
  one (fun c => c ≠ '"' ∧ c ≠ '\\' ∧ 0x20 ≤ c.toNat) +
    just "\\" * one (· ∈ letters.map Prod.fst) +
    just "\\u" * hexDigit * hexDigit * hexDigit * hexDigit

def string : Language Char :=
  just "\"" * character∗ * just "\""

/-! ### Values -/

inductive Separated (kind : List Char → Prop) : List Char → Prop
  | last {text : List Char} : kind text → Separated kind text
  | more {text others : List Char} : kind text → Separated kind others →
      Separated kind (text ++ ',' :: others)

mutual

inductive Value : List Char → Prop
  | literal {text : List Char} : text ∈ just "null" + just "true" + just "false" → Value text
  | number {text : List Char} : text ∈ number → Value text
  | string {text : List Char} : text ∈ string → Value text
  | emptyArray {space : List Char} : space ∈ blank → Value ('[' :: space ++ [']'])
  | array {items : List Char} : Separated Element items → Value ('[' :: items ++ [']'])
  | emptyObject {space : List Char} : space ∈ blank → Value ('\x7b' :: space ++ ['\x7d'])
  | object {members : List Char} : Separated Member members →
      Value ('\x7b' :: members ++ ['\x7d'])

/-- A value in its space. A whole text of JSON is such an element. -/
inductive Element : List Char → Prop
  | mk {before value after : List Char} : before ∈ blank → Value value → after ∈ blank →
      Element (before ++ value ++ after)

inductive Member : List Char → Prop
  | mk {before key after value : List Char} : before ∈ blank → key ∈ string → after ∈ blank →
      Element value → Member (before ++ key ++ after ++ ':' :: value)

end

/-! ### Printed tokens -/

theorem mem_kstar_one {kind : Char → Prop} {text : List Char} (all : ∀ c ∈ text, kind c) :
    text ∈ (one kind)∗ := by
  refine Language.mem_kstar.2 ⟨text.map ([·]), by simp [← List.flatMap_def], ?_⟩
  rintro _ member
  obtain ⟨c, inside, rfl⟩ := List.mem_map.1 member
  exact ⟨c, all c inside, rfl⟩

theorem nil_mem_blank : [] ∈ blank := Language.nil_mem_kstar _

theorem newLine_mem_blank (depth : Nat) : newLine depth ∈ blank := by
  refine mem_kstar_one fun c member => ?_
  rcases List.mem_cons.1 member with rfl | inMargin
  · decide
  · rw [(List.mem_replicate.1 inMargin).2]
    decide

theorem toDigits_mem_whole (value : Nat) : Nat.toDigits 10 value ∈ whole := by
  rcases Nat.eq_zero_or_pos value with rfl | positive
  · exact .inl rfl
  have digits : ∀ c ∈ Nat.toDigits 10 value, c.isDigit := fun c =>
    Nat.isDigit_of_mem_toDigits (by decide) (by decide)
  have unlike := head?_toDigits_ne_zero positive
  obtain ⟨first, others, same⟩ :=
    List.exists_cons_of_ne_nil (Nat.toDigits_ne_nil (n := value) (b := 10))
  rw [same] at digits unlike ⊢
  refine .inr (Language.append_mem_mul (a := [first]) ⟨first, ⟨digits first (by simp), ?_⟩, rfl⟩
    (mem_kstar_one fun c member => digits c (by simp [member])))
  simpa using unlike

theorem toDigits_mem_number (value : Nat) : Nat.toDigits 10 value ∈ number := by
  -- All parts of a number but the digits are left out.
  have unsigned := Language.append_mem_mul (l := maybe (just "-")) (.inl rfl)
    (toDigits_mem_whole value)
  have noFraction := Language.append_mem_mul (m := maybe fraction) unsigned (.inl rfl)
  have noExponent := Language.append_mem_mul (m := maybe exponent) noFraction (.inl rfl)
  simpa [number] using noExponent

theorem digitChar_mem_hexDigit {n : Nat} (small : n < 16) : [Nat.digitChar n] ∈ hexDigit := by
  interval_cases n <;> exact ⟨_, by decide, rfl⟩

theorem escape_mem_character (c : Char) : escape c ∈ character := by
  rcases escape_cases c with ⟨letter, told, form⟩ | ⟨control, form⟩ |
    ⟨quote, backslash, noControl, form⟩
  · rw [form]
    exact .inl (.inr (Language.append_mem_mul (a := ['\\']) rfl
      ⟨letter, List.mem_map_of_mem told, rfl⟩))
  · rw [form]
    have start : ['\\', 'u'] ∈ just "\\u" := rfl
    have zero : ['0'] ∈ hexDigit := ⟨'0', .inl rfl, rfl⟩
    have high := digitChar_mem_hexDigit (n := c.toNat / 16) (by omega)
    have low := digitChar_mem_hexDigit (n := c.toNat % 16) (by omega)
    exact .inr (Language.append_mem_mul (Language.append_mem_mul (Language.append_mem_mul
      (Language.append_mem_mul start zero) zero) high) low)
  · rw [form]
    exact .inl (.inl ⟨c, ⟨quote, backslash, noControl⟩, rfl⟩)

theorem quoted_mem_string (text : String) : quoted text ∈ string := by
  have inside : text.toList.flatMap escape ∈ character∗ := by
    refine Language.mem_kstar.2 ⟨text.toList.map escape, List.flatMap_def .., ?_⟩
    rintro _ member
    obtain ⟨c, -, rfl⟩ := List.mem_map.1 member
    exact escape_mem_character c
  exact Language.append_mem_mul (Language.append_mem_mul (a := ['"']) rfl inside) rfl

/-! ### Printed values -/

theorem separated_listed {α : Type} {kind : List Char → Prop} {form : α → List Char} {item : α}
    {others : List α} {space : List Char} (spaced : space ∈ blank)
    (each : ∀ x ∈ item :: others, ∀ space ∈ blank, kind (form x ++ space)) :
    Separated kind (listed form item others ++ space) := by
  induction others generalizing item with
  | nil =>
    rw [listed, List.flatMap_nil, List.append_nil]
    exact .last (each item (.head _) space spaced)
  | cons other others ih =>
    have first := each item (.head _) [] nil_mem_blank
    rw [List.append_nil] at first
    rw [listed_cons, List.append_assoc, List.cons_append]
    exact .more first (ih fun x member => each x (.tail _ member))

/-- Every printed value follows the grammar, however deep it starts. -/
theorem value_print (value : Json) (depth : Nat) : Value (print depth value) := by
  induction value using nested_induction generalizing depth with
  | bool value =>
    cases value with
    | true => exact .literal (.inl (.inr rfl))
    | false => exact .literal (.inr rfl)
  | number value => exact .number (toDigits_mem_number value)
  | string value => exact .string (quoted_mem_string value)
  | array items ih =>
    cases items with
    | nil => exact .emptyArray nil_mem_blank
    | cons item items =>
      rw [print_array_cons, List.cons_append]
      refine .array (separated_listed (newLine_mem_blank depth) fun x member space spaced => ?_)
      exact .mk (newLine_mem_blank _) (ih x member _) spaced
  | object members ih =>
    cases members with
    | nil => exact .emptyObject nil_mem_blank
    | cons member members =>
      rw [print_object_cons, List.cons_append]
      refine .object (separated_listed (newLine_mem_blank depth) fun x inside space spaced => ?_)
      have margin : [' '] ∈ blank := mem_kstar_one (by simp)
      have value : Element ([' '] ++ print (depth + 1) x.2 ++ space) :=
        .mk margin (ih x inside _) spaced
      simpa [memberForm] using
        Member.mk (newLine_mem_blank _) (quoted_mem_string x.1) nil_mem_blank value

end Grammar

end BrokenLinks.Json
