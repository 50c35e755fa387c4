import BrokenLinks.Proofs.Json.Printed

/-! A reader of JSON, and that it gives every printed value back.

It reads the values that can be printed, in any layout: of the standard it leaves out null, numbers
that are not whole, and characters told by two codes. -/

set_option autoImplicit false

namespace BrokenLinks.Json

/-! ### Tokens -/

def isBlank (c : Char) : Bool :=
  [' ', '\n', '\r', '\t'].contains c

def skip (text : List Char) : List Char :=
  text.dropWhile isBlank

def hexDigit? (c : Char) : Option Nat :=
  "0123456789abcdef".toList.idxOf? c.toLower

def hexNumber? (digits : List Char) : Option Nat :=
  digits.foldlM (fun value c => (hexDigit? c).map (16 * value + ·)) 0

def withFirst (c : Char) (read? : Option (List Char × List Char)) :
    Option (List Char × List Char) :=
  read?.map fun (characters, rest) => (c :: characters, rest)

def readCharacters : List Char → Option (List Char × List Char)
  | [] => none
  | '"' :: rest => some ([], rest)
  | '\\' :: 'u' :: c₁ :: c₂ :: c₃ :: c₄ :: rest => do
    let code ← hexNumber? [c₁, c₂, c₃, c₄]
    if code.isValidChar then withFirst (Char.ofNat code) (readCharacters rest) else none
  | '\\' :: letter :: rest => do
    let c ← letters.lookup letter
    withFirst c (readCharacters rest)
  | c :: rest => if c.toNat < 0x20 then none else withFirst c (readCharacters rest)

def readNumber (text : List Char) : Option (Nat × List Char) :=
  let digits := text.takeWhile Char.isDigit
  if digits = [] ∨ digits.head? = some '0' ∧ digits ≠ ['0'] then none
  else some (Nat.ofDigitChars 10 digits 0, text.dropWhile Char.isDigit)

/-! ### Values -/

def readSeparated {α : Type} (readOne : List Char → Option (α × List Char)) (closing : Char) :
    Nat → List Char → Option (List α × List Char)
  | 0, _ => none
  | bound + 1, text => do
    let (item, rest) ← readOne text
    match skip rest with
    | [] => none
    | c :: rest =>
      if c = closing then some ([item], rest)
      else if c = ',' then do
        let (others, rest) ← readSeparated readOne closing bound rest
        some (item :: others, rest)
      else none

def readListed {α : Type} (readOne : List Char → Option (α × List Char)) (closing : Char)
    (text : List Char) : Option (List α × List Char) :=
  match skip text with
  | [] => none
  | c :: rest =>
    if c = closing then some ([], rest) else readSeparated readOne closing text.length text

def readMember (readOne : List Char → Option (Json × List Char)) (text : List Char) :
    Option ((String × Json) × List Char) := do
  let '"' :: rest := skip text | none
  let (key, rest) ← readCharacters rest
  let ':' :: rest := skip rest | none
  let (value, rest) ← readOne rest
  some ((String.ofList key, value), rest)

/-- The value at the start of a text, if it is nested less deep than the bound, and the text after
it. -/
def readValue : Nat → List Char → Option (Json × List Char)
  | 0, _ => none
  | bound + 1, text =>
    match skip text with
    | 't' :: 'r' :: 'u' :: 'e' :: rest => some (.bool true, rest)
    | 'f' :: 'a' :: 'l' :: 's' :: 'e' :: rest => some (.bool false, rest)
    | '"' :: rest =>
      (readCharacters rest).map fun (text, rest) => (.string (String.ofList text), rest)
    | '[' :: rest =>
      (readListed (readValue bound) ']' rest).map fun (items, rest) => (.array items, rest)
    | '\x7b' :: rest =>
      (readListed (readMember (readValue bound)) '\x7d' rest).map fun (members, rest) =>
        (.object members, rest)
    | text => (readNumber text).map fun (value, rest) => (.number value, rest)

def read? (text : String) : Option Json := do
  let (value, rest) ← readValue (text.length + 1) text.toList
  if rest.all isBlank then some value else none

/-! ### Printed tokens -/

theorem skip_append {space : List Char} (blank : ∀ c ∈ space, isBlank c) (text : List Char) :
    skip (space ++ text) = skip text :=
  List.dropWhile_append_of_pos blank

theorem skip_cons {c : Char} (solid : isBlank c = false) (text : List Char) :
    skip (c :: text) = c :: text := by
  simp [skip, solid]

theorem isBlank_of_mem_newLine {depth : Nat} {c : Char} (member : c ∈ newLine depth) :
    isBlank c := by
  rcases List.mem_cons.1 member with rfl | inMargin
  · rfl
  · rw [(List.mem_replicate.1 inMargin).2]
    rfl

theorem solid_of_isDigit {c : Char} (digit : c.isDigit) : isBlank c = false := by
  rw [← Bool.not_eq_true]
  simp only [isBlank, List.contains_eq_mem, List.mem_cons, List.not_mem_nil, or_false,
    decide_eq_true_eq]
  rintro (rfl | rfl | rfl | rfl) <;> contradiction

theorem hexDigit?_digitChar {n : Nat} (small : n < 16) : hexDigit? (Nat.digitChar n) = some n := by
  interval_cases n <;> decide

theorem readCharacters_escape (c : Char) (text : List Char) :
    readCharacters (escape c ++ text) = withFirst c (readCharacters text) := by
  rcases escape_cases c with ⟨letter, told, form⟩ | ⟨control, form⟩ |
    ⟨quote, backslash, noControl, form⟩
  · rw [form]
    simp only [letters, List.mem_cons, Prod.mk.injEq, List.not_mem_nil, or_false] at told
    rcases told with ⟨rfl, rfl⟩ | ⟨rfl, rfl⟩ | ⟨rfl, rfl⟩ | ⟨rfl, rfl⟩ | ⟨rfl, rfl⟩ | ⟨rfl, rfl⟩ |
      ⟨rfl, rfl⟩ | ⟨rfl, rfl⟩ <;> rfl
  · have high := hexDigit?_digitChar (n := c.toNat / 16) (by omega)
    have low := hexDigit?_digitChar (n := c.toNat % 16) (by omega)
    have zero : hexDigit? '0' = some 0 := rfl
    have code : hexNumber? ['0', '0', Nat.digitChar (c.toNat / 16), Nat.digitChar (c.toNat % 16)] =
        some c.toNat := by
      simp [hexNumber?, high, low, zero]
      omega
    have valid : c.toNat.isValidChar := c.valid
    rw [form]
    simp [readCharacters, code, valid]
  · rw [form, List.singleton_append, readCharacters.eq_def]
    -- It is neither of the two marks, so only the last rule of the reader is left for it.
    split <;> simp_all

def Ended (text : List Char) : Prop :=
  ∀ c, text.head? = some c → c.isDigit = false

theorem readCharacters_append (text : List Char) (rest : List Char) :
    readCharacters (text.flatMap escape ++ '"' :: rest) = some (text, rest) := by
  induction text with
  | nil => rfl
  | cons c text ih =>
    rw [List.flatMap_cons, List.append_assoc, readCharacters_escape, ih]
    rfl

theorem readNumber_toDigits (value : Nat) {rest : List Char} (ended : Ended rest) :
    readNumber (Nat.toDigits 10 value ++ rest) = some (value, rest) := by
  have digits : ∀ c ∈ Nat.toDigits 10 value, c.isDigit := fun c =>
    Nat.isDigit_of_mem_toDigits (by decide) (by decide)
  have taken : (Nat.toDigits 10 value ++ rest).takeWhile Char.isDigit = Nat.toDigits 10 value := by
    rw [List.takeWhile_append_of_pos digits]
    cases rest with
    | nil => simp
    | cons c rest => simp [ended c rfl]
  have left : (Nat.toDigits 10 value ++ rest).dropWhile Char.isDigit = rest := by
    rw [List.dropWhile_append_of_pos digits]
    cases rest with
    | nil => rfl
    | cons c rest => simp [ended c rfl]
  have canonical : ¬ (Nat.toDigits 10 value = [] ∨
      (Nat.toDigits 10 value).head? = some '0' ∧ Nat.toDigits 10 value ≠ ['0']) := by
    rintro (empty | ⟨zero, other⟩)
    · exact Nat.toDigits_ne_nil empty
    · rcases Nat.eq_zero_or_pos value with rfl | positive
      · exact other rfl
      · exact head?_toDigits_ne_zero positive zero
  simp only [readNumber, taken, left, if_neg canonical,
    Nat.ofDigitChars_toDigits (by decide : 1 < 10) (by decide)]

/-! ### Printed values -/

theorem ended_of_isBlank {text : List Char} (blank : ∀ c ∈ text, isBlank c) : Ended text := by
  intro c first
  rw [← Bool.not_eq_true]
  intro digit
  have := blank c (List.mem_of_mem_head? first)
  rw [solid_of_isDigit digit] at this
  contradiction

theorem ended_cons {c : Char} (other : c.isDigit = false) (text : List Char) :
    Ended (c :: text) := by
  rintro _ ⟨⟩
  exact other

theorem skip_newLine (depth : Nat) (text : List Char) : skip (newLine depth ++ text) = skip text :=
  skip_append (fun _ => isBlank_of_mem_newLine) text

theorem readValue_append {space : List Char} (blank : ∀ c ∈ space, isBlank c) (bound : Nat)
    (text : List Char) : readValue bound (space ++ text) = readValue bound text := by
  cases bound with
  | zero => rfl
  | succ bound => rw [readValue, readValue, skip_append blank]

section

variable {α : Type} {readOne : List Char → Option (α × List Char)} {form : α → List Char}
  {closing : Char} {item : α} {others : List α}

theorem readSeparated_listed (solid : isBlank closing = false) (unlike : closing ≠ ',')
    (reads : ∀ x ∈ item :: others, ∀ rest, Ended rest → readOne (form x ++ rest) = some (x, rest))
    {bound : Nat} (enough : others.length < bound) (depth : Nat) (rest : List Char) :
    readSeparated readOne closing bound
        (listed form item others ++ newLine depth ++ closing :: rest) =
      some (item :: others, rest) := by
  obtain ⟨bound, rfl⟩ := Nat.exists_eq_succ_of_ne_zero (Nat.ne_zero_of_lt enough)
  induction others generalizing item bound with
  | nil =>
    have read := reads item (.head _) (newLine depth ++ closing :: rest) (ended_cons rfl _)
    rw [listed, List.flatMap_nil, List.append_nil, List.append_assoc, readSeparated, read]
    simp [skip_newLine, skip_cons solid]
  | cons other others ih =>
    have read := reads item (.head _)
      (',' :: (listed form other others ++ newLine depth ++ closing :: rest)) (ended_cons rfl _)
    rw [List.length_cons] at enough
    obtain ⟨bound, rfl⟩ := Nat.exists_eq_succ_of_ne_zero (n := bound) (by omega)
    have readOthers := ih (fun x member => reads x (.tail _ member)) bound (by omega)
    have comma : isBlank ',' = false := rfl
    rw [listed_cons, List.append_assoc, List.append_assoc, List.cons_append,
      ← List.append_assoc, readSeparated, read]
    simp only [Option.bind_eq_bind, Option.bind_some, skip_cons comma, if_neg unlike.symm, if_true,
      readOthers]

theorem length_others_le_listed (item : α) :
    others.length ≤ (listed form item others).length := by
  induction others generalizing item with
  | nil => exact Nat.zero_le _
  | cons other others ih =>
    have := ih other
    rw [listed_cons, List.length_append, List.length_cons, List.length_cons]
    omega

theorem readListed_listed (solid : isBlank closing = false) (unlike : closing ≠ ',')
    (reads : ∀ x ∈ item :: others, ∀ rest, Ended rest → readOne (form x ++ rest) = some (x, rest))
    (opens : ∀ text, ∃ c rest, skip (form item ++ text) = c :: rest ∧ c ≠ closing)
    (depth : Nat) (rest : List Char) :
    readListed readOne closing (listed form item others ++ newLine depth ++ closing :: rest) =
      some (item :: others, rest) := by
  have enough : others.length <
      (listed form item others ++ newLine depth ++ closing :: rest).length := by
    have : others.length ≤ (listed form item others).length := length_others_le_listed item
    simp only [List.length_append, List.length_cons]
    omega
  obtain ⟨c, text, first, other⟩ := opens
    ((others.flatMap fun other => ',' :: form other) ++ newLine depth ++ closing :: rest)
  rw [readListed, readSeparated_listed solid unlike reads enough]
  simp only [listed, List.append_assoc] at first ⊢
  simp only [first, if_neg other]

end

theorem exists_toDigits_eq_cons (value : Nat) :
    ∃ first others, Nat.toDigits 10 value = first :: others ∧ first.isDigit := by
  obtain ⟨first, others, same⟩ :=
    List.exists_cons_of_ne_nil (Nat.toDigits_ne_nil (n := value) (b := 10))
  exact ⟨first, others, same, Nat.isDigit_of_mem_toDigits (b := 10) (n := value) (by decide)
    (by decide) (by simp [same])⟩

theorem exists_print_eq_cons (depth : Nat) (value : Json) :
    ∃ c text, print depth value = c :: text ∧ isBlank c = false ∧ c ≠ ']' := by
  cases value with
  | bool value => cases value <;> exact ⟨_, _, rfl, rfl, by decide⟩
  | number value =>
    obtain ⟨first, others, same, digit⟩ := exists_toDigits_eq_cons value
    refine ⟨first, others, same, solid_of_isDigit digit, ?_⟩
    rintro rfl
    contradiction
  | string value => exact ⟨_, _, rfl, rfl, by decide⟩
  | array items =>
    cases items with
    | nil => exact ⟨_, _, rfl, rfl, by decide⟩
    | cons item items => exact ⟨_, _, print_array_cons depth item items, rfl, by decide⟩
  | object members =>
    cases members with
    | nil => exact ⟨_, _, rfl, rfl, by decide⟩
    | cons member members => exact ⟨_, _, print_object_cons depth member members, rfl, by decide⟩

theorem memberForm_append (depth : Nat) (member : String × Json) (text : List Char) :
    memberForm depth member ++ text = newLine depth ++ '"' ::
      (member.1.toList.flatMap escape ++ '"' :: ':' ::
        (' ' :: print depth member.2 ++ text)) := by
  simp [memberForm, quoted]

theorem readMember_memberForm {readOne : List Char → Option (Json × List Char)} {depth : Nat}
    {member : String × Json} {rest : List Char}
    (read : readOne (' ' :: print depth member.2 ++ rest) = some (member.2, rest)) :
    readMember readOne (memberForm depth member ++ rest) = some (member, rest) := by
  have quote : isBlank '"' = false := rfl
  have colon : isBlank ':' = false := rfl
  rw [readMember, memberForm_append, skip_newLine, skip_cons quote]
  simp only [readCharacters_append, Option.bind_eq_bind, Option.bind_some, skip_cons colon, read,
    String.ofList_toList]

theorem length_form_lt {α : Type} (form : α → List Char) {x item : α} {others : List α}
    (member : x ∈ item :: others) (opening closing : Char) (depth : Nat) :
    (form x).length + 1 <
      (opening :: listed form item others ++ newLine depth ++ [closing]).length := by
  have inside : (form x).length ≤ (listed form item others).length := by
    induction others generalizing item with
    | nil => simp_all [listed]
    | cons other others ih =>
      rw [listed_cons, List.length_append, List.length_cons]
      rcases List.mem_cons.1 member with rfl | inOthers
      · omega
      · have := ih inOthers
        omega
  simp only [List.length_append, List.length_cons]
  omega

/-- Every printed value is read back, however deep it starts and whatever goes on after it. -/
theorem readValue_print (value : Json) {bound depth : Nat} {rest : List Char} (ended : Ended rest)
    (enough : (print depth value).length < bound) :
    readValue bound (print depth value ++ rest) = some (value, rest) := by
  induction value using nested_induction generalizing bound depth rest
    with obtain ⟨bound, rfl⟩ := Nat.exists_eq_succ_of_ne_zero (Nat.ne_zero_of_lt enough)
  | bool value => cases value <;> rfl
  | number value =>
    obtain ⟨first, others, same, digit⟩ := exists_toDigits_eq_cons value
    have read := readNumber_toDigits value ended
    rw [print]
    rw [same, List.cons_append] at read ⊢
    rw [readValue, skip_cons (solid_of_isDigit digit)]
    -- No other kind of value starts with a digit.
    split
    case h_6 => rw [read]; rfl
    all_goals simp_all
  | string value =>
    have quote : isBlank '"' = false := rfl
    simp [print, quoted, readValue, skip_cons quote, readCharacters_append]
  | array items ih =>
    cases items with
    | nil => rfl
    | cons item items =>
      have bracket : isBlank '[' = false := rfl
      rw [print_array_cons] at enough ⊢
      -- Each item is shorter than the list, so the bound suffices for it too.
      have read : readListed (readValue bound) ']'
          (listed (itemForm (depth + 1)) item items ++ newLine depth ++ ']' :: rest) =
            some (item :: items, rest) := by
        refine readListed_listed rfl (by decide) (fun x member rest ended => ?_)
          (fun text => ?_) _ _
        · have fits := length_form_lt (itemForm (depth + 1)) member '[' ']' depth
          rw [itemForm, List.length_append] at fits
          rw [itemForm, List.append_assoc, readValue_append fun _ => isBlank_of_mem_newLine]
          exact ih x member ended (by omega)
        · obtain ⟨c, more, same, solid, other⟩ := exists_print_eq_cons (depth + 1) item
          refine ⟨c, more ++ text, ?_, other⟩
          rw [itemForm, List.append_assoc, skip_newLine, same, List.cons_append, skip_cons solid]
      rw [List.append_assoc, List.singleton_append, List.cons_append, List.cons_append, readValue,
        skip_cons bracket]
      simp only [read, Option.map_some]
  | object members ih =>
    cases members with
    | nil => rfl
    | cons member members =>
      have brace : isBlank '\x7b' = false := rfl
      have quote : isBlank '"' = false := rfl
      rw [print_object_cons] at enough ⊢
      have read : readListed (readMember (readValue bound)) '\x7d'
          (listed (memberForm (depth + 1)) member members ++ newLine depth ++ '\x7d' :: rest) =
            some (member :: members, rest) := by
        refine readListed_listed rfl (by decide) (fun x inside rest ended => ?_)
          (fun text => ?_) _ _
        · have fits := length_form_lt (memberForm (depth + 1)) inside '\x7b' '\x7d' depth
          have space : ∀ c ∈ [' '], isBlank c := by simp [isBlank]
          rw [memberForm, List.length_append, List.length_cons, List.length_cons] at fits
          refine readMember_memberForm ?_
          rw [← List.singleton_append, List.append_assoc, readValue_append space]
          exact ih x inside ended (by omega)
        · rw [memberForm_append, skip_newLine, skip_cons quote]
          exact ⟨_, _, rfl, by decide⟩
      rw [List.append_assoc, List.singleton_append, List.cons_append, List.cons_append, readValue,
        skip_cons brace]
      simp only [read, Option.map_some]

theorem read?_toText (value : Json) (space : String) (blank : ∀ c ∈ space.toList, isBlank c) :
    read? (value.toText ++ space) = some value := by
  have enough : (print 0 value).length < (value.toText ++ space).length + 1 := by
    simp only [toText, String.length_append, String.length_ofList]
    omega
  have read := readValue_print value (ended_of_isBlank blank) enough
  rw [read?, String.toList_append, toText, String.toList_ofList]
  rw [toText] at read
  simp only [read, Option.bind_eq_bind, Option.bind_some, List.all_eq_true.2 blank, if_true]

end BrokenLinks.Json
