/-! Byte strings, and the text that they spell when they are UTF-8.

File contents, file names and command arguments are byte strings that need not spell any
text. Their order is that of their bytes, which for text is the order of its code points. -/

set_option autoImplicit false

namespace BrokenLinks

abbrev Bytes := List UInt8

namespace Bytes

def slash : UInt8 := 47

def dot : UInt8 := 46

def ofString (text : String) : Bytes :=
  text.toUTF8.data.toList

def text? (bytes : Bytes) : Option String :=
  String.fromUTF8? ⟨bytes.toArray⟩

theorem text?_eq_some_iff {bytes : Bytes} {text : String} :
    bytes.text? = some text ↔ bytes = ofString text := by
  constructor
  · intro h
    simp only [text?, String.fromUTF8?] at h
    split at h
    case isTrue valid =>
      cases h
      simp [ofString, String.fromUTF8]
    case isFalse => contradiction
  · rintro rfl
    have valid := text.isValidUTF8
    simp [text?, String.fromUTF8?, ofString, String.fromUTF8, valid]

theorem ofString_injective {text text' : String} (same : ofString text = ofString text') :
    text = text' :=
  Option.some.inj ((text?_eq_some_iff.2 rfl).symm.trans (text?_eq_some_iff.2 same))

/-- The bytes admitted after a leading byte: the range of the second one, and how many
follow in all. Narrow ranges keep out overlong forms, surrogates and values past U+10FFFF. -/
def following? (lead : UInt8) : Option (UInt8 × UInt8 × Nat) :=
  if 0xC2 ≤ lead ∧ lead ≤ 0xDF then some (0x80, 0xBF, 1)
  else if lead = 0xE0 then some (0xA0, 0xBF, 2)
  else if lead = 0xED then some (0x80, 0x9F, 2)
  else if 0xE1 ≤ lead ∧ lead ≤ 0xEF then some (0x80, 0xBF, 2)
  else if lead = 0xF0 then some (0x90, 0xBF, 3)
  else if 0xF1 ≤ lead ∧ lead ≤ 0xF3 then some (0x80, 0xBF, 3)
  else if lead = 0xF4 then some (0x80, 0x8F, 3)
  else none

def continuation (low high : UInt8) : Nat → Bytes → Bytes
  | count + 1, b :: rest =>
    if low ≤ b ∧ b ≤ high then b :: continuation 0x80 0xBF count rest else []
  | _, _ => []

/-- The first character, or nothing when the bytes start with an ill-formed sequence, and
how many bytes after the first one belong to it. An ill-formed sequence is taken as far as
it could have been the start of a character. -/
def firstChar (lead : UInt8) (rest : Bytes) : Option Char × Nat :=
  if lead < 0x80 then (some (Char.ofNat lead.toNat), 0)
  else
    match following? lead with
    | none => (none, 0)
    | some (low, high, count) =>
      let more := continuation low high count rest
      if more.length = count then
        let payload := lead.toNat &&& (0x3F >>> count)
        (some (Char.ofNat (more.foldl (fun n b => n * 64 + b.toNat % 64) payload)), count)
      else (none, more.length)

def validStart : Bytes → List Char × Bytes
  | [] => ([], [])
  | lead :: rest =>
    match firstChar lead rest with
    | (none, _) => ([], lead :: rest)
    | (some c, more) =>
      let (chars, invalid) := validStart (rest.drop more)
      (c :: chars, invalid)
  termination_by bytes => bytes.length
  decreasing_by simp only [List.length_drop, List.length_cons]; omega

def lossyChars : Bytes → List Char
  | [] => []
  | lead :: rest =>
    let (c?, more) := firstChar lead rest
    c?.getD '\uFFFD' :: lossyChars (rest.drop more)
  termination_by bytes => bytes.length
  decreasing_by simp only [List.length_drop, List.length_cons]; omega

def lossy (bytes : Bytes) : String :=
  match bytes.text? with
  | some text => text
  | none => String.ofList (lossyChars bytes)

end Bytes

end BrokenLinks
