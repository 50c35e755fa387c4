import BrokenLinks.Proofs.Text.Measure

/-! Parts of a text, taken out by the offsets of their bytes.

A text can only be cut between two of its characters, or at its ends. An offset that is the length
of a start of the text is such a place. -/

set_option autoImplicit false

namespace BrokenLinks.Text

def bytes (text : List Char) : Bytes :=
  Bytes.ofString (String.ofList text)

@[simp] theorem bytes_append (front back : List Char) :
    bytes (front ++ back) = bytes front ++ bytes back := by
  rw [bytes, String.ofList_append, ofString_append, bytes, bytes]

@[simp] theorem length_bytes (text : List Char) : (bytes text).length = utf8Length text := by
  rw [bytes, length_ofString, String.toList_ofList]

theorem getElem?_bytes_of_lt {front : List Char} {place : Nat} (within : place < utf8Length front)
    (back : List Char) : (bytes (front ++ back))[place]? = (bytes front)[place]? := by
  rw [bytes_append, List.getElem?_append_left (by simpa)]

theorem getElem?_bytes_add (front back : List Char) (place : Nat) :
    (bytes (front ++ back))[utf8Length front + place]? = (bytes back)[place]? := by
  rw [bytes_append, List.getElem?_append_right (by simp), length_bytes, Nat.add_sub_cancel_left]

/-- The part between two offsets, the end exclusive. There is none if one of them lies within a
character or outside the text, or if the end comes before the start. -/
def slice? (text : String) (start stop : Nat) : Option String :=
  if start ≤ stop ∧ (⟨start⟩ : String.Pos.Raw).IsValid text ∧
      (⟨stop⟩ : String.Pos.Raw).IsValid text then
    Bytes.text? (((Bytes.ofString text).take stop).drop start)
  else none

theorem utf8ByteSize_ofList (text : List Char) :
    (String.ofList text).utf8ByteSize = utf8Length text := by
  rw [String.utf8ByteSize, String.toByteArray_ofList, size_utf8Encode]

theorem isValid_utf8Length (front back : List Char) :
    (⟨utf8Length front⟩ : String.Pos.Raw).IsValid (String.ofList (front ++ back)) := by
  refine String.Pos.Raw.isValid_iff_exists_append.2
    ⟨String.ofList front, String.ofList back, String.ofList_append, ?_⟩
  rw [String.rawEndPos, utf8ByteSize_ofList]

theorem slice?_append (front part back : List Char) :
    slice? (String.ofList (front ++ part ++ back)) (utf8Length front)
      (utf8Length (front ++ part)) = some (String.ofList part) := by
  have starts := isValid_utf8Length front (part ++ back)
  rw [← List.append_assoc] at starts
  rw [slice?, if_pos ⟨by simp, starts, isValid_utf8Length (front ++ part) back⟩,
    Bytes.text?_eq_some_iff]
  change ((bytes (front ++ part ++ back)).take _).drop _ = bytes part
  rw [bytes_append, ← length_bytes (front ++ part), List.take_left, bytes_append, ← length_bytes,
    List.drop_left]

end BrokenLinks.Text
