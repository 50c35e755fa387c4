import BrokenLinks.Character.Set

/-! Patterns for text.

Alternatives are tried in their order, and a repetition as often as it can be or as seldom. So a
pattern has one first match in a text: the leftmost, and of those at one place the preferred one. -/

set_option autoImplicit false

namespace BrokenLinks

inductive Look where
  | textStart
  | textEnd
  | lineStart
  | lineEnd
  -- Lines may also end in a carriage return, or in one and a line feed.
  | anyLineStart
  | anyLineEnd
  -- Words consist of letters and digits of ASCII and of underscores.
  | wordEdge
  | noWordEdge
  | wordStart
  | wordEnd
  deriving DecidableEq, Repr

inductive Pattern where
  | empty
  | char (set : CharSet)
  | look (condition : Look)
  | sequence (first second : Pattern)
  | choice (preferred other : Pattern)
  /-- Any number of times, as many as can be if `greedy` and else as few. -/
  | repeated (greedy : Bool) (pattern : Pattern)
  | repeatedOnce (greedy : Bool) (pattern : Pattern)
  deriving DecidableEq, Repr

namespace Look

def isWordPart (c : Char) : Bool :=
  c.isAlphanum || c == '_'

def holds (look : Look) (before? after? : Option Char) : Bool :=
  let wordBefore := before?.any isWordPart
  let wordAfter := after?.any isWordPart
  match look with
  | .textStart => before?.isNone
  | .textEnd => after?.isNone
  | .lineStart => before?.all (· == '\n')
  | .lineEnd => after?.all (· == '\n')
  | .anyLineStart =>
    before?.all (· == '\n') || before? == some '\r' && after? != some '\n'
  | .anyLineEnd =>
    after?.all (· == '\r') || after? == some '\n' && before? != some '\r'
  | .wordEdge => wordBefore != wordAfter
  | .noWordEdge => wordBefore == wordAfter
  | .wordStart => !wordBefore && wordAfter
  | .wordEnd => wordBefore && !wordAfter

end Look

namespace Pattern

def optional (greedy : Bool) (pattern : Pattern) : Pattern :=
  if greedy then .choice pattern .empty else .choice .empty pattern

end Pattern

end BrokenLinks
