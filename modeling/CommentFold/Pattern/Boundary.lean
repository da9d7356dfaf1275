import CommentFold.Text.Utf8

/-! Boundaries in a text, which a pattern can ask for without taking a character. A
boundary is known by the characters before and after it, of which one is missing at
an end of the text. -/

namespace CommentFold

inductive Boundary where
  | textStart
  | textEnd
  | lineStart
  | lineEnd
  | lineStartCrlf
  | lineEndCrlf
  | wordEdge
  | noWordEdge
  | wordStart
  | wordEnd
  deriving DecidableEq, Repr

/-- Words are made of letters and digits of ASCII and underscores. -/
def isWordChar (c : Char) : Bool := c.isAlphanum || c = '_'

namespace Boundary

/-- Where lines may also end with a carriage return, no line starts or ends between
it and a line feed. -/
def holds (boundary : Boundary) (before after : Option Char) : Bool :=
  let wordBefore := before.any isWordChar
  let wordAfter := after.any isWordChar
  match boundary with
  | textStart => before.isNone
  | textEnd => after.isNone
  | lineStart => before.all (· = '\n')
  | lineEnd => after.all (· = '\n')
  | lineStartCrlf => before.all fun c => c = '\n' || c = '\r' && after != some '\n'
  | lineEndCrlf => after.all fun c => c = '\r' || c = '\n' && before != some '\r'
  | wordEdge => wordBefore != wordAfter
  | noWordEdge => wordBefore == wordAfter
  | wordStart => !wordBefore && wordAfter
  | wordEnd => wordBefore && !wordAfter

end Boundary

end CommentFold
