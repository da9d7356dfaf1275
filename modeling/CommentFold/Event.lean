import CommentFold.Log.Level
import CommentFold.Path

/-! What a run tells about itself. Each event has a level, the part of the
program that it comes from, a message, and fields in a fixed order. -/

namespace CommentFold

inductive Event where
  | started (paths : Nat)
  | opening (line : Nat)
  | closing (start : Nat)
  | leftOpen (start : Nat)
  | staged (path : Path) (name : Text)
  | committed (path : Path)
  | folded (lines blocks : Nat)
  deriving DecidableEq, Repr

inductive FieldValue where
  | number (value : Nat)
  | text (value : Text)
  deriving DecidableEq, Repr

def FieldValue.shown : FieldValue → Text
  | number value => Nat.toDigits 10 value
  | text value => value

namespace Event

def level : Event → Log.Level
  | folded .. => .info
  | _ => .debug

/-- The part of the program that a log filter selects by. -/
def topic : Event → Text
  | started .. => "recomment_cli".toList
  | opening .. | closing .. | leftOpen .. => "recomment_core::rewriter".toList
  | staged .. | committed .. => "recomment_core::commit".toList
  | folded .. => "recomment_core::pipeline".toList

def message : Event → Text
  | started .. => "starting rewrite run".toList
  | opening .. => "opening comment block".toList
  | closing .. => "closing comment block".toList
  | leftOpen .. => "comment block left open at end of input".toList
  | staged .. => "staged replacement".toList
  | committed .. => "committed replacement".toList
  | folded .. => "rewrote comments".toList

def fields : Event → List (Text × FieldValue)
  | started paths => [("paths".toList, .number paths)]
  | opening line => [("line".toList, .number line)]
  | closing start | leftOpen start => [("start".toList, .number start)]
  | staged path name => [("path".toList, .text path.shown), ("staged".toList, .text name)]
  | committed path => [("path".toList, .text path.shown)]
  | folded lines blocks => [("lines".toList, .number lines), ("blocks".toList, .number blocks)]

/-- The names of what an event has, of which the message is one. -/
def fieldNames (event : Event) : List Text := "message".toList :: event.fields.map (·.1)

end Event

/-- The work on one file, in which its events happen. It is itself an item of
the log and can be filtered. -/
structure Scope where
  path : Path
  deriving DecidableEq, Repr

namespace Scope

def name : Text := "rewrite_file".toList

def level : Log.Level := .info

def topic : Text := "recomment_core::pipeline".toList

def fields (scope : Scope) : List (Text × FieldValue) := [("path".toList, .text scope.path.shown)]

end Scope

end CommentFold
