import CommentFold.Banner
import CommentFold.BlockWriter
import CommentFold.Outcome

/-! One pass over the lines of a file. The banner is checked line by line as it
is read, so a wrong banner is reported even if a later line cannot be read. The
first line that fails ends the pass. -/

namespace CommentFold

/-! Lines of a file. A line feed ends a line, and one carriage return directly
before it belongs to the ending. What follows the last line feed is a line only
if it is not empty, and it keeps its carriage return. -/

def lineFeed : UInt8 := 10

def carriageReturn : UInt8 := 13

/-- The bytes without the carriage return that they end with, if they do. -/
def dropCarriageReturn (bytes : Bytes) : Bytes :=
  if bytes.getLast? = some carriageReturn then bytes.dropLast else bytes

def splitLines (bytes : Bytes) : List Bytes :=
  let pieces := bytes.splitOn lineFeed
  pieces.dropLast.map dropCarriageReturn ++ (pieces.getLast?.filter (· ≠ [])).toList

/-- A carriage return is dropped before a line feed only, and only one. -/
example : splitLines [97, 13, 13, 10, 10, 98, 13] = [[97, 13], [], [98, 13]] := by decide

/-- A line that was read, or the fault that reading it met. -/
abbrev ReadLine := Except Fault Text

def readLine (bytes : Bytes) : ReadLine :=
  match Utf8.decode? bytes with
  | some text => .ok text
  | none => .error .invalidText

def readLines (bytes : Bytes) : List ReadLine := (splitLines bytes).map readLine

/-- A file with its comments folded. Its lines are those of the input, the banner's included. -/
structure Document where
  contents : Text
  lines : Nat
  blocks : Nat
  deriving DecidableEq, Repr

namespace Document

/-- Reads as many lines of the banner as are left, of which the first has the
given index, and returns them together with what follows. -/
def takeBanner (path : Path) (index : Nat) : Nat → List ReadLine → Except Failure (List Text × List ReadLine)
  | 0, items => .ok ([], items)
  | _ + 1, [] => .error (.bannerMismatch path index)
  | _ + 1, .error fault :: _ => .error (.unreadable path (some index) fault)
  | left + 1, .ok raw :: items => do
    Banner.check path index raw
    let (banner, body) ← takeBanner path (index + 1) left items
    pure (raw :: banner, body)

/-- Reads the lines after the banner, of which the first has the given index. -/
def foldBody (path : Path) (trailing : Trailing) : BlockWriter → Nat → List ReadLine → Outcome Document
  | writer, index, [] =>
    let finished := writer.finish trailing
    ⟨finished.events, .ok ⟨finished.out, index, finished.blocks⟩⟩
  | writer, index, .error fault :: _ =>
    ⟨writer.events, .error (.unreadable path (some index) fault)⟩
  | writer, index, .ok raw :: items =>
    foldBody path trailing (writer.push ⟨index, raw⟩) (index + 1) items

/-- Checks the banner, keeps it, and folds the comments of all that follows. -/
def fold (path : Path) (trailing : Trailing) (items : List ReadLine) : Outcome Document :=
  match takeBanner path 0 Banner.required.length items with
  | .error failure => .failed failure
  | .ok (banner, body) =>
    foldBody path trailing (.after (banner.flatMap Block.plainLine)) Banner.required.length body

end Document

end CommentFold
