import CommentFold.Block
import CommentFold.Event

/-! What a body becomes, said without reading it line by line. It falls into
maximal runs of lines of one kind. A run of comment lines is one block; other
lines stay as they are. The same runs account for the events. -/

namespace CommentFold

/-- Lines of a file with their indexes, of which the first is given. -/
def numbered (first : Nat) (raws : List Text) : List Line :=
  (raws.zipIdx first).map fun (raw, index) => ⟨index, raw⟩

/-- The maximal stretches of consecutive lines of one kind. -/
def runs (lines : List Line) : List (List Line) :=
  lines.splitBy fun line next => line.kind = next.kind

namespace Run

def isComment (run : List Line) : Bool := run.head?.any fun first => first.kind = .comment

/-- A comment run has the indent of its first line. -/
def indent (run : List Line) : Text := (run.head?.map Line.indent).getD []

def start (run : List Line) : Nat := (run.head?.map Line.index).getD 0

/-- The text of a run up to the marker that may close it. -/
def openText (run : List Line) : Text :=
  if isComment run then
    Block.openingMarker (indent run) ++
      run.flatMap fun line => Block.commentLine (indent run) (line.body?.getD [])
  else run.flatMap fun line => Block.plainLine line.raw

def closingText (run : List Line) : Text :=
  if isComment run then Block.closingMarker (indent run) else []

/-- What is told about a run, if `ending` is told when it ends. -/
def events (ending : Nat → List Event) (run : List Line) : List Event :=
  if isComment run then .opening (start run) :: ending (start run) else []

end Run

/-- Every block is closed, except one that reaches the end and is to be left. -/
def foldRuns (trailing : Trailing) : List (List Line) → Text
  | [] => []
  | [last] => Run.openText last ++ if trailing = .close then Run.closingText last else []
  | run :: rest => Run.openText run ++ Run.closingText run ++ foldRuns trailing rest

/-- Every block that a line of another kind follows is told to be closed. What is
told about one that reaches the end depends on how the reading ended. -/
def tellRuns (ending : Nat → List Event) : List (List Line) → List Event
  | [] => []
  | [last] => Run.events ending last
  | run :: rest => Run.events (fun start => [.closing start]) run ++ tellRuns ending rest

/-- What is told about an open block when all lines were read. -/
def Trailing.ending : Trailing → Nat → List Event
  | .close, start => [.closing start]
  | .leave, start => [.leftOpen start]

def countBlocks (lines : List Line) : Nat := (runs lines).countP Run.isComment

end CommentFold
