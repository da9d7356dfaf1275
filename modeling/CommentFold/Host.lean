import CommentFold.Document

/-! What a run asks of its host. A host keeps files: it stages a replacement in a
file of its own, whose name nobody else uses, and publishes it over the target in
one step. And it is where a run speaks, with confirmations, complaints and the
log, of which only a refused confirmation matters to the run. -/

namespace CommentFold

/-- A file that was opened. Opening may succeed where reading or asking for the
mode does not. -/
structure Source where
  contents : Except Fault Bytes
  mode : Except Fault Nat

/-- A file that cannot be read at all fails at its first line. -/
def Source.lines (source : Source) : List ReadLine :=
  match source.contents with
  | .ok bytes => readLines bytes
  | .error fault => [.error fault]

/-- The requests for files, each answered by a fault or by what was asked for. The
last parameter is how a host remembers a staged file. -/
class Storage (m : Type → Type) (σ : outParam Type) where
  fetch : Path → m (Except Fault Source)
  /-- Creates an empty staged file in a directory, with a name that starts with
  the given stem, and with a mode. Returns it together with its name. -/
  stage : Path → Bytes → Nat → m (Except Fault (σ × Text))
  append : σ → Bytes → m (Except Fault Unit)
  /-- Makes sure of what was appended to a staged file and renames it to a target. -/
  publish : σ → Path → m (Except Fault Unit)
  discard : σ → m (Except Fault Unit)

/-- The requests to be heard. -/
class Console (m : Type → Type) where
  print : Bytes → m (Except Fault Unit)
  complain : Bytes → m Unit
  log : Text → m Unit

end CommentFold
