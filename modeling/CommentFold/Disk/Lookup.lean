import CommentFold.Disk.Basic
import CommentFold.Fault

/-! Looking up a path. Each step is taken from a directory. A link is replaced by
its target, relative to the directory that holds it, and a look-up follows only
so many of them. -/

namespace CommentFold

/-- How many links one look-up follows. -/
def maxLinks : Nat := 40

/-- The length from which on a path is refused. -/
def pathLimit : Nat := 4096

namespace Path

/-- What is refused about a path before anything is looked up. -/
def check (path : Path) : Except Fault Unit :=
  if 0 ∈ path.bytes then .error .nulInName
  else if path.bytes = [] then .error .noSuchEntry
  else if pathLimit ≤ path.bytes.length then .error .nameTooLong
  else .ok ()

/-- The absolute path that leads to a place. -/
def ofPlace (place : Place) : Path := ⟨slash :: [slash].intercalate place⟩

/-- Where a look-up starts that is made from a directory. -/
def startFrom (path : Path) (directory : Place) : Place :=
  if path.isAbsolute then [] else directory

end Path

namespace Disk

/-- Takes steps until a link has to be followed, and leaves that to `jump`. -/
def advance (disk : Disk) (jump : Place → List Step → Except Fault Place) :
    Place → List Step → Except Fault Place
  | place, [] => .ok place
  | place, step :: rest =>
    if disk.entryAt? place ≠ some .directory then .error .notADirectory
    else match step with
      | .stay => advance disk jump place rest
      | .up => advance disk jump place.dropLast rest
      | .down name =>
        if Name.tooLong (.plain name) then .error .nameTooLong
        else match disk.find? ⟨place, .plain name⟩ with
          | none => .error .noSuchEntry
          | some (.link target) => jump (target.startFrom place) (target.steps ++ rest)
          | some _ => advance disk jump (place ++ [name]) rest

/-- Takes steps and follows at most the given number of links. -/
def walk (disk : Disk) : Nat → Place → List Step → Except Fault Place
  | 0 => disk.advance fun _ _ => .error .tooManyLinks
  | links + 1 => disk.advance (walk disk links)

/-- The place that a path leads to, where no link stands. -/
def resolve (disk : Disk) (here : Place) (path : Path) : Except Fault Place := do
  path.check
  disk.walk maxLinks (path.startFrom here) path.steps

/-- The directory at the end of some steps. -/
def walkToDirectory (disk : Disk) (start : Place) (steps : List Step) : Except Fault Place := do
  let place ← disk.walk maxLinks start steps
  if disk.entryAt? place = some .directory then .ok place else .error .notADirectory

def resolveDirectory (disk : Disk) (here : Place) (path : Path) : Except Fault Place := do
  path.check
  disk.walkToDirectory (path.startFrom here) path.steps

/-- The directory that holds the entry a path names. The entry itself is not
looked up, so a link that stands there is not followed. -/
def resolveHolder (disk : Disk) (here : Place) (path : Path) : Except Fault Place := do
  path.check
  disk.walkToDirectory (path.startFrom here) path.leadingSteps

end Disk

end CommentFold
