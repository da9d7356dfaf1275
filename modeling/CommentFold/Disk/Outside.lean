import CommentFold.Disk.Lookup

/-! Changes that others make to a disk. A file is written in place and through
links, if its owner may write it. A directory or a link is only created. What is
removed goes with everything below it. -/

namespace CommentFold.Disk

/-- Where a file is written that may not exist yet: at the end of the links, of
which there may be fewer than the given number. -/
def destination (disk : Disk) : Nat → Place → Path → Except Fault (Place × Bytes)
  | 0, _, _ => .error .tooManyLinks
  | links + 1, here, path => do
    let holder ← disk.resolveHolder here path
    match path.lastStep? with
    | some (.down name) =>
      if path.endsInSlash then .error .isADirectory
      else if Name.tooLong (.plain name) then .error .nameTooLong
      else match disk.find? ⟨holder, .plain name⟩ with
        | some (.link target) => disk.destination links holder target
        | _ => .ok (holder, name)
    | _ => .error .isADirectory

def ownerMayWrite (mode : Nat) : Bool := mode.testBit 7

/-- Creates a file, or overwrites one and sets its mode. -/
def putFile (disk : Disk) (here : Place) (path : Path) (bytes : Bytes) (mode : Nat) :
    Except Fault Disk := do
  let (holder, name) ← disk.destination (maxLinks + 1) here path
  let written := disk.insert ⟨holder, .plain name⟩ (.file bytes mode)
  match disk.find? ⟨holder, .plain name⟩ with
  | some .directory => .error .isADirectory
  | some (.file _ earlier) => if ownerMayWrite earlier then .ok written else .error .permissionDenied
  | _ => .ok written

/-- Creates a directory or a link where nothing stands. A directory that stands
there already is kept. -/
def create (disk : Disk) (here : Place) (path : Path) (entry : Entry) : Except Fault Disk := do
  let holder ← disk.resolveHolder here path
  match path.lastStep? with
  | some (.down name) =>
    if Name.tooLong (.plain name) then .error .nameTooLong
    else match disk.find? ⟨holder, .plain name⟩ with
      | none => .ok (disk.insert ⟨holder, .plain name⟩ entry)
      | some standing =>
        if standing = .directory ∧ entry = .directory then .ok disk else .error .alreadyExists
  | _ => .error .alreadyExists

def put (disk : Disk) (here : Place) (path : Path) : Entry → Except Fault Disk
  | .file bytes mode => disk.putFile here path bytes mode
  | entry => disk.create here path entry

def remove (disk : Disk) (here : Place) (path : Path) : Except Fault Disk := do
  let holder ← disk.resolveHolder here path
  match path.lastStep? with
  | some (.down name) =>
    match disk.find? ⟨holder, .plain name⟩ with
    | none => .error .noSuchEntry
    | some _ => .ok (disk.eraseTree holder name)
  | _ => .error .busy

end CommentFold.Disk
