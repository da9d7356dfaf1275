import CommentFold.Disk.Lookup
import CommentFold.Host

/-! Reading, staging and publishing on a disk. A disk refuses by itself only what
the shape of its tree and the length of names forbid. -/

namespace CommentFold

/-- A staged file is found again through the directory that it was created in. -/
structure Staged where
  directory : Path
  name : Name
  deriving DecidableEq, Repr

namespace Disk

/-- The mode of every directory. -/
def directoryMode : Nat := 0o755

/-- A directory can be opened and not read. -/
def fetch (disk : Disk) (here : Place) (path : Path) : Except Fault Source := do
  let place ← disk.resolve here path
  match disk.entryAt? place with
  | some (.file bytes mode) => .ok ⟨.ok bytes, .ok mode⟩
  | some .directory => .ok ⟨.error .isADirectory, .ok directoryMode⟩
  | some (.link _) | none => .error .noSuchEntry

/-- The absolute path under which a staged file is created. -/
def stagedPath (here : Place) (directory : Path) (name : Name) : Path :=
  ((Path.ofPlace here).join directory).join ⟨name.bytes⟩

/-- Creates a staged file. Nothing has the name yet, because its serial number
is new. -/
def stage (disk : Disk) (here : Place) (directory : Path) (name : Name) (mode : Nat) :
    Except Fault Disk := do
  (stagedPath here directory name).check
  let holder ← disk.resolveDirectory here directory
  if name.tooLong then .error .nameTooLong
  else .ok (disk.insert ⟨holder, name⟩ (.file [] mode))

/-- The mode of a file after a write, which takes away the right to run as the
owner and, where the group may run the file, the right to run as the group. -/
def modeAfterWrite (mode : Nat) : Nat :=
  let kept := if mode.testBit 11 then mode - 0o4000 else mode
  if mode.testBit 10 && mode.testBit 3 then kept - 0o2000 else kept

/-- Neither of the two rights is in the mode for a write to take away. -/
def writeKeeps (mode : Nat) : Bool := !mode.testBit 11 && !(mode.testBit 10 && mode.testBit 3)

theorem modeAfterWrite_eq_self_iff (mode : Nat) : modeAfterWrite mode = mode ↔ writeKeeps mode = true := by
  have owner : mode.testBit 11 = true → 0o4000 ≤ mode := Nat.ge_two_pow_of_testBit
  have group : mode.testBit 10 = true → 0o2000 ≤ mode := Nat.ge_two_pow_of_testBit
  unfold modeAfterWrite writeKeeps
  cases first : mode.testBit 11 <;> cases second : mode.testBit 10 <;> cases third : mode.testBit 3 <;>
    simp [first, second] at owner group ⊢ <;> omega

/-- A second write takes nothing more away. -/
theorem writeKeeps_modeAfterWrite (mode : Nat) : writeKeeps (modeAfterWrite mode) = true := by
  simp only [modeAfterWrite, writeKeeps, Nat.testBit_eq_decide_div_mod_eq]
  split <;> split <;> simp_all <;> omega

def appendTo (more : Bytes) : Entry → Entry
  | .file bytes mode => .file (bytes ++ more) (if more = [] then mode else modeAfterWrite mode)
  | .directory => .directory
  | .link target => .link target

/-- A staged file is written through its open handle: where it lies does not
matter, and if it was removed the bytes go nowhere. -/
def append (disk : Disk) (name : Name) (more : Bytes) : Disk :=
  ⟨disk.entries.map fun item =>
    if item.1.name = name then (item.1, appendTo more item.2) else item⟩

/-- Where a staged file lies, if it is still there. -/
def locate (disk : Disk) (here : Place) (staged : Staged) : Except Fault (Location × Option Entry) := do
  let holder ← disk.resolveDirectory here staged.directory
  .ok (⟨holder, staged.name⟩, disk.find? ⟨holder, staged.name⟩)

/-- Renames a staged file to a target. Whatever entry stands there is replaced,
a link like any other, but for a directory. -/
def publish (disk : Disk) (here : Place) (staged : Staged) (target : Path) : Except Fault Disk :=
  if 0 ∈ target.bytes then .error .invalidArgument
  else do
    let (source, entry?) ← disk.locate here staged
    let holder ← disk.resolveHolder here target
    match target.lastStep?, entry? with
    | some (.down name), some entry =>
      if Name.tooLong (.plain name) then .error .nameTooLong
      else if target.endsInSlash then .error .notADirectory
      else if disk.find? ⟨holder, .plain name⟩ = some .directory then .error .isADirectory
      else .ok ((disk.erase source).insert ⟨holder, .plain name⟩ entry)
    | some (.down _), none => .error .noSuchEntry
    | _, _ => .error .busy

def discard (disk : Disk) (here : Place) (staged : Staged) : Except Fault Disk := do
  match ← disk.locate here staged with
  | (_, none) => .error .noSuchEntry
  | (source, some _) => .ok (disk.erase source)

end Disk

end CommentFold
