import CommentFold.Text.Utf8

/-! A path is any sequence of bytes. Its components forget repeated slashes, a
trailing slash and every `.` but a leading one. Its steps are what a look-up
walks: they keep each `.`, because a `.` demands a directory, and end in one
after a trailing slash. Its parent is read off the pieces between slashes, so
that what stands before the last component stays as it is written.

A replacement is staged under the parent of its target. The components of the
staging directory, followed by the file name, are those of the target up to a
leading `.`, so the staged file lies beside the entry that it will replace. -/

namespace CommentFold

def slash : UInt8 := 47

def dot : UInt8 := 46

inductive Component where
  | root
  | here
  | up
  | name (bytes : Bytes)
  deriving DecidableEq, Repr

/-- One step of a look-up, taken from a directory. -/
inductive Step where
  | stay
  | up
  | down (name : Bytes)
  deriving DecidableEq, Repr

def Step.ofSegment (segment : Bytes) : Step :=
  if segment = [dot] then .stay else if segment = [dot, dot] then .up else .down segment

/-- Only a leading `.` is a component. -/
def Step.component? : Step → Option Component
  | .stay => none
  | .up => some .up
  | .down name => some (.name name)

structure Path where
  bytes : Bytes
  deriving DecidableEq, Repr

namespace Path

def ofText (text : Text) : Path := ⟨Utf8.encode text⟩

/-- The path as text, with U+FFFD where it is none. -/
def shown (path : Path) : Text := Utf8.decodeLossy path.bytes

def isAbsolute (path : Path) : Bool := path.bytes.head? = some slash

def endsInSlash (path : Path) : Bool := path.bytes.getLast? = some slash

/-- The parts between slashes that are not empty. -/
def segments (path : Path) : List Bytes := (path.bytes.splitOn slash).filter (· ≠ [])

def steps (path : Path) : List Step :=
  path.segments.map Step.ofSegment ++ if path.endsInSlash then [.stay] else []

/-- The steps to the directory that holds the entry a path names. -/
def leadingSteps (path : Path) : List Step := path.segments.dropLast.map Step.ofSegment

/-- The step to the entry itself. The path `/` and the empty path have none. -/
def lastStep? (path : Path) : Option Step := path.segments.getLast?.map Step.ofSegment

def components (path : Path) : List Component :=
  let start : List Component :=
    if path.isAbsolute then [.root] else if path.segments.head? = some [dot] then [.here] else []
  start ++ (path.segments.map Step.ofSegment).filterMap Step.component?

/-- The last component, if it is a name. -/
def fileName? (path : Path) : Option Bytes :=
  match path.components.getLast? with
  | some (.name bytes) => some bytes
  | _ => none

/-- The second path, taken from the directory that the first leads to. -/
def join (path next : Path) : Path :=
  if next.isAbsolute then next
  else if path.endsInSlash then ⟨path.bytes ++ next.bytes⟩
  else ⟨path.bytes ++ slash :: next.bytes⟩

/-- A piece after a slash that is no component. -/
def isIdle (piece : Bytes) : Bool := piece = [] || piece = [dot]

/-- Pieces after a slash, up to the last that is a component. -/
def dropIdle (pieces : List Bytes) : List Bytes := (pieces.reverse.dropWhile isIdle).reverse

/-- What is written up to the component before the last, which is nothing if there
is none before it. The root and the empty path have no parent. -/
def parent? (path : Path) : Option Path :=
  let pieces := path.bytes.splitOn slash
  let first := pieces.headD []
  let rest := dropIdle pieces.tail
  if rest = [] then if first = [] then none else some ⟨[]⟩
  else
    let kept := dropIdle rest.dropLast
    some (if first = [] ∧ kept = [] then ⟨[slash]⟩ else ⟨[slash].intercalate (first :: kept)⟩)

/-- Where a replacement for the path is staged: beside it. -/
def stagingDirectory (path : Path) : Path :=
  match path.parent? with
  | some parent => if parent.bytes = [] then ⟨[dot]⟩ else parent
  | none => ⟨[dot]⟩

/-- What the name of a staged file starts with, if the target lends it no name. -/
def namelessStem : Bytes := Utf8.encode ".recomment".toList

/-- What the name of a staged file starts with. A target whose name is no text
lends it none. -/
def stagingStem (path : Path) : Bytes :=
  match path.fileName? with
  | some name => if (Utf8.decode? name).isSome then dot :: name else namelessStem
  | none => namelessStem

theorem stagingDirectory_ne_nil (path : Path) : path.stagingDirectory.bytes ≠ [] := by
  unfold stagingDirectory
  split
  · split <;> simp_all
  · simp

end Path

end CommentFold
