import CommentFold.CommandLine.Run
import CommentFold.Disk.Lookup

/-! The program on a real disk. Nothing is decided here: each request is passed
on, and a refusal is turned into a fault. The standard library reads paths as
text and does not show the mode of a file, so a path that is no text is refused,
and every file counts as one that all may read and its owner may write. -/

namespace CommentFold.SystemHost

def faultOf : IO.Error → Fault
  | .alreadyExists _ code _ | .resourceBusy code _ | .resourceVanished code _
  | .unsupportedOperation code _ | .hardwareFault code _ | .unsatisfiedConstraints code _
  | .illegalOperation code _ | .protocolError code _ | .timeExpired code _
  | .interrupted _ code _ | .noFileOrDirectory _ code _ | .invalidArgument _ code _
  | .permissionDenied _ code _ | .resourceExhausted _ code _ | .inappropriateType _ code _
  | .noSuchThing _ code _ | .otherError code _ => .system code.toNat
  | .unexpectedEof => .plain .unexpectedEnd
  | .userError message => .described message.toList

/-- Turns what an action throws into a fault. -/
def caught {α : Type} (action : IO α) : IO (Except Fault α) := do
  try
    return .ok (← action)
  catch error =>
    return .error (faultOf error)

/-- A file that was staged: its open handle and its path. -/
structure HostFile where
  handle : IO.FS.Handle
  path : String

def pathText (path : Path) : Except Fault String := do
  path.check
  match Utf8.decode? path.bytes with
  | some text => .ok (String.ofList text)
  | none => .error .invalidText

def assumedMode : Nat := 0o644

def access (mode place : Nat) : IO.AccessRight :=
  ⟨mode.testBit (place + 2), mode.testBit (place + 1), mode.testBit place⟩

def rights (mode : Nat) : IO.FileRight := ⟨access mode 6, access mode 3, access mode 0⟩

def fetch (path : String) : IO Source := do
  let handle ← IO.FS.Handle.mk path .read
  let contents ← caught handle.readBinToEnd
  return ⟨contents.map ByteArray.toList, .ok assumedMode⟩

def randomAlphabet : List Char :=
  "ABCDEFGHIJKLMNOPQRSTUVWXYZabcdefghijklmnopqrstuvwxyz0123456789".toList

def drawName (stem : String) : IO String := do
  let drawn ← (List.range Name.randomLength).mapM fun _ => do
    let index ← IO.rand 0 (randomAlphabet.length - 1)
    return randomAlphabet.getD index 'x'
  return stem ++ String.ofList drawn ++ ".tmp"

def maxAttempts : Nat := 65536

/-- Creates a file with a drawn name, and draws again while the name is taken. -/
def create (directory stem : String) : Nat → IO (HostFile × String)
  | 0 => throw (.userError "too many temporary files exist")
  | attempts + 1 => do
    let name ← drawName stem
    let path := directory ++ "/" ++ name
    try
      return (⟨← IO.FS.Handle.mk path .writeNew, path⟩, name)
    catch
      | .alreadyExists .. => create directory stem attempts
      | error => throw error

def stage (directory stem : String) (mode : Nat) : IO (HostFile × Text) := do
  let (file, name) ← create directory stem maxAttempts
  try
    IO.setAccessRights file.path (rights mode)
  catch error =>
    IO.FS.removeFile file.path
    throw error
  return (file, name.toList)

/-- Asks for something about a path, if it can be asked for. -/
def withPath {α : Type} (path : Path) (action : String → IO α) : IO (Except Fault α) :=
  match pathText path with
  | .ok name => caught (action name)
  | .error fault => return .error fault

instance : Storage IO HostFile where
  fetch path := withPath path fetch
  stage directory stem mode := withPath directory fun name =>
    stage name (String.ofList (Utf8.decodeLossy stem)) mode
  append file bytes := caught (file.handle.write bytes.toByteArray)
  publish file target := withPath target fun name => do
    file.handle.flush
    IO.FS.rename file.path name
  discard file := caught (IO.FS.removeFile file.path)

instance : Console IO where
  print bytes := caught do
    let output ← IO.getStdout
    output.write bytes.toByteArray
    output.flush
  complain bytes := do
    let _ ← caught do (← IO.getStderr).write bytes.toByteArray
  log line := do
    let _ ← caught do (← IO.getStderr).putStrLn (String.ofList line)

end CommentFold.SystemHost

def main (arguments : List String) : IO UInt32 := do
  let encoded := arguments.map fun argument => CommentFold.Utf8.encode argument.toList
  let status ← (CommentFold.CommandLine.run encoded : IO CommentFold.CommandLine.ExitStatus)
  return UInt32.ofNat status.code
