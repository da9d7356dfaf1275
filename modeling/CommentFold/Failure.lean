import CommentFold.Fault
import CommentFold.Path

/-! Why a file was not folded. Every failure names the file. A line is known
when the banner is wrong there, and when reading failed after the file was
opened. -/

namespace CommentFold

inductive Failure where
  | bannerMismatch (path : Path) (line : Nat)
  | unreadable (path : Path) (line? : Option Nat) (fault : Fault)
  | modeUnknown (path : Path) (fault : Fault)
  | unwritable (path : Path) (fault : Fault)
  | uncommitted (path : Path) (fault : Fault)
  deriving DecidableEq, Repr

namespace Failure

def path : Failure → Path
  | bannerMismatch path _ | unreadable path _ _ | modeUnknown path _ | unwritable path _
  | uncommitted path _ => path

def line? : Failure → Option Nat
  | bannerMismatch _ line => some line
  | unreadable _ line? _ => line?
  | modeUnknown .. | unwritable .. | uncommitted .. => none

def message : Failure → Text
  | bannerMismatch .. => "first lines of file do not contain the version preamble".toList
  | unreadable _ _ fault => "failed to read file: ".toList ++ fault.message
  | modeUnknown _ fault => "failed to stat file: ".toList ++ fault.message
  | unwritable _ fault => "failed to write replacement: ".toList ++ fault.message
  | uncommitted _ fault => "failed to commit replacement: ".toList ++ fault.message

/-- The failure on one line: file, line or -1, and cause. -/
def diagnostic (failure : Failure) : Text :=
  let line := match failure.line? with
    | some line => Nat.toDigits 10 line
    | none => "-1".toList
  failure.path.shown ++ " line ".toList ++ line ++ ": ".toList ++ failure.message

end Failure

end CommentFold
