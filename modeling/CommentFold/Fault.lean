import CommentFold.SystemMessage

/-! What can go wrong with a file or a stream: a numbered refusal of the
operating system, a fault known by its kind alone, or one that brings its own
words. -/

namespace CommentFold

inductive FaultKind where
  | notFound
  | permissionDenied
  | invalidData
  | unexpectedEnd
  | interrupted
  | timedOut
  | other
  deriving DecidableEq, Repr

def FaultKind.message : FaultKind → Text
  | notFound => "entity not found".toList
  | permissionDenied => "permission denied".toList
  | invalidData => "invalid data".toList
  | unexpectedEnd => "unexpected end of file".toList
  | interrupted => "operation interrupted".toList
  | timedOut => "timed out".toList
  | other => "other error".toList

inductive Fault where
  | system (code : Nat)
  | plain (kind : FaultKind)
  | described (message : Text)
  deriving DecidableEq, Repr

namespace Fault

def noSuchEntry : Fault := .system 2

def permissionDenied : Fault := .system 13

def busy : Fault := .system 16

def alreadyExists : Fault := .system 17

def notADirectory : Fault := .system 20

def isADirectory : Fault := .system 21

def invalidArgument : Fault := .system 22

def nameTooLong : Fault := .system 36

def tooManyLinks : Fault := .system 40

def invalidText : Fault := .described "stream did not contain valid UTF-8".toList

def nulInName : Fault := .described "file name contained an unexpected NUL byte".toList

/-- A stream that takes no more bytes without saying why. -/
def nothingTaken : Fault := .described "failed to write whole buffer".toList

def message : Fault → Text
  | .system code => systemMessage code ++ " (os error ".toList ++ Nat.toDigits 10 code ++ [')']
  | .plain kind => kind.message
  | .described message => message

end Fault

/-- A request that is done in two parts succeeds if both do. -/
theorem bind_eq_ok {α β : Type} {first : Except Fault α} {next : α → Except Fault β} {value : β}
    (done : first >>= next = .ok value) : ∃ middle, first = .ok middle ∧ next middle = .ok value := by
  cases first with
  | error fault => cases done
  | ok middle => exact ⟨middle, rfl, done⟩

end CommentFold
