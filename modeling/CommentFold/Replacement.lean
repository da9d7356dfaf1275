import CommentFold.Host

/-! A pending replacement of a file. Readers of the target see the old contents
until the commit and the new ones after it. However a replacement ends, its
staged file is gone. -/

namespace CommentFold

structure Replacement (σ : Type) where
  target : Path
  staged : σ

namespace Replacement

variable {m : Type → Type} {σ : Type} [Monad m] [Storage m σ]

def begin (target : Path) (mode : Nat) : m (Outcome (Replacement σ)) := do
  match ← Storage.stage target.stagingDirectory target.stagingStem mode with
  | .ok (staged, name) => pure ⟨[.staged target name], .ok ⟨target, staged⟩⟩
  | .error fault => pure (.failed (.unwritable target fault))

def append (replacement : Replacement σ) (bytes : Bytes) : m (Outcome Unit) := do
  match ← Storage.append replacement.staged bytes with
  | .ok () => pure (.done ())
  | .error fault => pure (.failed (.unwritable replacement.target fault))

/-- Gives up without a word. -/
def drop (replacement : Replacement σ) : m Unit := do
  let _ ← Storage.discard replacement.staged

def commit (replacement : Replacement σ) : m (Outcome Unit) := do
  match ← Storage.publish replacement.staged replacement.target with
  | .ok () => pure ⟨[.committed replacement.target], .ok ()⟩
  | .error fault =>
    replacement.drop
    pure (.failed (.uncommitted replacement.target fault))

/-- Gives up and says whether the staged file could be removed. -/
def abort (replacement : Replacement σ) : m (Except Fault Unit) :=
  Storage.discard replacement.staged

/-- Appends all there is to write and commits. -/
def complete (replacement : Replacement σ) (bytes : Bytes) : m (Outcome Unit) := do
  let written ← replacement.append bytes
  match written.result with
  | .ok () => replacement.commit
  | .error _ =>
    replacement.drop
    pure written

end Replacement

end CommentFold
