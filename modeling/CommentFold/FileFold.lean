import CommentFold.Replacement

/-! Folding the comments of one file in place. All of it is read and folded before
anything is staged, so a failure before the commit leaves the file as it was. -/

namespace CommentFold

structure Report where
  path : Path
  lines : Nat
  blocks : Nat
  deriving DecidableEq, Repr

variable {m : Type → Type} {σ : Type} [Monad m] [Storage m σ]

/-- Puts a folded document in the place of a file, staged with the file's mode. -/
def replaceFile (path : Path) (source : Source) (document : Document) : m (Outcome Report) := do
  match source.mode with
  | .error fault => pure (.failed (.modeUnknown path fault))
  | .ok mode =>
    let begun ← Replacement.begin path mode
    begun.andThen fun replacement => do
      let completed ← replacement.complete (Utf8.encode document.contents)
      completed.andThen fun () =>
        pure ⟨[.folded document.lines document.blocks], .ok ⟨path, document.lines, document.blocks⟩⟩

def foldFile (path : Path) (trailing : Trailing) : m (Outcome Report) := do
  match ← Storage.fetch path with
  | .error fault => pure (.failed (.unreadable path none fault))
  | .ok source => (Document.fold path trailing source.lines).andThen (replaceFile path source)

end CommentFold
