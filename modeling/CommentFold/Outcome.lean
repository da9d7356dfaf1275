import CommentFold.Event
import CommentFold.Failure

/-! The outcome of a part of the work on a file: what it told, in order, and
what came of it. A part that fails has told its events all the same. -/

namespace CommentFold

structure Outcome (α : Type) where
  events : List Event
  result : Except Failure α

namespace Outcome

variable {α β : Type} {m : Type → Type} [Monad m]

def done (value : α) : Outcome α := ⟨[], .ok value⟩

def failed (failure : Failure) : Outcome α := ⟨[], .error failure⟩

/-- The same result after earlier events. -/
def preceded (earlier : List Event) (outcome : Outcome α) : Outcome α :=
  ⟨earlier ++ outcome.events, outcome.result⟩

/-- Goes on after a success, and ends with a failure. -/
def andThen (outcome : Outcome α) (next : α → m (Outcome β)) : m (Outcome β) :=
  match outcome.result with
  | .ok value => preceded outcome.events <$> next value
  | .error failure => pure ⟨outcome.events, .error failure⟩

theorem andThen_ok (events : List Event) (value : α) (next : α → m (Outcome β)) :
    andThen ⟨events, .ok value⟩ next = preceded events <$> next value := rfl

theorem andThen_error (events : List Event) (failure : Failure) (next : α → m (Outcome β)) :
    andThen ⟨events, .error failure⟩ next = pure ⟨events, .error failure⟩ := rfl

@[simp] theorem preceded_nil (outcome : Outcome α) : preceded [] outcome = outcome := rfl

end Outcome

end CommentFold
