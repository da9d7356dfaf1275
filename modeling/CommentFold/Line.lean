import CommentFold.Text.Blank

/-! A line is a comment line if its first characters other than blanks are two
slashes. Its body is what follows them, up to the blanks at the end. -/

namespace CommentFold

inductive LineKind where
  | comment
  | other
  deriving DecidableEq, Repr

/-- A line of a file, with its index counted from zero and without its ending. -/
structure Line where
  index : Nat
  raw : Text
  deriving DecidableEq, Repr

namespace Line

def indent (line : Line) : Text := leadingBlanks line.raw

def trimmed (line : Line) : Text := trim line.raw

/-- The text of a comment line after its slashes. -/
def body? (line : Line) : Option Text :=
  match line.trimmed with
  | '/' :: '/' :: body => some body
  | _ => none

def kind (line : Line) : LineKind := if line.body?.isSome then .comment else .other

theorem body?_eq_some_iff {line : Line} {body : Text} :
    line.body? = some body ↔ line.trimmed = '/' :: '/' :: body := by
  unfold body?
  split
  next found same => simp [same]
  next absent => exact ⟨nofun, fun same => absurd same (absent body)⟩

theorem kind_eq_comment_iff {line : Line} : line.kind = .comment ↔ ∃ body, line.body? = some body := by
  simp [kind, Option.isSome_iff_exists]

theorem kind_eq_other_iff {line : Line} : line.kind = .other ↔ line.body? = none := by
  simp [kind]

end Line

end CommentFold
