import CommentFold.Text.Utf8

/-! The forms that the log can take. -/

namespace CommentFold.Log

inductive Format where
  | compact
  | json
  deriving DecidableEq, Repr, Inhabited

namespace Format

def name : Format → Text
  | compact => "compact".toList
  | json => "json".toList

/-- A format is its name in any case of letters. -/
def ofText? (text : Text) : Option Format :=
  [Format.compact, .json].find? fun format => format.name = text.map Char.toLower

/-- Said of a text that is no format. -/
def unknownMessage : Text := "Matching variant not found".toList

end Format

end CommentFold.Log
