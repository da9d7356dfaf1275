import CommentFold.Line

/-! The text of a block comment. All its lines take the indent of the first
comment line, whatever their own. -/

namespace CommentFold

/-- What becomes of a block that the end of the input finds open. -/
inductive Trailing where
  | leave
  | close
  deriving DecidableEq, Repr, Inhabited

namespace Block

def plainLine (raw : Text) : Text := raw ++ ['\n']

def openingMarker (indent : Text) : Text := plainLine (indent ++ "/**".toList)

def commentLine (indent body : Text) : Text := plainLine (indent ++ " *".toList ++ body)

def closingMarker (indent : Text) : Text := plainLine (indent ++ " */".toList)

end Block

end CommentFold
