import CommentFold.Text.Blank

/-! Flags, which change how a pattern is read. A group can begin with flags for
itself, and flags in parentheses of their own hold to the end of the group around
them. Those after a hyphen are taken back. -/

namespace CommentFold

inductive PatternFlag where
  | ignoreCase
  | multiline
  | dotAll
  | swapGreed
  | unicode
  | crlf
  | spaced
  deriving DecidableEq, Repr

namespace PatternFlag

def ofLetter? : Char → Option PatternFlag
  | 'i' => some ignoreCase
  | 'm' => some multiline
  | 's' => some dotAll
  | 'U' => some swapGreed
  | 'u' => some unicode
  | 'R' => some crlf
  | 'x' => some spaced
  | _ => none

end PatternFlag

/-- The flags that are set. -/
abbrev PatternFlags := List PatternFlag

namespace PatternFlags

def initial : PatternFlags := [.unicode]

def has (flags : PatternFlags) (flag : PatternFlag) : Bool := flags.contains flag

def change (flags : PatternFlags) (flag : PatternFlag) (on : Bool) : PatternFlags :=
  if on then flag :: flags else flags.filter (· ≠ flag)

/-- What ends a list of flags: a colon begins the group that they are for. -/
inductive Ending where
  | group
  | alone
  deriving DecidableEq, Repr

/-- Reads flags up to their end, after those that have been seen. A hyphen stands
once, and not at the end; and flags that stand alone must not be missing. -/
def readFrom? (flags : PatternFlags) (seen : List PatternFlag) (on afterHyphen : Bool) :
    Text → Option (PatternFlags × Ending × Text)
  | [] => none
  | ':' :: rest => if afterHyphen then none else some (flags, .group, rest)
  | ')' :: rest => if afterHyphen || seen.isEmpty then none else some (flags, .alone, rest)
  | '-' :: rest => if on then readFrom? flags seen false true rest else none
  | c :: rest =>
    match PatternFlag.ofLetter? c with
    | some flag =>
      if seen.contains flag then none
      else readFrom? (flags.change flag on) (flag :: seen) on false rest
    | none => none

def read? (flags : PatternFlags) (text : Text) : Option (PatternFlags × Ending × Text) :=
  flags.readFrom? [] true false text

/-- Drops blanks, and comments from a number sign to the end of a line. -/
def dropSpaceFrom (inComment : Bool) : Text → Text
  | [] => []
  | c :: rest =>
    if inComment then dropSpaceFrom (c ≠ '\n') rest
    else if isBlank c then dropSpaceFrom false rest
    else if c = '#' then dropSpaceFrom true rest
    else c :: rest

/-- A spaced pattern may have blanks and comments between its symbols. -/
def dropSpace (flags : PatternFlags) (text : Text) : Text :=
  if flags.has .spaced then dropSpaceFrom false text else text

end PatternFlags

end CommentFold
