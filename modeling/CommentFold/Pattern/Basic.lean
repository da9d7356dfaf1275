import CommentFold.Pattern.CharSet
import CommentFold.Pattern.Boundary

/-! Patterns, which say what a part of a text looks like. They are built by
functions that bring them into a simpler form: parts of a sequence are no
sequences themselves, neighbouring texts are one, choices between characters are
sets, and what all choices start with stands before them. -/

namespace CommentFold

inductive Times where
  | optional
  | anyNumber
  | atLeastOnce
  deriving DecidableEq, Repr

/-- A group keeps its number, by which it differs from all other groups. -/
inductive Pattern where
  | empty
  | literal (text : Text)
  | one (set : CharSet)
  | boundary (boundary : Boundary)
  | group (number : Nat) (body : Pattern)
  | repetition (times : Times) (greedy : Bool) (body : Pattern)
  | sequence (first rest : Pattern)
  | choice (first rest : Pattern)
  deriving DecidableEq, Repr

namespace Pattern

/-- The length of the shortest text that a pattern can take. A set without
characters takes none, and nothing is known of a pattern that has one. -/
def shortest? : Pattern → Option Nat
  | empty | boundary _ => some 0
  | literal text => some text.length
  | one set => if set = .empty then none else some 1
  | group _ body => body.shortest?
  | repetition times _ body => body.shortest?.map fun length => if times = .atLeastOnce then length else 0
  | sequence first rest => do return (← first.shortest?) + (← rest.shortest?)
  | choice first rest => do return min (← first.shortest?) (← rest.shortest?)

/-- Every match takes a character. -/
def takesText (pattern : Pattern) : Bool := pattern.shortest?.any (0 < ·)

/-- No match takes a character. -/
def takesNothing : Pattern → Bool
  | empty | boundary _ => true
  | literal _ | one _ => false
  | group _ body => body.takesNothing
  | repetition times _ body => times = .optional && body.takesNothing
  | sequence first rest | choice first rest => first.takesNothing && rest.takesNothing

/-- What takes no character need not be repeated. -/
def repeated (times : Times) (greedy : Bool) (body : Pattern) : Pattern :=
  if body.takesNothing then
    if times = .atLeastOnce then body else repetition .optional greedy body
  else repetition times greedy body

def ofSet (set : CharSet) : Pattern :=
  match set.single? with
  | some c => literal [c]
  | none => one set

/-- The parts of a sequence. -/
def parts : Pattern → List Pattern
  | empty => []
  | sequence first rest => first :: rest.parts
  | pattern => [pattern]

/-- Puts a part before others, to which it adds its text if they start with one. -/
def joinText (part : Pattern) (rest : List Pattern) : List Pattern :=
  match part, rest with
  | literal first, literal second :: rest => literal (first ++ second) :: rest
  | part, rest => part :: rest

def chain : List Pattern → Pattern
  | [] => empty
  | [last] => last
  | first :: rest => sequence first (chain rest)

def sequenceOf (patterns : List Pattern) : Pattern :=
  chain ((patterns.flatMap parts).foldr joinText [])

def branches : Pattern → List Pattern
  | choice first rest => first :: rest.branches
  | pattern => [pattern]

def fork : List Pattern → Pattern
  | [] => one .empty
  | [last] => last
  | first :: rest => choice first (fork rest)

def singleChar? : Pattern → Option CharSet
  | literal [c] => some (.only c)
  | _ => none

def set? : Pattern → Option CharSet
  | one set => some set
  | _ => none

/-- A choice between single characters is a set, and so is one between sets. -/
def mergedSet? (patterns : List Pattern) : Option CharSet :=
  ((patterns.mapM singleChar?).orElse fun _ => patterns.mapM set?).map CharSet.unions

/-- A choice whose branches are left as they are. -/
def choiceOf (patterns : List Pattern) : Pattern :=
  let branches := patterns.flatMap branches
  match branches with
  | [] | [_] => fork branches
  | _ =>
    match mergedSet? branches with
    | some set => ofSet set
    | none => fork branches

def commonParts : List Pattern → List Pattern → List Pattern
  | first :: rest, other :: others => if first = other then first :: commonParts rest others else []
  | _, _ => []

/-- The parts that all of some sequences start with. -/
def sharedParts : List Pattern → List Pattern
  | [] => []
  | first :: rest => rest.foldl (fun shared pattern => commonParts shared pattern.parts) first.parts

def isSequence : Pattern → Bool
  | sequence _ _ => true
  | _ => false

/-- A choice between sequences with the same start is that start and a choice
between their ends. -/
def alternatives (patterns : List Pattern) : Pattern :=
  match choiceOf patterns with
  | choice first rest =>
    let branches := first :: rest.branches
    let shared := sharedParts branches
    if branches.all isSequence && !shared.isEmpty then
      sequenceOf (shared ++
        [choiceOf (branches.map fun branch => sequenceOf (branch.parts.drop shared.length))])
    else choice first rest
  | pattern => pattern

end Pattern

end CommentFold
