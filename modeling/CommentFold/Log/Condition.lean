import CommentFold.Pattern.Automaton
import CommentFold.Pattern.Reader

/-! Conditions of directives, which stand in brackets. A condition gives the name
of a scope, or the name of a field in braces, or both. An equals sign and a value
may follow the name of the field. -/

namespace CommentFold

/-! Numerals, which are how a number can be written: digits with perhaps a point
among them, and perhaps an exponent. A sign may come first. Infinity and what is
not a number count as numbers, in any case of letters. -/

def withoutSign : Text → Text
  | '+' :: rest | '-' :: rest => rest
  | text => text

def isExponent : Text → Bool
  | [] => true
  | 'e' :: rest => withoutSign rest ≠ [] && (withoutSign rest).all Char.isDigit
  | _ => false

def isUnsignedNumeral (text : Text) : Bool :=
  let whole := text.takeWhile Char.isDigit
  match text.dropWhile Char.isDigit with
  | '.' :: rest => whole ++ rest.takeWhile Char.isDigit ≠ [] && isExponent (rest.dropWhile Char.isDigit)
  | rest => whole ≠ [] && isExponent rest

def isNumeral (text : Text) : Bool :=
  let number := (withoutSign text).map Char.toLower
  ["inf".toList, "infinity".toList, "nan".toList].contains number || isUnsignedNumeral number

namespace Log

/-- What can be wrong with a log filter. -/
inductive FilterFault where
  | badDirective
  | badLevel
  | badPattern (fault : PatternFault)
  deriving DecidableEq, Repr

def FilterFault.message : FilterFault → Text
  | badDirective => "invalid filter directive".toList
  | badLevel =>
    ("error parsing level filter: expected one of \"off\", \"error\", \"warn\", \"info\", " ++
      "\"debug\", \"trace\", or a number 0-5").toList
  | badPattern fault => "invalid field filter: ".toList ++ fault.message

/-- Why a text gives no filter. It is refused; or the reader breaks off, because a
part that it cuts out of the text starts or ends within a character. -/
inductive Unread where
  | refused (fault : FilterFault)
  | brokenOff
  deriving DecidableEq, Repr

/-- A value to compare with, as it was written. It has no pattern if it is a
number or a truth value; no text is equal to one of those. -/
structure ValueTest where
  written : Text
  pattern? : Option Pattern
  deriving DecidableEq, Repr

namespace ValueTest

def parse (text : Text) : Except FilterFault ValueTest :=
  if text = "true".toList || text = "false".toList || isNumeral text then .ok ⟨text, none⟩
  else match Pattern.parse text with
    | .ok pattern => .ok ⟨text, some pattern⟩
    | .error fault => .error (.badPattern fault)

def holds (test : ValueTest) (value : Text) : Bool := test.pattern?.any (·.fits value)

end ValueTest

structure FieldTest where
  name : Text
  value? : Option ValueTest
  deriving DecidableEq, Repr

namespace FieldTest

/-- The value ends at another equals sign, and the rest does not count. -/
def parse (text : Text) : Except FilterFault FieldTest :=
  let name := text.takeWhile (· ≠ '=')
  match text.dropWhile (· ≠ '=') with
  | [] => .ok ⟨name, none⟩
  | _ :: rest => (ValueTest.parse (rest.takeWhile (· ≠ '='))).map (⟨name, some ·⟩)

def holds (test : FieldTest) (fields : List (Text × Text)) : Bool :=
  test.value?.all fun value => fields.any fun field => field.1 = test.name && value.holds field.2

end FieldTest

/-- The characters of a text, each with the place of its first byte. -/
abbrev Placed := List (Nat × Char)

namespace Placed

/-- The places from a given one on. -/
def ofText (place : Nat) : Text → Placed
  | [] => []
  | c :: rest => (place, c) :: ofText (place + c.utf8Size) rest

/-- What is left from the first of some characters on. -/
def find (stops : List Char) (text : Placed) : Placed := text.dropWhile (!stops.contains ·.2)

end Placed

/-- A part of a text that was to be cut out. -/
def cutOut (part? : Option Text) : Except Unread Text :=
  match part? with
  | some part => .ok part
  | none => .error .brokenOff

structure Condition where
  name? : Option Text
  field? : Option FieldTest
  deriving DecidableEq, Repr

namespace Condition

/-- Reads a field, which starts at a place of the text, up to its closing brace and
the bracket that has to follow it. -/
def readField (text : Text) (start : Nat) (inside : Placed) : Except Unread (FieldTest × Placed) :=
  match inside.find ['\x7d'] with
  | [] => .error (.refused .badDirective)
  | (last, _) :: rest => do
    let written ← cutOut (Utf8.between? text start last)
    if written = [] then .error (.refused .badDirective)
    else
      let field ← (FieldTest.parse written).mapError .refused
      match rest with
      | (_, ']') :: rest => .ok (field, rest)
      | _ => .error (.refused .badDirective)

/-- Reads a condition, which starts at a place of the text, up to its closing
bracket, and returns what follows. -/
def read (text : Text) (start : Nat) (inside : Placed) : Except Unread (Condition × Placed) :=
  match inside.find [']', '\x7b'] with
  | [] => .error (.refused .badDirective)
  | (last, stop) :: rest => do
    let name ← cutOut (Utf8.between? text start last)
    if stop = ']' then .ok (⟨some name, none⟩, rest)
    else
      let (field, rest) ← readField text (last + 1) rest
      return (⟨if name = [] then none else some name, some field⟩, rest)

def fieldNames (condition : Condition) : List Text := (condition.field?.map (·.name)).toList

/-- A condition without a scope or a value can be met by events themselves. -/
def isAboutEvents (condition : Condition) : Bool :=
  condition.name? = none && condition.field?.all (·.value? = none)

/-- A scope is meant whatever the values of its fields are. -/
def meansScope (condition : Condition) (name : Text) (fields : List Text) : Bool :=
  condition.name?.all (· = name) && condition.fieldNames.all fields.contains

def holds (condition : Condition) (fields : List (Text × Text)) : Bool := condition.field?.all (·.holds fields)

end Condition

end Log

end CommentFold
