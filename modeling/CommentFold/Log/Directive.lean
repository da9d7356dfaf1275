import CommentFold.Log.Condition
import CommentFold.Log.Level
import CommentFold.Text.Alphanumeric
import CommentFold.Text.Blank

/-! Directives, of which a log filter is made. A directive is a level, a target, or
a target and a level with an equals sign between them. A condition in brackets
may follow the target. It selects among the events, or makes the directive one
about scopes. -/

namespace CommentFold.Log

/-- The value of decimal digits, of which there must be one. A plus sign may
stand before them. -/
def number? (text : Text) : Option Nat :=
  let digits := match text with
    | '+' :: rest => rest
    | _ => text
  if digits ≠ [] ∧ digits.all Char.isDigit then
    some (digits.foldl (fun value digit => 10 * value + (digit.toNat - '0'.toNat)) 0)
  else none

/-- A level is its name in any case of letters, or its place in the order. -/
def Level.ofText? (text : Text) : Option Level :=
  match Level.all.find? fun level => level.name = text.map Char.toLower with
  | some level => some level
  | none => (number? text).bind (Level.all[·]?)

structure Directive where
  target : Text
  condition? : Option Condition
  level : Level
  deriving DecidableEq, Repr

namespace Directive

/-- A directive starts with a condition, an alphanumeric character or one of
three others. -/
def mayStart (c : Char) : Bool := c = '[' || c = '-' || c = ':' || c = '_' || isAlphanumeric c

/-- A word without an equals sign is a level or, if it is none, a target with
everything shown. -/
def ofWord (word : Text) : Directive :=
  match Level.ofText? word with
  | some level => ⟨[], none, level⟩
  | none => ⟨word, none, .trace⟩

/-- The level that stands from a place of the text on, blanks at the end included.
Where it is left out everything shows. -/
def levelFrom (text : Text) (start : Nat) : Except Unread Level := do
  let written ← cutOut (Utf8.rest? text start)
  if written = [] then .ok .trace
  else match Level.ofText? written with
    | some level => .ok level
    | none => .error (.refused .badLevel)

/-- The level that a directive gives in what follows its condition. -/
def givenLevel (text : Text) (rest : Placed) : Except Unread Level :=
  match rest with
  | [] => .ok .trace
  | (place, '=') :: _ => levelFrom text (place + 1)
  | _ => .error (.refused .badDirective)

/-- A target ends at the first equals sign or opening bracket. A directive is read
without the blanks around it, but its parts are cut out of the text with them, at
the same places; so a blank at the start moves all of them. -/
def parse (text : Text) : Except Unread Directive :=
  if !(trim text).head?.any mayStart then .error (.refused .badDirective)
  else match (Placed.ofText 0 (trim text)).find ['=', '['] with
    | [] => .ok (.ofWord text)
    | (last, stop) :: rest => do
      let target ← cutOut (Utf8.between? text 0 last)
      if stop = '[' then
        let (condition, rest) ← Condition.read text (last + 1) rest
        return ⟨target, some condition, ← givenLevel text rest⟩
      else return ⟨target, none, ← levelFrom text (last + 1)⟩

def coversTopic (directive : Directive) (topic : Text) : Bool :=
  directive.target.isPrefixOf topic

/-- The fields that an event must have. -/
def fieldNames (directive : Directive) : List Text := (directive.condition?.map (·.fieldNames)).getD []

/-- Scopes are items of the log as well as events are, but none of their fields is
asked for here. -/
def coversItem (directive : Directive) (topic : Text) : Bool :=
  directive.coversTopic topic && directive.condition?.all (·.isAboutEvents)

def coversEvent (directive : Directive) (topic : Text) (fields : List Text) : Bool :=
  directive.coversItem topic && directive.fieldNames.all fields.contains

/-- A scope is covered by its topic and by a condition that means it. -/
def coversScope (directive : Directive) (topic name : Text) (fields : List Text) : Bool :=
  directive.coversTopic topic && directive.condition?.any (·.meansScope name fields)

/-- The order of names is that of the code points in them. -/
def isBefore (name other : Text) : Bool := name.lex other fun c d => c.toNat < d.toNat

/-- A directive is at least as specific as another that covers the same topic if
its target is longer, or as long and what it asks of an event's fields is not
before what the other asks. Asking for nothing is before asking for a field. -/
def isAsSpecific (directive other : Directive) : Bool :=
  other.target.length < directive.target.length ||
    (other.target.length = directive.target.length &&
      !directive.fieldNames.lex other.fieldNames isBefore)

/-- The later of two directives with one target and one condition replaces the
other. -/
def replaces (directive other : Directive) : Bool :=
  directive.target = other.target && directive.condition? = other.condition?

end Directive

end CommentFold.Log
