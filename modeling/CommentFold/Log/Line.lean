import CommentFold.Event
import CommentFold.Log.Filter
import CommentFold.Log.Format

/-! The line of an event in the log. The compact form is for people: level, scope,
topic and message, then the fields, the scope's last. The other is one JSON
object, in which the fields stand beside level and message. -/

namespace CommentFold

/-! Quoted text in JSON. Quotes and backslashes take a backslash, and so do
control characters: the common ones have a letter, the others four hexadecimal
digits. -/

namespace Quoted

def escape (c : Char) : Text :=
  match c with
  | '"' => ['\\', '"']
  | '\\' => ['\\', '\\']
  | '\n' => ['\\', 'n']
  | '\r' => ['\\', 'r']
  | '\t' => ['\\', 't']
  | '\x08' => ['\\', 'b']
  | '\x0c' => ['\\', 'f']
  | c =>
    if c.toNat < 0x20 then
      ['\\', 'u', '0', '0'] ++ [Nat.digitChar (c.toNat / 16), Nat.digitChar (c.toNat % 16)]
    else [c]

def quote (text : Text) : Text := ['"'] ++ text.flatMap escape ++ ['"']

end Quoted

namespace Log

def field (name value : Text) : Text := name ++ ['='] ++ value

def jsonValue : FieldValue → Text
  | .number value => Nat.toDigits 10 value
  | .text value => Quoted.quote value

def upperCase (text : Text) : Text := text.map Char.toUpper

def compactLine (scope? : Option Scope) (event : Event) : Text :=
  let head := upperCase event.level.name ++ [' '] ++
    (match scope? with
      | some _ => Scope.name ++ ": ".toList
      | none => []) ++
    event.topic ++ ": ".toList ++ event.message
  let fields := event.fields ++ (scope?.map Scope.fields).getD []
  [' '].intercalate (head :: fields.map fun (name, value) => field name value.shown)

def member (name value : Text) : Text := Quoted.quote name ++ [':'] ++ value

def object (members : List Text) : Text := ['\x7b'] ++ [','].intercalate members ++ ['\x7d']

def scopeObject (scope : Scope) : Text :=
  object (scope.fields.map (fun (name, value) => member name (jsonValue value)) ++
    [member "name".toList (Quoted.quote Scope.name)])

def jsonLine (scope? : Option Scope) (event : Event) : Text :=
  object (
    [member "level".toList (Quoted.quote (upperCase event.level.name)),
      member "message".toList (Quoted.quote event.message)] ++
    event.fields.map (fun (name, value) => member name (jsonValue value)) ++
    [member "target".toList (Quoted.quote event.topic)] ++
    match scope? with
    | some scope =>
      [member "span".toList (scopeObject scope),
        member "spans".toList (['['] ++ scopeObject scope ++ [']'])]
    | none => [])

/-- The level up to which a scope lets the events in it show. -/
def limitWithin? (filter : Filter) (scope : Scope) : Option Level :=
  filter.scopeLimit? Scope.topic Scope.name (scope.fields.map fun (name, value) => (name, value.shown))

/-- The line of an event, or none if the filter hides it. A hidden scope is left
out of the line; a directive about the scope lets it show. -/
def line? (filter : Filter) (format : Format) (scope? : Option Scope) (event : Event) : Option Text :=
  let within? := scope?.bind (limitWithin? filter)
  if (filter.eventLimit event.topic event.fieldNames).admits event.level ||
      within?.any (·.admits event.level) then
    let shown? := scope?.filter fun _ =>
      within?.isSome || (filter.itemLimit Scope.topic).admits Scope.level
    some (match format with
      | .compact => compactLine shown? event
      | .json => jsonLine shown? event)
  else none

end Log

end CommentFold
