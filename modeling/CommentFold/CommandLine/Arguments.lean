import CommentFold.Block
import CommentFold.CommandLine.Flag
import CommentFold.Log.Format
import CommentFold.Path
import CommentFold.Text.Printable

/-! Reading the command line, from left to right, up to the first flag that asks
for a text or the first fault. A value that follows its flag as an argument of
its own, and likewise the paths, are looked at only when the next known flag
comes, when values of another kind begin, or at the end. An unknown flag is
therefore refused before a bad value that stands in front of it. -/

namespace CommentFold.CommandLine

inductive UsageFault where
  | unexpectedArgument (shown : Text)
  | unexpectedValue (value : Text) (flag : Flag)
  | missingValue (flag : Flag)
  | missingPath
  | repeated (flag : Flag)
  | unknownFormat (value : Text)
  | notText
  deriving DecidableEq, Repr

namespace UsageFault

/-- An argument is shown as far as it is printable. -/
def quoted (text : Text) : Text := ['\x27'] ++ Printable.strip text ++ ['\x27']

def message : UsageFault → Text
  | unexpectedArgument shown => "unexpected argument ".toList ++ quoted shown ++ " found".toList
  | unexpectedValue value flag =>
    "unexpected value ".toList ++ quoted value ++ " for ".toList ++ quoted flag.shown ++
      " found; no more were expected".toList
  | missingValue flag =>
    "a value is required for ".toList ++ quoted flag.shown ++ " but none was supplied".toList
  | missingPath =>
    "a value is required for ".toList ++ quoted "[PATH]...".toList ++ " but none was supplied".toList
  | repeated flag =>
    "the argument ".toList ++ quoted flag.shown ++ " cannot be used multiple times".toList
  | unknownFormat value =>
    "invalid value ".toList ++ quoted value ++ " for ".toList ++ quoted Flag.logFormat.shown ++
      ": ".toList ++ Log.Format.unknownMessage
  | notText => "invalid UTF-8 was detected in one or more arguments".toList

end UsageFault

/-- What the command line sets. What it leaves out has a default. -/
structure Settings where
  closes : Bool
  filter? : Option Text
  format? : Option Log.Format
  paths : List Path
  deriving DecidableEq, Repr

namespace Settings

def initial : Settings := ⟨false, none, none, []⟩

def trailing (settings : Settings) : Trailing := if settings.closes then .close else .leave

def filter (settings : Settings) : Text := settings.filter?.getD "warn".toList

def format (settings : Settings) : Log.Format := settings.format?.getD .compact

end Settings

/-- What a command line asks for. -/
inductive Request where
  | help
  | version
  | fold (settings : Settings)
  deriving DecidableEq, Repr

/-- Values that were read and not yet looked at. -/
inductive Pending where
  | nothing
  | paths (values : List Bytes)
  | value (flag : Flag) (value? : Option Bytes)
  deriving DecidableEq, Repr

/-- A flag is set once. That it was set before is noticed before its value is
looked at. -/
def assign (settings : Settings) (flag : Flag) (value : Bytes) : Except UsageFault Settings :=
  match flag with
  | .logFilter =>
    if settings.filter?.isSome then .error (.repeated flag)
    else match Utf8.decode? value with
      | none => .error .notText
      | some text => .ok { settings with filter? := some text }
  | .logFormat =>
    if settings.format?.isSome then .error (.repeated flag)
    else match Utf8.decode? value with
      | none => .error .notText
      | some text => match Log.Format.ofText? text with
        | none => .error (.unknownFormat text)
        | some format => .ok { settings with format? := some format }
  | .closeTrailingBlock | .help | .version => .ok settings

def setClosing (settings : Settings) : Except UsageFault Settings :=
  if settings.closes then .error (.repeated .closeTrailingBlock)
  else .ok { settings with closes := true }

/-- Looks at pending values. -/
def settle (settings : Settings) : Pending → Except UsageFault Settings
  | .nothing => .ok settings
  | .paths values =>
    if [] ∈ values then .error .missingPath
    else .ok { settings with paths := settings.paths ++ values.map Path.mk }
  | .value flag none => .error (.missingValue flag)
  | .value flag (some value) => assign settings flag value

/-- The first letter of a cluster, or all of it if it starts with none. -/
def firstLetter (letters : Bytes) : Except Bytes Char :=
  match letters with
  | [] => .error letters
  | first :: rest =>
    match Utf8.decode? (letters.take (Utf8.sequenceLength first rest)) with
    | some (letter :: _) => .ok letter
    | _ => .error letters

/-- Only the first letter of a cluster counts, because each known one ends the
reading. -/
def readShort (settings : Settings) (pending : Pending) (letters : Bytes) : Except UsageFault Request :=
  match firstLetter letters with
  | .error letters => .error (.unexpectedArgument ('-' :: Utf8.decodeLossy letters))
  | .ok letter => match Flag.ofLetter? letter with
    | some .help => do
      let _ ← settle settings pending
      .ok .help
    | some .version => do
      let _ ← settle settings pending
      .ok .version
    | _ => .error (.unexpectedArgument ['-', letter])

/-- A path joins the paths that are pending, and settles what else is. -/
def addPath (settings : Settings) (pending : Pending) (bytes : Bytes) :
    Except UsageFault (Settings × Pending) :=
  match pending with
  | .paths values => .ok (settings, .paths (values ++ [bytes]))
  | _ => do
    let settled ← settle settings pending
    .ok (settled, .paths [bytes])

/-- Reads the arguments after an escape. -/
def readPaths (settings : Settings) (pending : Pending) : List Bytes → Except UsageFault Request
  | [] => do
    let settled ← settle settings pending
    .ok (.fold settled)
  | argument :: rest => do
    let (settings, pending) ← addPath settings pending argument
    readPaths settings pending rest

def readFrom (settings : Settings) (pending : Pending) : List Bytes → Except UsageFault Request
  | [] => readPaths settings pending []
  | argument :: rest =>
    match Word.ofArgument argument with
    | .escape => readPaths settings pending rest
    | .short letters => readShort settings pending letters
    | .plain bytes => match pending with
      | .value flag none => readFrom settings (.value flag (some bytes)) rest
      | _ => do
        let (settings, pending) ← addPath settings pending bytes
        readFrom settings pending rest
    | .long name value? => match Flag.ofName? name, value? with
      | none, _ => .error (.unexpectedArgument ("--".toList ++ Utf8.decodeLossy name))
      | some flag, some value =>
        if flag.takesValue then do
          let settled ← settle settings pending
          let assigned ← assign settled flag value
          readFrom assigned .nothing rest
        else .error (.unexpectedValue (Utf8.decodeLossy value) flag)
      | some flag, none => do
        let settled ← settle settings pending
        match flag with
        | .help => .ok .help
        | .version => .ok .version
        | .closeTrailingBlock => do
          let closing ← setClosing settled
          readFrom closing .nothing rest
        | .logFilter | .logFormat => readFrom settled (.value flag none) rest

def readArguments (arguments : List Bytes) : Except UsageFault Request :=
  readFrom .initial .nothing arguments

end CommentFold.CommandLine
