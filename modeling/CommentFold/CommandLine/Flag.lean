import CommentFold.Text.Utf8

/-! The flags of the command line, and the kinds of word that an argument can
be. A word says by its dashes what it is, whatever stands around it. -/

namespace CommentFold.CommandLine

inductive Flag where
  | closeTrailingBlock
  | logFilter
  | logFormat
  | help
  | version
  deriving DecidableEq, Repr

namespace Flag

def all : List Flag := [.closeTrailingBlock, .logFilter, .logFormat, .help, .version]

def name : Flag → Text
  | closeTrailingBlock => "close-trailing-block".toList
  | logFilter => "log-filter".toList
  | logFormat => "log-format".toList
  | help => "help".toList
  | version => "version".toList

/-- What the value of a flag is called, if it takes one. -/
def valueName? : Flag → Option Text
  | logFilter => some "FILTER".toList
  | logFormat => some "FORMAT".toList
  | _ => none

def takesValue (flag : Flag) : Bool := flag.valueName?.isSome

/-- The flag as messages show it. -/
def shown (flag : Flag) : Text :=
  "--".toList ++ flag.name ++ match flag.valueName? with
    | some value => " <".toList ++ value ++ ['>']
    | none => []

def ofName? (name : Bytes) : Option Flag := all.find? fun flag => Utf8.encode flag.name = name

def ofLetter? : Char → Option Flag
  | 'h' => some .help
  | 'V' => some .version
  | _ => none

end Flag

inductive Word where
  /-- Two dashes alone, after which every argument is a path. -/
  | escape
  | long (name : Bytes) (value? : Option Bytes)
  | short (letters : Bytes)
  /-- Anything else, a dash alone included. -/
  | plain (bytes : Bytes)
  deriving DecidableEq, Repr

def dash : UInt8 := 45

def equalsSign : UInt8 := 61

namespace Word

/-- The first equals sign of a long flag ends its name. -/
def ofLong (bytes : Bytes) : Word :=
  .long (bytes.takeWhile (· ≠ equalsSign)) (bytes.dropWhile (· ≠ equalsSign)).tail?

def ofArgument (bytes : Bytes) : Word :=
  match bytes with
  | [first, second] =>
    if first = dash then if second = dash then .escape else .short [second] else .plain bytes
  | first :: second :: rest =>
    if first = dash then if second = dash then ofLong rest else .short (second :: rest)
    else .plain bytes
  | _ => .plain bytes

end Word

end CommentFold.CommandLine
