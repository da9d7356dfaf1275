import CommentFold.Pattern.Basic
import CommentFold.Pattern.SetReader
import CommentFold.Text.Alphanumeric

/-! The written form of patterns. A dot is any character of a line, brackets give a
set, parentheses a group, a bar a choice; a caret and a dollar sign are the ends of
the text or of a line. A star, a plus and a question mark repeat what is before
them, and a second question mark makes them stop as early as they can. -/

namespace CommentFold

inductive PatternFault where
  | malformed
  | edgeInUnicode
  deriving DecidableEq, Repr

def PatternFault.message : PatternFault → Text
  | malformed => "error building NFA".toList
  | edgeInUnicode =>
    ("unsupported regex feature for DFAs: cannot build DFAs for regexes with Unicode word " ++
      "boundaries; switch to ASCII word boundaries, or heuristically enable Unicode word " ++
      "boundaries or use a different regex engine").toList

namespace PatternReader

/-- A part of a group. Flags are one too, but they cannot be repeated. -/
structure Part where
  pattern : Nested Pattern
  isFlags : Bool
  deriving DecidableEq, Repr

/-- The finished choices of a group and the parts of the current one, each latest
first. -/
structure Frame where
  choices : List (Nested Pattern)
  parts : List Part
  deriving DecidableEq, Repr

namespace Frame

def initial : Frame := ⟨[], []⟩

def add (frame : Frame) (pattern : Nested Pattern) : Frame :=
  ⟨frame.choices, ⟨pattern, false⟩ :: frame.parts⟩

def addFlags (frame : Frame) : Frame := ⟨frame.choices, ⟨⟨.empty, 0⟩, true⟩ :: frame.parts⟩

def current (frame : Frame) : Nested Pattern :=
  let parts := frame.parts.reverse.map (·.pattern)
  ⟨.sequenceOf (parts.map (·.value)), jointDepth (parts.map (·.depth))⟩

def nextChoice (frame : Frame) : Frame := ⟨frame.current :: frame.choices, []⟩

def whole (frame : Frame) : Nested Pattern :=
  match frame.choices with
  | [] => frame.current
  | choices =>
    let all := (frame.current :: choices).reverse
    ⟨.alternatives (all.map (·.value)), jointDepth (all.map (·.depth))⟩

end Frame

/-- What surrounds a group that is being read: its number if it has one, and the
flags and the group to go on with after it. -/
structure Surrounding where
  number? : Option Nat
  flags : PatternFlags
  frame : Frame
  deriving DecidableEq, Repr

/-- The group that is being read, and what surrounds it from the inside out. Groups
with a name have a number too. -/
structure Reader where
  flags : PatternFlags
  groups : Nat
  names : List Text
  hasEdge : Bool
  frame : Frame
  outer : List Surrounding
  deriving DecidableEq, Repr

def initial : Reader := ⟨.initial, 0, [], false, .initial, []⟩

namespace Reader

def setFrame (reader : Reader) (frame : Frame) : Reader :=
  ⟨reader.flags, reader.groups, reader.names, reader.hasEdge, frame, reader.outer⟩

def add (reader : Reader) (pattern : Pattern) : Reader := reader.setFrame (reader.frame.add ⟨pattern, 0⟩)

def addBoundary (reader : Reader) (inText inLines crlf : Boundary) : Reader :=
  reader.add (.boundary (
    if !reader.flags.has .multiline then inText
    else if reader.flags.has .crlf then crlf
    else inLines))

/-- Without Unicode a byte must be one of ASCII, and letters may be of any case. -/
def addCharacter? (reader : Reader) (c : Char) (isByte : Bool) : Option Reader :=
  let flags := reader.flags
  if flags.has .unicode then
    if flags.has .ignoreCase then none else some (reader.add (.literal [c]))
  else if isByte && 0x80 ≤ c.toNat then none
  else if flags.has .ignoreCase then some (reader.add (.ofSet ((CharSet.only c).union (.only (otherCase c)))))
  else some (reader.add (.literal [c]))

/-- A dot needs Unicode, without which it could be part of a character. -/
def addDot? (reader : Reader) : Option Reader :=
  let flags := reader.flags
  let others : List (Char × Char) :=
    if flags.has .dotAll then [] else if flags.has .crlf then [('\n', '\n'), ('\r', '\r')] else [('\n', '\n')]
  if flags.has .unicode then some (reader.add (.ofSet (CharSet.ofRanges others).complement)) else none

/-- An edge of a word is known in ASCII only. -/
def addEscape? (reader : Reader) : Escape → Option Reader
  | .character c => reader.addCharacter? c false
  | .byte c => reader.addCharacter? c true
  | .kind negated ranges => (kindSet? reader.flags negated ranges).map fun set => reader.add (.ofSet set)
  | .boundary asked => some (reader.add (.boundary asked))
  | .edge asked =>
    let added := reader.add (.boundary asked)
    some ⟨added.flags, added.groups, added.names, added.hasEdge || added.flags.has .unicode,
      added.frame, added.outer⟩

/-- There must be something to repeat. -/
def repeatLast? (reader : Reader) (times : Times) (greedy : Bool) : Option Reader :=
  match reader.frame.parts with
  | [] => none
  | last :: earlier =>
    if last.isFlags then none
    else
      let greedy := greedy != reader.flags.has .swapGreed
      let repeated : Nested Pattern :=
        ⟨.repeated times greedy last.pattern.value, last.pattern.depth + 1⟩
      some (reader.setFrame ⟨reader.frame.choices, ⟨repeated, false⟩ :: earlier⟩)

def openGroup (reader : Reader) (flags : PatternFlags) : Reader :=
  ⟨flags, reader.groups, reader.names, reader.hasEdge, .initial,
    ⟨none, reader.flags, reader.frame⟩ :: reader.outer⟩

def openNumbered (reader : Reader) (name? : Option Text) : Reader :=
  let number := reader.groups + 1
  ⟨reader.flags, number, name?.toList ++ reader.names, reader.hasEdge, .initial,
    ⟨some number, reader.flags, reader.frame⟩ :: reader.outer⟩

/-- A name starts with a letter or an underscore. Numbers, dots and brackets may
follow. -/
def isName (name : Text) : Bool :=
  name.head?.any (fun c => c = '_' || isAlphabetic c) &&
    name.all fun c => ['_', '.', '[', ']'].contains c || isAlphanumeric c

def openNamed? (reader : Reader) (text : Text) : Option (Reader × Text) :=
  let name := text.takeWhile (· ≠ '>')
  match text.dropWhile (· ≠ '>') with
  | _ :: rest =>
    if isName name && !reader.names.contains name then some (reader.openNumbered (some name), rest) else none
  | [] => none

/-- Reads the beginning of a group after its parenthesis. -/
def open? (reader : Reader) (text : Text) : Option (Reader × Text) :=
  match reader.flags.dropSpace text with
  | '?' :: 'P' :: '<' :: rest => reader.openNamed? rest
  | '?' :: '<' :: rest => reader.openNamed? rest
  | '?' :: rest =>
    (reader.flags.read? rest).map fun (flags, ending, rest) =>
      match ending with
      | .group => (reader.openGroup flags, rest)
      | .alone =>
        (⟨flags, reader.groups, reader.names, reader.hasEdge, reader.frame.addFlags, reader.outer⟩, rest)
  | rest => some (reader.openNumbered none, rest)

def close? (reader : Reader) : Option Reader :=
  match reader.outer with
  | [] => none
  | around :: outer =>
    let whole := reader.frame.whole
    let pattern := match around.number? with
      | some number => .group number whole.value
      | none => whole.value
    some ⟨around.flags, reader.groups, reader.names, reader.hasEdge,
      around.frame.add ⟨pattern, whole.depth + 1⟩, outer⟩

/-- Reads a repetition and the question mark that may follow. -/
def readRepetition? (reader : Reader) (times : Times) (rest : Text) : Option (Reader × Text) :=
  match rest with
  | '?' :: rest => (reader.repeatLast? times false).map (·, rest)
  | rest => (reader.repeatLast? times true).map (·, rest)

/-- Reads a symbol, and returns what follows it. -/
def step? (reader : Reader) (c : Char) (rest : Text) : Option (Reader × Text) :=
  match c with
  | '(' => reader.open? rest
  | ')' => reader.close?.map (·, rest)
  | '|' => some (reader.setFrame reader.frame.nextChoice, rest)
  | '[' =>
    (SetReader.read? reader.flags rest).map fun (set, rest) =>
      (reader.setFrame (reader.frame.add ⟨.ofSet set.value, set.depth⟩), rest)
  | '*' => reader.readRepetition? .anyNumber rest
  | '+' => reader.readRepetition? .atLeastOnce rest
  | '?' => reader.readRepetition? .optional rest
  | '\x7b' => none
  | '\\' => do
    let (escape, rest) ← Escape.read? reader.flags rest
    return (← reader.addEscape? escape, rest)
  | '.' => reader.addDot?.map (·, rest)
  | '^' => some (reader.addBoundary .textStart .lineStart .lineStartCrlf, rest)
  | '$' => some (reader.addBoundary .textEnd .lineEnd .lineEndCrlf, rest)
  | c => (reader.addCharacter? c false).map (·, rest)

/-- Reads a text to its end. Some characters at its start may have been read
already. -/
def readFrom? (reader : Reader) : Nat → Text → Option Reader
  | _, [] => some reader
  | skipped + 1, _ :: rest => readFrom? reader skipped rest
  | 0, c :: rest =>
    if reader.flags.has .spaced && (isBlank c || c = '#') then
      readFrom? reader (rest.length - (reader.flags.dropSpace (c :: rest)).length) rest
    else
      match reader.step? c rest with
      | some (reader, after) => readFrom? reader (rest.length - after.length) rest
      | none => none

end Reader

/-- Patterns are not nested more deeply than this. -/
def maxDepth : Nat := 250

end PatternReader

open PatternReader in
def Pattern.parse (text : Text) : Except PatternFault Pattern :=
  match initial.readFrom? 0 text with
  | some ⟨_, _, _, hasEdge, frame, []⟩ =>
    if maxDepth < frame.whole.depth then .error .malformed
    else if hasEdge then .error .edgeInUnicode
    else .ok frame.whole.value
  | _ => .error .malformed

end CommentFold
