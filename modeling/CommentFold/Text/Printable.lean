import CommentFold.Text.Utf8

/-! What is left of a text when nothing in it may steer a terminal. Control
characters other than white space go, and so do escape sequences, whole. A
control character that is white space breaks a sequence off, but not a string. -/

namespace CommentFold.Printable

/-- Where in an escape sequence a text is. -/
inductive Phase where
  | outside
  | escape
  | intermediate
  | parameters
  /-- A command string, which a bell ends. -/
  | command
  /-- The start of a device string, its parameters, and what follows them. -/
  | device
  | deviceParameters
  | deviceIntermediate
  /-- The rest of a device string, or a string that is for nobody. -/
  | message
  deriving DecidableEq, Repr

def isControl (c : Char) : Bool := c.toNat < 0x20

/-- The control characters that are kept. -/
def isSpacing (c : Char) : Bool := c = '\t' || c = '\n' || c = '\x0c' || c = '\r'

/-- What follows the character after an escape. -/
def afterEscape (c : Char) : Phase :=
  if c.toNat < 0x30 then .intermediate
  else match c with
    | '[' => .parameters
    | ']' => .command
    | 'P' => .device
    | 'X' | '^' | '_' => .message
    | _ => .outside

/-- The phase after a printable ASCII character. Strings take all of them in. -/
def Phase.after (phase : Phase) (c : Char) : Phase :=
  match phase with
  | .escape => afterEscape c
  | .intermediate => if c.toNat < 0x30 then .intermediate else .outside
  | .parameters => if c.toNat < 0x40 then .parameters else .outside
  | .device =>
    if c.toNat < 0x30 then .deviceIntermediate
    else if c.toNat < 0x40 then .deviceParameters
    else .message
  | .deviceParameters =>
    if c.toNat < 0x30 then .deviceIntermediate
    else if c.toNat < 0x3c then .deviceParameters
    else .message
  | .deviceIntermediate => if c.toNat < 0x30 then .deviceIntermediate else .message
  | .outside | .command | .message => phase

/-- The byte that ends a message counts wherever it stands, so every character
whose encoding has it ends one. -/
def endsMessage (c : Char) : Bool := (String.utf8EncodeChar c).contains 0x9c

/-- The phase after a character, and whether the character is kept. -/
def advance (phase : Phase) (c : Char) : Phase × Bool :=
  if c = '\x1b' then (.escape, false)
  else if c = '\x18' || c = '\x1a' then (.outside, false)
  else match phase with
    | .outside => (.outside, if isControl c then isSpacing c else c ≠ '\x7f')
    | .command => (if c = '\x07' then .outside else .command, false)
    | .message => (if endsMessage c then .outside else .message, false)
    | .escape | .intermediate | .parameters =>
      if isSpacing c then (.outside, true)
      else (if isControl c || 0x7f ≤ c.toNat then phase else phase.after c, false)
    | .device | .deviceParameters | .deviceIntermediate =>
      (if isControl c || 0x7f ≤ c.toNat then phase else phase.after c, false)

def stripFrom (phase : Phase) : Text → Text
  | [] => []
  | c :: rest =>
    let (next, kept) := advance phase c
    if kept then c :: stripFrom next rest else stripFrom next rest

def strip (text : Text) : Text := stripFrom .outside text

end CommentFold.Printable
