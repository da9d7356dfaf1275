import CommentFold.Pattern.CharSet
import CommentFold.Pattern.Flags
import CommentFold.Pattern.Boundary

/-! What a backslash means in a pattern. It takes its meaning from a sign and gives
one to a letter: a control character, a place, one of the known kinds of
characters, or a character by its number in hexadecimal digits. -/

namespace CommentFold

/-- A kind of characters of ASCII, which can be named in a pattern. -/
def namedRanges? (name : Text) : Option (List (Char × Char)) :=
  [("alnum".toList, [('0', '9'), ('A', 'Z'), ('a', 'z')]),
    ("alpha".toList, [('A', 'Z'), ('a', 'z')]),
    ("ascii".toList, [('\x00', '\x7f')]),
    ("blank".toList, [('\t', '\t'), (' ', ' ')]),
    ("cntrl".toList, [('\x00', '\x1f'), ('\x7f', '\x7f')]),
    ("digit".toList, [('0', '9')]),
    ("graph".toList, [('!', '~')]),
    ("lower".toList, [('a', 'z')]),
    ("print".toList, [(' ', '~')]),
    ("punct".toList, [('!', '/'), (':', '@'), ('[', '\x60'), ('\x7b', '~')]),
    ("space".toList, [('\t', '\r'), (' ', ' ')]),
    ("upper".toList, [('A', 'Z')]),
    ("word".toList, [('0', '9'), ('A', 'Z'), ('_', '_'), ('a', 'z')]),
    ("xdigit".toList, [('0', '9'), ('A', 'F'), ('a', 'f')])].lookup name

inductive Escape where
  | character (c : Char)
  | byte (c : Char)
  | kind (negated : Bool) (ranges : List (Char × Char))
  | boundary (boundary : Boundary)
  | edge (boundary : Boundary)
  deriving DecidableEq, Repr

def hexDigit? (c : Char) : Option Nat :=
  if c.isDigit then some (c.toNat - '0'.toNat)
  else
    let lower := c.toLower
    if 'a' ≤ lower ∧ lower ≤ 'f' then some (lower.toNat - 'a'.toNat + 10) else none

namespace Escape

/-- Reads some hexadecimal digits after a value. -/
def readNumber? (flags : PatternFlags) : Nat → Nat → Text → Option (Nat × Text)
  | 0, value, text => some (value, text)
  | left + 1, value, text =>
    match flags.dropSpace text with
    | [] => none
    | c :: rest => do readNumber? flags left (16 * value + (← hexDigit? c)) rest

def readCharacter? (flags : PatternFlags) (digits : Nat) (text : Text) : Option (Char × Text) := do
  let (number, rest) ← readNumber? flags digits 0 text
  if number.isValidChar then some (Char.ofNat number, rest) else none

def kind? (negated : Bool) (name : Text) : Option Escape := (namedRanges? name).map (kind negated)

/-- What a letter or a sign means. Letters and digits without a meaning are kept
for other uses. -/
def ofChar? (c : Char) : Option Escape :=
  match c with
  | 'a' => some (character '\x07')
  | 'f' => some (character '\x0c')
  | 'n' => some (character '\n')
  | 'r' => some (character '\r')
  | 't' => some (character '\t')
  | 'v' => some (character '\x0b')
  | 'd' => kind? false "digit".toList
  | 's' => kind? false "space".toList
  | 'w' => kind? false "word".toList
  | 'D' => kind? true "digit".toList
  | 'S' => kind? true "space".toList
  | 'W' => kind? true "word".toList
  | 'A' => some (boundary .textStart)
  | 'z' => some (boundary .textEnd)
  | 'b' => some (edge .wordEdge)
  | 'B' => some (edge .noWordEdge)
  | '<' => some (edge .wordStart)
  | '>' => some (edge .wordEnd)
  | c => if c.toNat < 0x80 && !c.isAlphanum then some (character c) else none

/-- Reads what follows a backslash. Two hexadecimal digits can be meant as a byte. -/
def read? (flags : PatternFlags) : Text → Option (Escape × Text)
  | [] => none
  | 'x' :: rest => (readCharacter? flags 2 rest).map fun (c, rest) => (byte c, rest)
  | 'u' :: rest => (readCharacter? flags 4 rest).map fun (c, rest) => (character c, rest)
  | 'U' :: rest => (readCharacter? flags 8 rest).map fun (c, rest) => (character c, rest)
  | c :: rest => (ofChar? c).map (·, rest)

end Escape

/-- A letter of ASCII in the other case. -/
def otherCase (c : Char) : Char := if c.isLower then c.toUpper else c.toLower

/-- The characters of some ranges whatever the case of letters. -/
def anyCase (ranges : List (Char × Char)) : CharSet :=
  let set := CharSet.ofRanges ranges
  ((List.range 0x80).map Char.ofNat).foldl (fun all c =>
    if set.contains c then all.insert (otherCase c) (otherCase c) else all) set

/-- The set of some ranges under some flags. Without Unicode there are only the
characters of ASCII, and with it letters have no cases. -/
def rangeSet? (flags : PatternFlags) (negated : Bool) (ranges : List (Char × Char)) : Option CharSet :=
  if flags.has .unicode then
    let set := CharSet.ofRanges ranges
    if flags.has .ignoreCase then none else some (if negated then set.complement else set)
  else if negated || ranges.any (fun (_, high) => 0x80 ≤ high.toNat) then none
  else some (if flags.has .ignoreCase then anyCase ranges else CharSet.ofRanges ranges)

/-- The kinds of characters that have a letter are not known in Unicode. -/
def kindSet? (flags : PatternFlags) (negated : Bool) (ranges : List (Char × Char)) : Option CharSet :=
  if flags.has .unicode then none else rangeSet? flags negated ranges

end CommentFold
