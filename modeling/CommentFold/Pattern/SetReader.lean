import CommentFold.Pattern.Escape

/-! Sets of characters as brackets give them: characters, ranges, kinds of
characters between colons, and sets within sets. Doubled signs join what is before
and after them: ampersands keep what is in both, hyphens take away, and tildes
keep what is in one only. -/

namespace CommentFold

inductive Joining where
  | intersection
  | difference
  | symmetricDifference
  deriving DecidableEq, Repr

namespace Joining

def ofSign? : Char → Option Joining
  | '&' => some intersection
  | '-' => some difference
  | '~' => some symmetricDifference
  | _ => none

def apply : Joining → CharSet → CharSet → CharSet
  | intersection => CharSet.intersection
  | difference => CharSet.difference
  | symmetricDifference => CharSet.symmetricDifference

end Joining

/-- Something that has been read, and how deeply it is nested. -/
structure Nested (α : Type) where
  value : α
  depth : Nat
  deriving DecidableEq, Repr

/-- The depth of some things that form one: a single thing is not nested further. -/
def jointDepth (depths : List Nat) : Nat :=
  match depths with
  | [] => 0
  | [depth] => depth
  | depths => depths.foldl max 0 + 1

namespace SetReader

inductive Phase where
  | opened
  | leading
  | inside
  deriving DecidableEq, Repr

/-- A set that is being read. Its items are those after the last joining sign. -/
structure Frame where
  phase : Phase
  negated : Bool
  before? : Option (Nested CharSet × Joining)
  items : List (Nested CharSet)
  deriving DecidableEq, Repr

namespace Frame

def initial : Frame := ⟨.opened, false, none, []⟩

def add (frame : Frame) (phase : Phase) (item : Nested CharSet) : Frame :=
  ⟨phase, frame.negated, frame.before?, item :: frame.items⟩

/-- The set so far, joining signs included. -/
def joined (frame : Frame) : Nested CharSet :=
  let items : Nested CharSet :=
    ⟨CharSet.unions (frame.items.map (·.value)), jointDepth (frame.items.map (·.depth))⟩
  match frame.before? with
  | none => items
  | some (before, joining) =>
    ⟨joining.apply before.value items.value, max before.depth items.depth + 1⟩

def join (frame : Frame) (joining : Joining) : Frame :=
  ⟨.inside, frame.negated, some (frame.joined, joining), []⟩

/-- Without Unicode a set has only characters of ASCII, and so no complement. -/
def close? (flags : PatternFlags) (frame : Frame) : Option (Nested CharSet) :=
  let set := frame.joined
  if frame.negated then
    if flags.has .unicode then some ⟨set.value.complement, set.depth + 1⟩ else none
  else some ⟨set.value, set.depth + 1⟩

end Frame

/-- Reads a kind of characters after its opening bracket: its name between colons,
after a caret if the others are meant. -/
def readKind? (text : Text) : Option (Bool × List (Char × Char) × Text) :=
  match text with
  | ':' :: rest =>
    let (negated, rest) := match rest with
      | '^' :: rest => (true, rest)
      | rest => (false, rest)
    match rest.dropWhile (· ≠ ':') with
    | ':' :: ']' :: after => (namedRanges? (rest.takeWhile (· ≠ ':'))).map (negated, ·, after)
    | _ => none
  | _ => none

/-- Reads one symbol of a set. -/
def readItem? (flags : PatternFlags) : Text → Option (Escape × Text)
  | [] => none
  | '\\' :: rest => Escape.read? flags rest
  | c :: rest => some (.character c, rest)

/-- The set of a symbol. A character that is given as a byte is one of ASCII if
there is no Unicode, as all are. -/
def itemSet? (flags : PatternFlags) : Escape → Option CharSet
  | .character c | .byte c => rangeSet? flags false [(c, c)]
  | .kind negated ranges => kindSet? flags negated ranges
  | .boundary _ | .edge _ => none

def itemChar? : Escape → Option Char
  | .character c | .byte c => some c
  | _ => none

/-- The next symbol after a hyphen, as far as it can be told from a comment. -/
def peek? (flags : PatternFlags) (text : Text) : Option Char :=
  if flags.has .spaced then
    match text.dropWhile isBlank with
    | '#' :: rest => (rest.dropWhile isBlank).head?
    | rest => rest.head?
  else text.head?

/-- Reads a character, a range or a kind of characters. A hyphen is no range at
the end of a set or before another hyphen. -/
def readRange? (flags : PatternFlags) (text : Text) : Option (CharSet × Text) := do
  let (item, after) ← readItem? flags text
  match flags.dropSpace after with
  | [] => none
  | '-' :: rest =>
    if peek? flags rest = some ']' || peek? flags rest = some '-' then
      return (← itemSet? flags item, '-' :: rest)
    else
      let (last, after) ← readItem? flags (flags.dropSpace rest)
      let low ← itemChar? item
      let high ← itemChar? last
      if low ≤ high then return (← rangeSet? flags false [(low, high)], after) else none
  | after => return (← itemSet? flags item, after)

/-- What reading a symbol leads to: more of a set and of those around it, from the
inside out, or the whole of the outermost. -/
inductive Progress where
  | further (frame : Frame) (outer : List Frame) (rest : Text)
  | complete (set : Nested CharSet) (rest : Text)
  deriving DecidableEq, Repr

/-- Reads a symbol of a set. At the start a caret means the others, hyphens stand
for themselves, and so does a closing bracket that comes first. -/
def step? (flags : PatternFlags) (frame : Frame) (outer : List Frame) (c : Char) (rest : Text) : Option Progress :=
  if frame.phase = .opened && c = '^' then
    some (.further ⟨.leading, true, none, []⟩ outer rest)
  else if frame.phase ≠ .inside && c = '-' then
    (itemSet? flags (.character c)).map fun set => .further (frame.add .leading ⟨set, 0⟩) outer rest
  else if frame.phase ≠ .inside && c = ']' && frame.items.isEmpty then
    (itemSet? flags (.character c)).map fun set => .further (frame.add .inside ⟨set, 0⟩) outer rest
  else if c = '[' then
    match readKind? rest with
    | some (negated, ranges, after) =>
      (rangeSet? flags negated ranges).map fun set => .further (frame.add .inside ⟨set, 0⟩) outer after
    | none => some (.further .initial (frame :: outer) rest)
  else if c = ']' then do
    let set ← frame.close? flags
    match outer with
    | [] => return .complete set rest
    | around :: outer => return .further (around.add .inside set) outer rest
  else
    match Joining.ofSign? c with
    | some joining =>
      if rest.head? = some c then some (.further (frame.join joining) outer (rest.drop 1)) else single
    | none => single
where
  single : Option Progress :=
    (readRange? flags (c :: rest)).map fun (set, after) => .further (frame.add .inside ⟨set, 0⟩) outer after

/-- Reads symbols up to the end of the outermost set. Some characters at the start
of the text may have been read already. -/
def readFrom? (flags : PatternFlags) (frame : Frame) (outer : List Frame) :
    Nat → Text → Option (Nested CharSet × Text)
  | _, [] => none
  | skipped + 1, _ :: rest => readFrom? flags frame outer skipped rest
  | 0, c :: rest =>
    if flags.has .spaced && (isBlank c || c = '#') then
      readFrom? flags frame outer (rest.length - (flags.dropSpace (c :: rest)).length) rest
    else
      match step? flags frame outer c rest with
      | some (.further frame outer after) => readFrom? flags frame outer (rest.length - after.length) rest
      | some (.complete set after) => some (set, after)
      | none => none

/-- Reads a set after its opening bracket. -/
def read? (flags : PatternFlags) (text : Text) : Option (Nested CharSet × Text) :=
  readFrom? flags .initial [] 0 text

end SetReader

end CommentFold
