import CommentFold.Pattern.Basic

/-! The automaton of a pattern, by which a text is searched for it. A node takes a
character or leads on to other nodes at once, and where it leads to two, the first
is preferred. The search starts at every place of the text, earlier ones first,
and follows all ways at the same time. A text fits if the most preferred way that
reaches acceptance does so at its end.

No node is reached twice at one place: the first way to it is the preferred one.
This decides what a repetition does whose body takes nothing. -/

namespace CommentFold

inductive Node where
  | accept
  | skipByte (next : Nat)
  | take (set : CharSet) (next : Nat)
  | ask (boundary : Boundary) (next : Nat)
  | branch (preferred other : Nat)
  deriving DecidableEq, Repr

/-- A repetition can go on or leave, and a greedy one prefers to go on. -/
def Node.loop (greedy : Bool) (body next : Nat) : Node :=
  if greedy then branch body next else branch next body

namespace Pattern

/-- The nodes of a text, from a number on. -/
def textNodes (number next : Nat) : Text → List Node
  | [] => []
  | [c] => [.take (.only c) next]
  | c :: rest => .take (.only c) (number + 1) :: textNodes (number + 1) next rest

/-- The nodes of a pattern, which are numbered from a number on and lead to the
node that is next, and the node to start with. -/
def nodes (number next : Nat) : Pattern → List Node × Nat
  | empty => ([], next)
  | literal text => (textNodes number next text, if text = [] then next else number)
  | one set => ([.take set next], number)
  | boundary asked => ([.ask asked next], number)
  | group _ body => body.nodes number next
  | repetition .optional greedy body =>
    let (inside, start) := body.nodes (number + 1) next
    (.loop greedy start next :: inside, number)
  | repetition .atLeastOnce greedy body =>
    let (inside, start) := body.nodes (number + 1) number
    (.loop greedy start next :: inside, start)
  | repetition .anyNumber greedy body =>
    if body.takesText then
      let (inside, start) := body.nodes (number + 1) number
      (.loop greedy start next :: inside, number)
    else
      let (inside, start) := body.nodes (number + 2) number
      (.loop greedy start next :: .loop greedy start next :: inside, number + 1)
  | sequence first rest =>
    let (later, middle) := rest.nodes number next
    let (earlier, start) := first.nodes (number + later.length) middle
    (later ++ earlier, start)
  | choice first rest =>
    let (preferred, start) := first.nodes (number + 1) next
    let (other, otherStart) := rest.nodes (number + 1 + preferred.length) next
    (.branch start otherStart :: (preferred ++ other), number)

end Pattern

/-- A byte of a text, by the character it is part of. -/
structure CharByte where
  char : Char
  isFirst : Bool
  isLast : Bool
  deriving DecidableEq, Repr

def charBytes (c : Char) : List CharByte :=
  (List.range c.utf8Size).map fun index => ⟨c, index = 0, index + 1 = c.utf8Size⟩

/-- A way may be at a node, or at one whose character it has taken in part. -/
inductive Way where
  | reached (node : Nat)
  | inside (node : Nat)
  deriving DecidableEq, Repr

structure Automaton where
  nodes : Array Node
  start : Nat
  deriving DecidableEq, Repr

namespace Automaton

/-- The first nodes accept, and search for the pattern at later places. -/
def ofPattern (pattern : Pattern) : Automaton :=
  let (nodes, start) := pattern.nodes 3 0
  ⟨(.accept :: .branch start 2 :: .skipByte 1 :: nodes).toArray, 1⟩

variable (automaton : Automaton)

def ways : List Way :=
  (List.range automaton.nodes.size).flatMap fun node => [.reached node, .inside node]

def accepts : Way → Bool
  | .reached node => automaton.nodes[node]? = some .accept
  | .inside _ => false

/-- The ways on from a way that take nothing, at a place between characters. -/
def onward (before after : Option Char) : Way → List Way
  | .inside _ => []
  | .reached node =>
    match automaton.nodes[node]? with
    | some (.branch preferred other) => [.reached preferred, .reached other]
    | some (.ask boundary next) => if boundary.holds before after then [.reached next] else []
    | _ => []

/-- Follows some ways, the most preferred first, as far as they are among those
that have not been reached. -/
def follow (before after : Option Char) (ways fresh : List Way) : List Way :=
  match ways with
  | [] => []
  | way :: rest =>
    if _ : way ∈ fresh then
      way :: follow before after (automaton.onward before after way ++ rest) (fresh.erase way)
    else follow before after rest fresh
termination_by (fresh.length, ways.length)
decreasing_by
  · exact .left _ _ (by
      rw [List.length_erase_of_mem ‹way ∈ fresh›]
      have := List.length_pos_of_mem ‹way ∈ fresh›
      omega)
  · exact .right _ (by simp)

/-- All ways at a place. -/
def spread (before after : Option Char) (ways : List Way) : List Way :=
  automaton.follow before after ways automaton.ways

def entered (byte : CharByte) (node next : Nat) : Way :=
  if byte.isLast then .reached next else .inside node

/-- The way on from a way that takes a byte. -/
def take? (byte : CharByte) : Way → Option Way
  | .reached node =>
    match automaton.nodes[node]? with
    | some (.take set next) =>
      if byte.isFirst && set.contains byte.char then some (entered byte node next) else none
    | some (.skipByte next) => some (.reached next)
    | _ => none
  | .inside node =>
    match automaton.nodes[node]? with
    | some (.take _ next) => some (entered byte node next)
    | _ => none

/-- Ways after one that accepts are less preferred, and given up. -/
def advance (byte : CharByte) (ways : List Way) : List Way :=
  (ways.takeWhile (!automaton.accepts ·)).filterMap (automaton.take? byte)

def fitsFrom (before : Option Char) (ways : List Way) : List CharByte → Bool
  | [] => (automaton.spread before none ways).any automaton.accepts
  | byte :: rest =>
    fitsFrom (some byte.char)
      (automaton.advance byte (automaton.spread before (some byte.char) ways)) rest

def fits (text : Text) : Bool :=
  automaton.fitsFrom none [.reached automaton.start] (text.flatMap charBytes)

end Automaton

def Pattern.fits (pattern : Pattern) (text : Text) : Bool := (Automaton.ofPattern pattern).fits text

end CommentFold
