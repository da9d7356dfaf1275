import CommentFold.Text.Utf8

/-! How much a log tells. The levels are ordered from silence to everything. -/

namespace CommentFold.Log

inductive Level where
  | off
  | error
  | warn
  | info
  | debug
  | trace
  deriving DecidableEq, Repr

namespace Level

def rank : Level → Nat
  | off => 0
  | error => 1
  | warn => 2
  | info => 3
  | debug => 4
  | trace => 5

def all : List Level := [.off, .error, .warn, .info, .debug, .trace]

def name : Level → Text
  | off => "off".toList
  | error => "error".toList
  | warn => "warn".toList
  | info => "info".toList
  | debug => "debug".toList
  | trace => "trace".toList

def max (first second : Level) : Level := if first.rank ≤ second.rank then second else first

/-- An event of a level shows if the level is admitted. -/
def admits (limit level : Level) : Bool := level.rank ≤ limit.rank

end Level

end CommentFold.Log
