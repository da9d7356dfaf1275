import CommentFold.Text.Utf8

/-! Sets of characters. A set is kept as the ranges of its characters' positions
in the order of all characters, sorted and with a gap between any two, so that
equal sets have equal ranges. -/

namespace CommentFold

/-- Surrogates are code points but no characters, so they have no position. -/
def position (c : Char) : Nat := if c.toNat < 0xD800 then c.toNat else c.toNat - 0x800

def lastPosition : Nat := 0x10FFFF - 0x800

structure CharSet where
  ranges : List (Nat × Nat)
  deriving DecidableEq, Repr

namespace CharSet

def contains (set : CharSet) (c : Char) : Bool :=
  set.ranges.any fun (low, high) => low ≤ position c && position c ≤ high

def empty : CharSet := ⟨[]⟩

/-- Adds a range to sorted ranges, and makes one of those that touch. -/
def insertRange (low high : Nat) : List (Nat × Nat) → List (Nat × Nat)
  | [] => [(low, high)]
  | (first, last) :: rest =>
    if high + 1 < first then (low, high) :: (first, last) :: rest
    else if last + 1 < low then (first, last) :: insertRange low high rest
    else insertRange (min low first) (max high last) rest

def insert (set : CharSet) (low high : Char) : CharSet :=
  ⟨insertRange (position low) (position high) set.ranges⟩

def ofRanges (ranges : List (Char × Char)) : CharSet :=
  ranges.foldl (fun set (low, high) => set.insert low high) empty

def only (c : Char) : CharSet := ofRanges [(c, c)]

def union (set other : CharSet) : CharSet :=
  ⟨other.ranges.foldl (fun ranges (low, high) => insertRange low high ranges) set.ranges⟩

def unions (sets : List CharSet) : CharSet := sets.foldl union empty

/-- The ranges between sorted ranges, from a position on. -/
def gaps (start : Nat) : List (Nat × Nat) → List (Nat × Nat)
  | [] => if start ≤ lastPosition then [(start, lastPosition)] else []
  | (low, high) :: rest =>
    if start < low then (start, low - 1) :: gaps (high + 1) rest else gaps (high + 1) rest

def complement (set : CharSet) : CharSet := ⟨gaps 0 set.ranges⟩

def intersection (set other : CharSet) : CharSet :=
  (set.complement.union other.complement).complement

def difference (set other : CharSet) : CharSet := set.intersection other.complement

def symmetricDifference (set other : CharSet) : CharSet :=
  (set.difference other).union (other.difference set)

/-- The character of a set that has no other. -/
def single? (set : CharSet) : Option Char :=
  match set.ranges with
  | [(low, high)] =>
    if low = high then some (Char.ofNat (if low < 0xD800 then low else low + 0x800)) else none
  | _ => none

end CharSet

end CommentFold
