import CommentFold.Text.Utf8

/-! Blank characters are those with the Unicode property White_Space. A line is
read as an indent of blanks, the text between its outermost other characters,
and a tail of blanks. -/

namespace CommentFold

/-- First and last code point of each stretch with the property. -/
def blankRanges : List (Nat × Nat) :=
  [(0x09, 0x0D), (0x20, 0x20), (0x85, 0x85), (0xA0, 0xA0), (0x1680, 0x1680), (0x2000, 0x200A),
    (0x2028, 0x2029), (0x202F, 0x202F), (0x205F, 0x205F), (0x3000, 0x3000)]

def isBlank (c : Char) : Bool :=
  blankRanges.any fun (first, last) => first ≤ c.toNat && c.toNat ≤ last

/-- The blanks that a text starts with. -/
def leadingBlanks (text : Text) : Text := text.takeWhile isBlank

/-- A text from its first other character on. -/
def dropLeadingBlanks (text : Text) : Text := text.dropWhile isBlank

/-- A text up to its last other character. -/
def dropTrailingBlanks (text : Text) : Text := (text.reverse.dropWhile isBlank).reverse

/-- The blanks that a text ends with. -/
def trailingBlanks (text : Text) : Text := (text.reverse.takeWhile isBlank).reverse

def trim (text : Text) : Text := dropTrailingBlanks (dropLeadingBlanks text)

theorem leadingBlanks_append_dropLeadingBlanks (text : Text) :
    leadingBlanks text ++ dropLeadingBlanks text = text :=
  List.takeWhile_append_dropWhile

theorem dropTrailingBlanks_append_trailingBlanks (text : Text) :
    dropTrailingBlanks text ++ trailingBlanks text = text := by
  rw [dropTrailingBlanks, trailingBlanks, ← List.reverse_append, List.takeWhile_append_dropWhile,
    List.reverse_reverse]

theorem isBlank_of_mem_leadingBlanks {text : Text} {c : Char} (member : c ∈ leadingBlanks text) :
    isBlank c = true := by
  induction text with
  | nil => simp [leadingBlanks] at member
  | cons first rest ih =>
    by_cases blank : isBlank first = true
    · have kept : c ∈ first :: leadingBlanks rest := by simpa [leadingBlanks, blank] using member
      cases List.mem_cons.mp kept with
      | inl same => exact same ▸ blank
      | inr later => exact ih later
    · simp [leadingBlanks, blank] at member

end CommentFold
