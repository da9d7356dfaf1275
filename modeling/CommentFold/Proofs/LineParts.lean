import CommentFold.Proofs.FoldedLines
import CommentFold.Proofs.LineEndings

/-! The parts of a line. There is one way to take a text apart into blanks, a middle that
neither starts nor ends with one, and blanks, if a text of nothing but blanks is taken to
stand in front. The indent, the trimmed text and the tail of a line are these parts, and
the slashes of a comment line start its middle. -/

namespace CommentFold

/-! A text between blanks -/

theorem leadingBlanks_append {indent : Text} (blank : ∀ c ∈ indent, isBlank c = true) (rest : Text) :
    leadingBlanks (indent ++ rest) = indent ++ leadingBlanks rest :=
  List.takeWhile_append_of_pos blank

theorem isBlank_of_head?_dropLeadingBlanks {text : Text} {c : Char} (first : (dropLeadingBlanks text).head? = some c) :
    isBlank c = false := by
  have stops := List.head?_dropWhile_not isBlank text
  rw [dropLeadingBlanks] at first
  rw [first] at stops
  exact stops

theorem leadingBlanks_of_solid {text : Text} (solid : ∀ c, text.head? = some c → isBlank c = false) :
    leadingBlanks text = [] := by
  cases text with
  | nil => rfl
  | cons c rest => simp [leadingBlanks, solid c rfl]

theorem dropTrailingBlanks_of_solid {text : Text} (solid : ∀ c, text.getLast? = some c → isBlank c = false) :
    dropTrailingBlanks text = text := by
  cases text using List.reverseRecOn with
  | nil => rfl
  | append_singleton rest c => simp [dropTrailingBlanks, solid c (by simp)]

theorem isBlank_of_mem_trailingBlanks {text : Text} {c : Char} (member : c ∈ trailingBlanks text) :
    isBlank c = true :=
  isBlank_of_mem_leadingBlanks (List.mem_reverse.mp member)

/-- A text that is taken apart into blanks, a middle without blanks at its ends, and
blanks. -/
structure Parts (text indent middle tail : Text) : Prop where
  whole : indent ++ (middle ++ tail) = text
  leading : ∀ c ∈ indent, isBlank c = true
  trailing : ∀ c ∈ tail, isBlank c = true
  starts : ∀ c, middle.head? = some c → isBlank c = false
  ends : ∀ c, middle.getLast? = some c → isBlank c = false
  settled : middle = [] → tail = []

/-- Trimming takes every text apart. -/
theorem parts_trim (text : Text) :
    Parts text (leadingBlanks text) (trim text) (trailingBlanks (dropLeadingBlanks text)) := by
  have visible : trim text ++ trailingBlanks (dropLeadingBlanks text) = dropLeadingBlanks text :=
    dropTrailingBlanks_append_trailingBlanks _
  refine ⟨?_, ?_, ?_, ?_, ?_, ?_⟩
  · rw [visible]
    exact leadingBlanks_append_dropLeadingBlanks text
  · exact fun c => isBlank_of_mem_leadingBlanks
  · exact fun c => isBlank_of_mem_trailingBlanks
  · intro c first
    apply isBlank_of_head?_dropLeadingBlanks
    rw [← visible, List.head?_append, first]
    rfl
  · exact fun c => isBlank_of_getLast?_trim
  · intro empty
    cases behind : trailingBlanks (dropLeadingBlanks text) with
    | nil => rfl
    | cons c rest =>
      have blank : isBlank c = true := isBlank_of_mem_trailingBlanks (behind ▸ List.mem_cons_self)
      have solid : isBlank c = false := by
        apply isBlank_of_head?_dropLeadingBlanks
        rw [← visible, empty, behind]
        rfl
      cases solid.symm.trans blank

namespace Parts

variable {text indent middle tail : Text}

theorem leadingBlanks_eq (parts : Parts text indent middle tail) : leadingBlanks text = indent := by
  have stops : ∀ c, (middle ++ tail).head? = some c → isBlank c = false := by
    intro c first
    cases shape : middle with
    | nil =>
      rw [shape, parts.settled shape] at first
      cases first
    | cons d rest =>
      apply parts.starts
      rw [← first, shape]
      rfl
  rw [← parts.whole, leadingBlanks_append parts.leading, leadingBlanks_of_solid stops, List.append_nil]

theorem dropLeadingBlanks_eq (parts : Parts text indent middle tail) : dropLeadingBlanks text = middle ++ tail := by
  have whole := leadingBlanks_append_dropLeadingBlanks text
  rw [parts.leadingBlanks_eq] at whole
  exact List.append_cancel_left (whole.trans parts.whole.symm)

theorem trim_eq (parts : Parts text indent middle tail) : trim text = middle := by
  rw [trim, parts.dropLeadingBlanks_eq, dropTrailingBlanks_append parts.trailing,
    dropTrailingBlanks_of_solid parts.ends]

theorem trailingBlanks_eq (parts : Parts text indent middle tail) :
    trailingBlanks (dropLeadingBlanks text) = tail := by
  have whole := (dropTrailingBlanks_append_trailingBlanks (dropLeadingBlanks text)).trans parts.dropLeadingBlanks_eq
  exact List.append_cancel_left ((congrArg (· ++ _) parts.trim_eq).symm.trans whole)

end Parts

namespace Line

/-- The blanks that a line ends with, if it has anything else. -/
def tail (line : Line) : Text := trailingBlanks (dropLeadingBlanks line.raw)

theorem isBlank_of_mem_tail {line : Line} : ∀ c ∈ line.tail, isBlank c = true :=
  fun _ => isBlank_of_mem_trailingBlanks

theorem parts_iff {line : Line} {indent middle tail : Text} :
    Parts line.raw indent middle tail ↔ indent = line.indent ∧ middle = line.trimmed ∧ tail = line.tail := by
  constructor
  · intro parts
    exact ⟨parts.leadingBlanks_eq.symm, parts.trim_eq.symm, parts.trailingBlanks_eq.symm⟩
  · intro ⟨before, between, behind⟩
    rw [before, between, behind]
    exact parts_trim line.raw

/-- A comment line is its body after an indent and two slashes, and blanks. -/
theorem raw_of_body {line : Line} {body : Text} (found : line.body? = some body) :
    line.raw = line.indent ++ "//".toList ++ body ++ line.tail := by
  have parts := parts_trim line.raw
  rw [← parts.whole]
  change line.indent ++ (line.trimmed ++ line.tail) = _
  rw [body?_eq_some_iff.mp found]
  simp

/-- The body of a line with slashes behind blanks is what follows, without the blanks at the end. -/
theorem body?_of_marker {line : Line} {margin rest : Text} (shape : line.raw = margin ++ "//".toList ++ rest)
    (blank : ∀ c ∈ margin, isBlank c = true) : line.body? = some (dropTrailingBlanks rest) := by
  have solid : isBlank '/' = false := by decide
  apply body?_eq_some_iff.mpr
  rw [trimmed, shape, List.append_assoc, trim_append blank]
  change trim ('/' :: '/' :: rest) = _
  rw [trim_cons solid, dropTrailingBlanks_cons solid]

theorem kind_eq_comment_iff_marker {line : Line} :
    line.kind = .comment ↔
      ∃ margin rest, line.raw = margin ++ "//".toList ++ rest ∧ ∀ c ∈ margin, isBlank c = true := by
  constructor
  · intro comment
    obtain ⟨body, found⟩ := kind_eq_comment_iff.mp comment
    refine ⟨line.indent, body ++ line.tail, ?_, ?_⟩
    · rw [raw_of_body found, List.append_assoc]
    · exact fun c => isBlank_of_mem_leadingBlanks
  · intro ⟨margin, rest, shape, blank⟩
    exact kind_eq_comment_iff.mpr ⟨_, body?_of_marker shape blank⟩

/-- The indent ends where the visible part of a line starts, counted in bytes. -/
theorem start?_indent (line : Line) :
    (Utf8.encode (dropLeadingBlanks line.raw)).length ≤ (Utf8.encode line.raw).length ∧
      Utf8.start? line.raw ((Utf8.encode line.raw).length - (Utf8.encode (dropLeadingBlanks line.raw)).length) =
        some line.indent := by
  have whole : line.indent ++ dropLeadingBlanks line.raw = line.raw := leadingBlanks_append_dropLeadingBlanks line.raw
  have sizes : (Utf8.encode line.raw).length =
      (Utf8.encode line.indent).length + (Utf8.encode (dropLeadingBlanks line.raw)).length := by
    rw [← List.length_append, ← Utf8.encode_append, whole]
  refine ⟨by omega, Utf8.start?_eq_some_iff.mpr ⟨⟨_, whole⟩, by omega⟩⟩

/-- A line is its indent, its trimmed text and its tail, and nothing else has the shape of
these parts. The indent is found by counting bytes. A line is a comment line exactly if
slashes are its first characters other than blanks, its body stands between them and the
tail, and no other line has a body. -/
theorem unique_parts (line : Line) :
    (∀ indent middle tail, Parts line.raw indent middle tail ↔
      indent = line.indent ∧ middle = line.trimmed ∧ tail = line.tail) ∧
    ((Utf8.encode (dropLeadingBlanks line.raw)).length ≤ (Utf8.encode line.raw).length ∧
      Utf8.start? line.raw ((Utf8.encode line.raw).length - (Utf8.encode (dropLeadingBlanks line.raw)).length) =
        some line.indent) ∧
    ((∀ c ∈ line.raw, isBlank c = true) → line.indent = line.raw) ∧
    (line.kind = .comment ↔
      ∃ margin rest, line.raw = margin ++ "//".toList ++ rest ∧ ∀ c ∈ margin, isBlank c = true) ∧
    (line.kind = .comment → ∃ body, line.body? = some body ∧
      line.raw = line.indent ++ "//".toList ++ body ++ line.tail ∧
      ∀ c, body.getLast? = some c → isBlank c = false) ∧
    (∀ margin rest, line.raw = margin ++ "//".toList ++ rest → (∀ c ∈ margin, isBlank c = true) →
      (∀ c ∈ rest, isBlank c = true) → line.body? = some []) ∧
    (line.kind ≠ .comment → line.body? = none) := by
  refine ⟨fun _ _ _ => parts_iff, start?_indent line, ?_, kind_eq_comment_iff_marker, ?_, ?_, ?_⟩
  · intro blank
    have parts : Parts line.raw line.raw [] [] := ⟨by simp, blank, nofun, nofun, nofun, fun _ => rfl⟩
    exact parts.leadingBlanks_eq
  · intro comment
    obtain ⟨body, found⟩ := kind_eq_comment_iff.mp comment
    exact ⟨body, found, raw_of_body found, fun c => isBlank_of_getLast?_body found⟩
  · intro margin rest shape margins blank
    have empty : dropTrailingBlanks rest = [] := dropTrailingBlanks_append blank []
    rw [body?_of_marker shape margins, empty]
  · intro plain
    cases kind : line.kind with
    | comment => exact absurd kind plain
    | other => exact kind_eq_other_iff.mp kind

end Line

end CommentFold
