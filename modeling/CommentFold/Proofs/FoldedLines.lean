import CommentFold.Proofs.FoldedDocument

/-! The lines that folding writes. A line of another kind stays as it is, and what
is written for a comment line looks like one nowhere, so no comment line is left
in what was folded. -/

namespace CommentFold

/-! What trimming does to a text that is put together -/

theorem dropTrailingBlanks_append {tail : Text} (blank : ∀ c ∈ tail, isBlank c = true) (text : Text) :
    dropTrailingBlanks (text ++ tail) = dropTrailingBlanks text := by
  rw [dropTrailingBlanks, List.reverse_append, List.dropWhile_append_of_pos (by simpa using blank), dropTrailingBlanks]

theorem dropTrailingBlanks_cons {c : Char} (solid : isBlank c = false) (rest : Text) :
    dropTrailingBlanks (c :: rest) = c :: dropTrailingBlanks rest := by
  have stop : [c].dropWhile isBlank = [c] := by simp [solid]
  rw [dropTrailingBlanks, List.reverse_cons, List.dropWhile_append, stop, dropTrailingBlanks]
  split
  next empty => simp [List.isEmpty_iff.mp empty]
  next => simp

theorem trim_append {indent : Text} (blank : ∀ c ∈ indent, isBlank c = true) (rest : Text) :
    trim (indent ++ rest) = trim rest := by
  rw [trim, dropLeadingBlanks, List.dropWhile_append_of_pos blank, trim, dropLeadingBlanks]

theorem trim_cons {c : Char} (solid : isBlank c = false) (rest : Text) :
    trim (c :: rest) = c :: dropTrailingBlanks rest := by
  have start : dropLeadingBlanks (c :: rest) = c :: rest := by simp [dropLeadingBlanks, solid]
  rw [trim, start, dropTrailingBlanks_cons solid]

theorem trim_append_tail {tail : Text} (blank : ∀ c ∈ tail, isBlank c = true) (text : Text) :
    trim (text ++ tail) = trim text := by
  simp only [trim, dropLeadingBlanks, List.dropWhile_append]
  split
  next empty =>
    have gone : tail.dropWhile isBlank = [] := by
      rw [← List.append_nil tail, List.dropWhile_append_of_pos blank, List.dropWhile_nil]
    rw [gone, List.isEmpty_iff.mp empty]
  next => exact dropTrailingBlanks_append blank _

theorem mem_of_mem_trim {text : Text} {c : Char} (member : c ∈ trim text) : c ∈ text := by
  have inside := List.dropWhile_subset _ (List.mem_reverse.mp member)
  exact List.dropWhile_subset _ (List.mem_reverse.mp inside)

/-- A trimmed text ends in nothing that could be trimmed. -/
theorem isBlank_of_getLast?_trim {text : Text} {c : Char} (last : (trim text).getLast? = some c) :
    isBlank c = false := by
  rw [trim, dropTrailingBlanks, List.getLast?_reverse] at last
  have stops := List.head?_dropWhile_not isBlank (dropLeadingBlanks text).reverse
  rw [last] at stops
  exact stops

namespace Line

/-- The end of a line counts neither for its kind nor for its body. -/
theorem body?_append_tail {tail : Text} (blank : ∀ c ∈ tail, isBlank c = true) (index : Nat) (raw : Text) :
    body? ⟨index, raw ++ tail⟩ = body? ⟨index, raw⟩ := by
  simp only [body?, trimmed, trim_append_tail blank]

theorem mem_of_mem_body {line : Line} {body : Text} (found : line.body? = some body) {c : Char} (member : c ∈ body) :
    c ∈ line.raw := by
  apply mem_of_mem_trim
  change c ∈ line.trimmed
  rw [body?_eq_some_iff.mp found]
  simp [member]

/-- After the asterisk of a comment line no blank is last. -/
theorem isBlank_of_getLast?_body {line : Line} {body : Text} (found : line.body? = some body) {c : Char}
    (last : body.getLast? = some c) : isBlank c = false := by
  have whole : line.trimmed.getLast? = some c := by
    rw [body?_eq_some_iff.mp found, show '/' :: '/' :: body = "//".toList ++ body from rfl, List.getLast?_append, last]
    rfl
  exact isBlank_of_getLast?_trim whole

theorem kind_of_asterisk {indent : Text} (blank : ∀ c ∈ indent, isBlank c = true) (index : Nat) (rest : Text) :
    kind ⟨index, indent ++ '*' :: rest⟩ = .other := by
  rw [kind_eq_other_iff, body?, trimmed, trim_append blank, trim_cons (by decide)]
  rfl

end Line

namespace Run

/-- The lines of a run up to the marker that may close it. -/
def openLines (run : List Line) : List Text :=
  if isComment run then
    (indent run ++ "/**".toList) :: run.map fun line => indent run ++ " *".toList ++ line.body?.getD []
  else run.map Line.raw

def closingLines (run : List Line) : List Text := if isComment run then [indent run ++ " */".toList] else []

theorem openText_eq_lines (run : List Line) : openText run = (openLines run).flatMap Block.plainLine := by
  unfold openText openLines
  split
  · rw [List.flatMap_cons, List.flatMap_map]
    rfl
  · rw [List.flatMap_map]

theorem closingText_eq_lines (run : List Line) : closingText run = (closingLines run).flatMap Block.plainLine := by
  unfold closingText closingLines
  split
  · rw [List.flatMap_singleton]
    rfl
  · rfl

variable {run : List Line} {raw : Text}

/-- Of what is written for a comment run nothing is a comment line, and nothing ends
in a carriage return. -/
theorem quiet_of_isComment (comment : isComment run = true) (written : raw ∈ openLines run ++ closingLines run) :
    (∀ index, Line.kind ⟨index, raw⟩ = .other) ∧ raw.getLast? ≠ some '\r' := by
  have blank : ∀ c ∈ indent run ++ [' '], isBlank c = true := by
    simp only [List.forall_mem_append, List.forall_mem_singleton]
    exact ⟨isBlank_of_mem_indent, by decide⟩
  simp only [openLines, closingLines, comment, if_true, List.mem_append, List.mem_cons, List.mem_map,
    List.not_mem_nil, or_false] at written
  rcases written with (rfl | ⟨line, _, rfl⟩) | rfl
  · constructor
    · intro index
      rw [Line.kind_eq_other_iff, Line.body?, Line.trimmed, trim_append isBlank_of_mem_indent]
      rfl
    · simp
  · have shape : indent run ++ " *".toList ++ line.body?.getD [] =
        (indent run ++ [' ']) ++ '*' :: line.body?.getD [] := by simp
    rw [shape]
    refine ⟨fun index => Line.kind_of_asterisk blank index _, ?_⟩
    rw [List.getLast?_append, List.getLast?_cons]
    intro last
    cases found : line.body? with
    | none => simp [found] at last
    | some body =>
      cases ends : body.getLast? with
      | none => simp [found, ends] at last
      | some c =>
        have same : c = '\r' := by simpa [found, ends] using last
        have solid := Line.isBlank_of_getLast?_body found ends
        rw [same] at solid
        exact absurd solid (by decide)
  · have shape : indent run ++ " */".toList = (indent run ++ [' ']) ++ '*' :: ['/'] := by simp
    rw [shape]
    exact ⟨fun index => Line.kind_of_asterisk blank index _, by simp⟩

theorem lineFeed_not_mem_lines (whole : ∀ line ∈ run, '\n' ∉ line.raw)
    (written : raw ∈ openLines run ++ closingLines run) : '\n' ∉ raw := by
  have margin : '\n' ∉ indent run := by
    cases run with
    | nil => simp [indent]
    | cons first rest =>
      exact fun member => whole first List.mem_cons_self (List.takeWhile_subset _ member)
  unfold openLines closingLines at written
  split at written
  · simp only [List.mem_append, List.mem_cons, List.mem_map, List.not_mem_nil, or_false] at written
    rcases written with (rfl | ⟨line, member, rfl⟩) | rfl
    · simp [margin]
    · have kept : '\n' ∉ line.body?.getD [] := by
        cases found : line.body? with
        | none => simp
        | some body => exact fun inside => whole line member (Line.mem_of_mem_body found inside)
      simp [margin, kept]
    · simp [margin]
  · rw [List.append_nil] at written
    obtain ⟨line, member, rfl⟩ := List.mem_map.mp written
    exact whole line member

end Run

def foldedLines (trailing : Trailing) : List (List Line) → List Text
  | [] => []
  | [last] => Run.openLines last ++ if trailing = .close then Run.closingLines last else []
  | run :: rest => Run.openLines run ++ Run.closingLines run ++ foldedLines trailing rest

theorem foldRuns_eq_lines (trailing : Trailing) (cut : List (List Line)) :
    foldRuns trailing cut = (foldedLines trailing cut).flatMap Block.plainLine := by
  induction cut with
  | nil => rfl
  | cons run rest ih =>
    cases rest with
    | nil =>
      simp only [foldRuns, foldedLines, List.flatMap_append, Run.openText_eq_lines, Run.closingText_eq_lines]
      split <;> rfl
    | cons next rest =>
      simp only [foldRuns, foldedLines, List.flatMap_append, ih, Run.openText_eq_lines, Run.closingText_eq_lines]

theorem mem_foldedLines {trailing : Trailing} {cut : List (List Line)} {raw : Text}
    (written : raw ∈ foldedLines trailing cut) : ∃ run ∈ cut, raw ∈ Run.openLines run ++ Run.closingLines run := by
  induction cut with
  | nil => cases written
  | cons run rest ih =>
    cases rest with
    | nil =>
      refine ⟨run, List.mem_cons_self, ?_⟩
      cases trailing with
      | leave => exact List.mem_append_left _ (by simpa [foldedLines] using written)
      | close => exact written
    | cons next rest =>
      rcases List.mem_append.mp written with here | later
      · exact ⟨run, List.mem_cons_self, here⟩
      · obtain ⟨other, member, inside⟩ := ih later
        exact ⟨other, List.mem_cons_of_mem _ member, inside⟩

theorem mem_foldedLines_of_mem_openLines (trailing : Trailing) {cut : List (List Line)} {run : List Line} {raw : Text}
    (member : run ∈ cut) (written : raw ∈ Run.openLines run) : raw ∈ foldedLines trailing cut := by
  induction cut with
  | nil => cases member
  | cons first rest ih =>
    cases rest with
    | nil =>
      cases List.mem_singleton.mp member
      exact List.mem_append_left _ written
    | cons next rest =>
      rcases List.mem_cons.mp member with rfl | later
      · exact List.mem_append_left _ (List.mem_append_left _ written)
      · exact List.mem_append_right _ (ih later)

/-- What is written is a line of the body that was no comment line, or it is quiet. -/
theorem mem_foldedLines_runs {trailing : Trailing} {lines : List Line} {raw : Text}
    (written : raw ∈ foldedLines trailing (runs lines)) :
    (∃ line ∈ lines, line.kind = .other ∧ line.raw = raw) ∨
    ((∀ index, Line.kind ⟨index, raw⟩ = .other) ∧ raw.getLast? ≠ some '\r') := by
  obtain ⟨run, member, inside⟩ := mem_foldedLines written
  cases comment : Run.isComment run with
  | true => exact .inr (Run.quiet_of_isComment comment inside)
  | false =>
    have cut := maximalRuns_runs lines
    simp only [Run.openLines, Run.closingLines, comment, Bool.false_eq_true, if_false, List.append_nil] at inside
    obtain ⟨line, within, rfl⟩ := List.mem_map.mp inside
    refine .inl ⟨line, cut.mem member within, ?_, rfl⟩
    cases kind : line.kind with
    | other => rfl
    | comment => simp [(cut.isComment_iff member within).mpr kind] at comment

theorem raw_mem_foldedLines (trailing : Trailing) {lines : List Line} {line : Line} (member : line ∈ lines)
    (kind : line.kind = .other) : line.raw ∈ foldedLines trailing (runs lines) := by
  have cut := maximalRuns_runs lines
  rw [← cut.whole] at member
  obtain ⟨run, inside, within⟩ := List.mem_flatten.mp member
  refine mem_foldedLines_of_mem_openLines trailing inside ?_
  have plain : ¬ Run.isComment run = true := by simp [cut.isComment_iff inside within, kind]
  rw [Run.openLines, if_neg plain]
  exact List.mem_map_of_mem within

theorem lineFeed_not_mem_foldedLines {trailing : Trailing} {lines : List Line} (whole : ∀ line ∈ lines, '\n' ∉ line.raw) :
    ∀ raw ∈ foldedLines trailing (runs lines), '\n' ∉ raw := by
  intro raw written
  obtain ⟨run, member, inside⟩ := mem_foldedLines written
  refine Run.lineFeed_not_mem_lines ?_ inside
  exact fun line within => whole line ((maximalRuns_runs lines).mem member within)

/-- Where no line is a comment line there is nothing to fold. -/
theorem foldRuns_of_other (trailing : Trailing) {lines : List Line} (other : ∀ line ∈ lines, line.kind = .other) :
    foldRuns trailing (runs lines) = lines.flatMap (fun line => Block.plainLine line.raw) ∧ countBlocks lines = 0 := by
  cases lines with
  | nil => exact ⟨rfl, rfl⟩
  | cons first rest =>
    have cut : runs (first :: rest) = [first :: rest] := by
      refine maximalRuns_iff.mp ⟨by simp, by simp, ?_, List.isChain_singleton _⟩
      intro run member line inside next within
      cases List.mem_singleton.mp member
      rw [other line inside, other next within]
    have plain : Run.isComment (first :: rest) = false := by simp [Run.isComment, other first]
    simp [countBlocks, cut, foldRuns, Run.openText, Run.closingText, plain]

end CommentFold
