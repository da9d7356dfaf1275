import CommentFold.Proofs.FoldedDocument
import Mathlib.Order.Bounds.Defs

/-! Where the comment ends that a run becomes. Whoever reads the result takes the
first end of a comment after the opening, so a comment line that brings one of
its own, or a slash that follows its asterisk, lets text out of the block. -/

namespace CommentFold

namespace Block

/-- What ends a block comment, wherever it stands. -/
def ending : Text := "*/".toList

@[simp] theorem getLast?_plainLine (raw : Text) : (plainLine raw).getLast? = some '\n' := by
  simp [plainLine]

private theorem ending_prefix_cons {first second : Char} {rest : Text} :
    ending <+: first :: second :: rest ↔ first = '*' ∧ second = '/' := by
  simp [ending, List.cons_prefix_cons, eq_comm]

/-- Two texts that do not join into an ending have together those that they have alone. -/
theorem ending_infix_append {first second : Text} (apart : first.getLast? ≠ some '*' ∨ second.head? ≠ some '/') :
    ending <:+: first ++ second ↔ ending <:+: first ∨ ending <:+: second := by
  induction first with
  | nil => simp [ending]
  | cons c rest ih =>
    cases rest with
    | nil =>
      have seam : ¬ ending <+: c :: second := by
        cases second with
        | nil => simp [ending]
        | cons d more =>
          rw [ending_prefix_cons]
          rintro ⟨rfl, rfl⟩
          simp at apart
      have alone : ¬ ending <:+: [c] := fun inside => absurd inside.length_le (by simp [ending])
      simp [List.infix_cons_iff, seam, alone]
    | cons d more =>
      rw [List.getLast?_cons_cons] at apart
      rw [List.cons_append, List.infix_cons_iff, ih apart, @List.infix_cons_iff _ _ _ (d :: more), List.cons_append,
        ending_prefix_cons, ending_prefix_cons, or_assoc]

theorem ending_infix_flatMap {α : Type} {pieces : List α} {text : α → Text}
    (separate : ∀ piece ∈ pieces, (text piece).getLast? ≠ some '*') :
    ending <:+: pieces.flatMap text ↔ ∃ piece ∈ pieces, ending <:+: text piece := by
  induction pieces with
  | nil => simp [ending]
  | cons piece rest ih =>
    rw [List.flatMap_cons, ending_infix_append (.inl (separate piece List.mem_cons_self)),
      ih fun other member => separate other (List.mem_cons_of_mem _ member)]
    simp

theorem not_ending_infix_of_blank {indent : Text} (blank : ∀ c ∈ indent, isBlank c = true) : ¬ ending <:+: indent := by
  intro inside
  have member : '*' ∈ indent := inside.subset (by simp [ending])
  exact absurd (blank _ member) (by decide)

/-- A comment line ends a comment by what stands in it, or by a slash right after its asterisk. -/
theorem ending_infix_commentLine {indent body : Text} (blank : ∀ c ∈ indent, isBlank c = true) :
    ending <:+: commentLine indent body ↔ ['/'] <+: body ∨ ending <:+: body := by
  have shape : commentLine indent body = (indent ++ [' ']) ++ ('*' :: (body ++ ['\n'])) := by
    simp [commentLine, plainLine]
  have margin : ¬ ending <:+: indent ++ [' '] := by
    apply not_ending_infix_of_blank
    simp only [List.forall_mem_append, List.forall_mem_singleton]
    exact ⟨blank, by decide⟩
  have alone : ¬ ending <:+: ['\n'] := not_ending_infix_of_blank (List.forall_mem_singleton.mpr (by decide))
  have start : ending <+: '*' :: (body ++ ['\n']) ↔ ['/'] <+: body := by
    cases body <;> simp [ending, List.cons_prefix_cons]
  rw [shape, ending_infix_append (.inl (by simp)), or_iff_right margin, List.infix_cons_iff, start,
    ending_infix_append (.inr (by simp)), or_iff_left alone]

theorem not_ending_infix_openingMarker {indent : Text} (blank : ∀ c ∈ indent, isBlank c = true) :
    ¬ ending <:+: openingMarker indent := by
  have shape : openingMarker indent = indent ++ "/**\n".toList := by simp [openingMarker, plainLine]
  have alone : ¬ ending <:+: "/**\n".toList := by decide
  -- The indent may end in anything but an asterisk.
  have apart : indent.getLast? ≠ some '*' := by
    intro last
    exact absurd (blank _ (List.mem_of_getLast? last)) (by decide)
  rw [shape, ending_infix_append (.inl apart), not_or]
  exact ⟨not_ending_infix_of_blank blank, alone⟩

/-- An ending that stands at the end of a text is its first one after an opening exactly
if none is complete before its last character. -/
theorem first_ending_iff (opening inner : Text) :
    IsLeast {place | opening.length ≤ place ∧ ending <+: (opening ++ inner ++ ending).drop place}
      (opening.length + inner.length) ↔ ¬ ending <:+: inner ++ ['*'] := by
  have last : ending <+: (opening ++ inner ++ ending).drop (opening.length + inner.length) :=
    ⟨[], by rw [← List.length_append, List.drop_left, List.append_nil]⟩
  constructor
  · intro ⟨_, least⟩ ⟨before, after, whole⟩
    have place : opening.length + before.length ∈
        {place | opening.length ≤ place ∧ ending <+: (opening ++ inner ++ ending).drop place} := by
      refine ⟨Nat.le_add_right _ _, after ++ ['/'], ?_⟩
      have same : opening ++ inner ++ ending = opening ++ before ++ (ending ++ (after ++ ['/'])) := by
        have joined : inner ++ ending = (inner ++ ['*']) ++ ['/'] := by simp [ending]
        rw [List.append_assoc, joined, ← whole]
        simp
      rw [same, ← List.length_append, List.drop_left]
    have bound := least place
    have size := congrArg List.length whole
    simp [ending] at size
    omega
  · intro absent
    refine ⟨⟨Nat.le_add_right _ _, last⟩, ?_⟩
    intro place ⟨inside, found⟩
    by_contra early
    apply absent
    obtain ⟨offset, rfl⟩ := Nat.exists_eq_add_of_le inside
    have shifted : (opening ++ inner ++ ending).drop (opening.length + offset) =
        (inner ++ ['*']).drop offset ++ ['/'] := by
      have joined : inner ++ ending = (inner ++ ['*']) ++ ['/'] := by simp [ending]
      rw [List.append_assoc, joined, ← List.drop_drop, List.drop_left, List.drop_append_of_le_length]
      rw [List.length_append, List.length_singleton]
      omega
    rw [shifted] at found
    have kept : ending <+: (inner ++ ['*']).drop offset := by
      refine List.prefix_of_prefix_length_le found (List.prefix_append _ _) ?_
      rw [List.length_drop, List.length_append, List.length_singleton]
      simp only [ending]
      change 2 ≤ _
      omega
    exact kept.isInfix.trans (List.drop_suffix _ _).isInfix

end Block

namespace Run

/-- No comment of a run ends the block that the run becomes. -/
def Sealed (run : List Line) : Prop :=
  ∀ line ∈ run, ∀ body, line.body? = some body → ¬ ['/'] <+: body ∧ ¬ Block.ending <:+: body

/-- A block from its opening to its closing asterisks, without what stands around it. -/
def blockText (run : List Line) : Text :=
  "/**\n".toList ++ (run.flatMap fun line => Block.commentLine (indent run) (line.body?.getD [])) ++
    indent run ++ " */".toList

theorem openText_append_closingText {run : List Line} (comment : isComment run = true) :
    openText run ++ closingText run = indent run ++ blockText run ++ ['\n'] := by
  simp [openText, closingText, blockText, comment, Block.openingMarker, Block.closingMarker, Block.plainLine]

theorem ending_infix_comments (run : List Line) :
    Block.ending <:+: (run.flatMap fun line => Block.commentLine (indent run) (line.body?.getD [])) ↔
      ¬ Sealed run := by
  rw [Block.ending_infix_flatMap (fun _ _ => by simp [Block.commentLine])]
  simp only [Block.ending_infix_commentLine isBlank_of_mem_indent, Sealed, not_forall, not_and_or, not_not]
  constructor
  · intro ⟨line, member, broken⟩
    cases found : line.body? with
    | none => simp [found, Block.ending] at broken
    | some body =>
      rw [found] at broken
      exact ⟨line, member, body, found, broken⟩
  · intro ⟨line, member, body, found, broken⟩
    refine ⟨line, member, ?_⟩
    rw [found]
    exact broken

theorem ending_infix_openText {run : List Line} (comment : isComment run = true) :
    Block.ending <:+: openText run ↔ ¬ Sealed run := by
  have marker := Block.not_ending_infix_openingMarker (@isBlank_of_mem_indent run)
  rw [openText, if_pos comment, Block.ending_infix_append (.inl (by simp [Block.openingMarker])),
    or_iff_right marker, ending_infix_comments]

theorem first_ending_blockText_iff (run : List Line) :
    IsLeast {place | 2 ≤ place ∧ Block.ending <+: (blockText run).drop place} ((blockText run).length - 2) ↔
      Sealed run := by
  let comments := run.flatMap fun line => Block.commentLine (indent run) (line.body?.getD [])
  let inner := "*\n".toList ++ (comments ++ (indent run ++ [' ']))
  have shape : blockText run = "/*".toList ++ inner ++ Block.ending := by
    simp [blockText, inner, comments, Block.ending]
  have size : (blockText run).length - 2 = 2 + inner.length := by
    simp only [shape, List.length_append, Block.ending, String.length_toList]
    change 2 + inner.length + 2 - 2 = _
    omega
  have parts : inner ++ ['*'] = "*\n".toList ++ (comments ++ (indent run ++ " *".toList)) := by simp [inner]
  have start : ¬ Block.ending <:+: "*\n".toList := by decide
  have margin : ¬ Block.ending <:+: indent run ++ " *".toList := by
    rw [Block.ending_infix_append (.inr (by simp)), not_or]
    exact ⟨Block.not_ending_infix_of_blank isBlank_of_mem_indent, by decide⟩
  have apart : (indent run ++ " *".toList).head? ≠ some '/' := by
    intro first
    have member := List.mem_of_head? first
    rcases List.mem_append.mp member with blank | mark
    · exact absurd (isBlank_of_mem_indent _ blank) (by decide)
    · exact absurd mark (by decide)
  rw [size, shape]
  refine (Block.first_ending_iff "/*".toList inner).trans ?_
  rw [parts, Block.ending_infix_append (.inl (by simp)), or_iff_right start,
    Block.ending_infix_append (.inr apart), or_iff_left margin, ending_infix_comments, not_not]

end Run

/-- A run that others follow is closed, and so is the last one if it is not to be left. -/
theorem foldRuns_cons {trailing : Trailing} {later : List (List Line)} (closed : later ≠ [] ∨ trailing = .close)
    (run : List Line) :
    foldRuns trailing (run :: later) = Run.openText run ++ Run.closingText run ++ foldRuns trailing later := by
  have ended : ¬ (later = [] ∧ trailing = .leave) := by
    rintro ⟨rfl, rfl⟩
    simp at closed
  rw [foldRuns_cons_ite, if_neg ended]

theorem Line.body?_slash_iff {line : Line} {body : Text} (found : line.body? = some body) :
    ['/'] <+: body ↔ "///".toList <+: line.trimmed := by
  rw [body?_eq_some_iff.mp found]
  simp [List.cons_prefix_cons]

namespace Document

/-- A run of comment lines that is closed becomes one comment and no more exactly if
none of its lines has a third slash and none has the end of a comment in it: then
the first end of a comment after the opening is that of the closing marker. A run
that is left open has no end of a comment under the same condition. -/
theorem fold_blocks_end_once {path : Path} {trailing : Trailing} {items : List ReadLine} {document : Document}
    (folded : (fold path trailing items).result = .ok document) :
    ∃ lines : List Text, items = lines.map .ok ∧
      ∀ earlier run later, MaximalRuns (numbered 3 (lines.drop 3)) (earlier ++ run :: later) →
        (∀ line ∈ run, line.kind = .comment) →
        let before := (lines.take 3).flatMap Block.plainLine ++ foldRuns .close earlier
        (later ≠ [] ∨ trailing = .close →
          document.contents = before ++ (Run.indent run ++ Run.blockText run ++ ['\n']) ++ foldRuns trailing later ∧
          (IsLeast {place | 2 ≤ place ∧ Block.ending <+: (Run.blockText run).drop place}
            ((Run.blockText run).length - 2) ↔ Run.Sealed run)) ∧
        (later = [] → trailing = .leave →
          document.contents = before ++ Run.openText run ∧
          (¬ Block.ending <:+: Run.openText run ↔ Run.Sealed run)) ∧
        ∀ line ∈ run, ∀ body, line.body? = some body → (['/'] <+: body ↔ "///".toList <+: line.trimmed) := by
  obtain ⟨lines, rfl, starts⟩ := fold_ok_lines folded
  refine ⟨lines, rfl, ?_⟩
  intro earlier run later cut comments before
  have nonempty : run ≠ [] := by
    rintro rfl
    exact cut.nonempty (by simp)
  obtain ⟨first, inside⟩ := List.exists_mem_of_ne_nil run nonempty
  have comment : Run.isComment run = true := (cut.isComment_iff (by simp) inside).mpr (comments first inside)
  have contents : document.contents = before ++ foldRuns trailing (run :: later) := by
    have whole := fold_of_starts path trailing starts
    rw [folded, maximalRuns_iff.mp cut, foldRuns_append trailing earlier (List.cons_ne_nil run later),
      ← List.append_assoc] at whole
    exact congrArg contents (Except.ok.inj whole)
  refine ⟨?_, ?_, fun line _ body found => Line.body?_slash_iff found⟩
  · intro closed
    rw [foldRuns_cons closed, Run.openText_append_closingText comment, ← List.append_assoc] at contents
    exact ⟨contents, Run.first_ending_blockText_iff run⟩
  · rintro rfl rfl
    have left : foldRuns .leave [run] = Run.openText run := by simp [foldRuns]
    rw [left] at contents
    exact ⟨contents, by rw [Run.ending_infix_openText comment, not_not]⟩

private def leakyLines : List Text := Banner.required ++ ["  //a".toList, "x".toList, "/// b".toList]

private def leakyDocument : Document :=
  ⟨(Banner.required ++ ["  /**".toList, "   *a".toList, "   */".toList, "x".toList, "/**".toList,
    " */ b".toList]).flatMap Block.plainLine, 6, 2⟩

/-- The first block ends where it is closed. The second ends at its third slash, and is never closed. -/
theorem fold_leaks_third_slash :
    (fold ⟨[]⟩ .leave (leakyLines.map .ok)).result = .ok leakyDocument ∧
      IsLeast {place | 2 ≤ place ∧ Block.ending <+: "/**\n   *a\n   */".toList.drop place} 13 ∧
      Block.ending <:+: "/**\n */ b\n".toList := by
  have folded : (fold ⟨[]⟩ .leave (leakyLines.map .ok)).result = .ok leakyDocument := by decide +kernel
  obtain ⟨lines, same, blocks⟩ := fold_blocks_end_once folded
  have read : leakyLines = lines := (List.map_inj_right fun _ _ equal => Except.ok.inj equal).mp same
  subst lines
  have first := (blocks [] [⟨3, "  //a".toList⟩] [[⟨4, "x".toList⟩], [⟨5, "/// b".toList⟩]]
    (maximalRuns_iff.mpr (by decide +kernel)) (by decide)).1 (by simp)
  have last := (blocks [[⟨3, "  //a".toList⟩], [⟨4, "x".toList⟩]] [⟨5, "/// b".toList⟩] []
    (maximalRuns_iff.mpr (by decide +kernel)) (by decide)).2.1 rfl rfl
  refine ⟨folded, first.2.mpr ?_, ?_⟩
  · intro line member body found
    rw [List.mem_singleton.mp member, show Line.body? ⟨3, "  //a".toList⟩ = some ['a'] by decide] at found
    cases found
    decide
  · by_contra absent
    have sound := last.2.mp absent _ List.mem_cons_self "/ b".toList (by decide)
    exact sound.1 (by decide)

end Document

end CommentFold
