import CommentFold.Proofs.LineMap

/-! What becomes of a block that reaches the end. Closing it and leaving it open are
two passes over the same lines, which fail alike and count alike. Their texts differ by
one line at the end, the closing marker, and only where a comment line is last. -/

namespace CommentFold

variable {lines : List Line} {last : Line}

/-- Behind a comment line at the end, closing adds a marker with the indent of the
first line of its run. -/
theorem foldRuns_close_of_comment (ends : lines.getLast? = some last) (comment : last.kind = .comment) :
    ∃ earlier first rest, MaximalRuns lines (earlier ++ [first :: rest]) ∧
      (∀ line ∈ first :: rest, line.kind = .comment) ∧
      foldRuns .close (runs lines) = foldRuns .leave (runs lines) ++ (first.indent ++ " */\n".toList) := by
  obtain ⟨earlier, first, rest, cut, kinds⟩ := exists_last_run ends
  rw [comment] at kinds
  refine ⟨earlier, first, rest, maximalRuns_iff.mpr cut, kinds, ?_⟩
  have marked : Run.isComment (first :: rest) = true := by simp [Run.isComment, kinds first]
  have marker : Run.closingText (first :: rest) = first.indent ++ " */\n".toList := by
    simp [Run.closingText, marked, Run.indent, Block.closingMarker, Block.plainLine]
  rw [cut, foldRuns_close_concat, marker]

/-- Behind any other line there is nothing to close. -/
theorem foldRuns_close_of_other (other : ∀ last ∈ lines.getLast?, last.kind = .other) :
    foldRuns .close (runs lines) = foldRuns .leave (runs lines) := by
  cases ends : lines.getLast? with
  | none =>
    cases List.getLast?_eq_none_iff.mp ends
    rfl
  | some last =>
    obtain ⟨earlier, first, rest, cut, kinds⟩ := exists_last_run ends
    rw [other last ends] at kinds
    have plain : Run.isComment (first :: rest) = false := by simp [Run.isComment, kinds first]
    rw [cut, foldRuns_close_concat, Run.closingText, plain, if_neg Bool.false_ne_true, List.append_nil]

namespace Document

/-- A pass that is to close the last block and one that is to leave it open both fail
with the same failure or both succeed. Then they count the same lines and blocks, and
closing has written what leaving has, and behind it, if the file ends in a comment line
after its banner, the closing marker of the run that this line is in. -/
theorem fold_close_eq_leave (path : Path) (items : List ReadLine) :
    (∃ failure, ∀ trailing, (fold path trailing items).result = .error failure) ∨
    ∃ lines : List Text, items = lines.map .ok ∧ ∃ closed left : Document,
      (fold path .close items).result = .ok closed ∧ (fold path .leave items).result = .ok left ∧
      closed.lines = left.lines ∧ closed.blocks = left.blocks ∧
      let body := numbered 3 (lines.drop 3)
      (∀ last, body.getLast? = some last → last.kind = .comment → ∃ earlier first rest,
        MaximalRuns body (earlier ++ [first :: rest]) ∧ (∀ line ∈ first :: rest, line.kind = .comment) ∧
        closed.contents = left.contents ++ (first.indent ++ " */\n".toList)) ∧
      ((∀ last, body.getLast? = some last → last.kind = .other) → closed.contents = left.contents) := by
  cases complaint : firstComplaint? path 0 items with
  | some failure => exact .inl ⟨failure, fun trailing => fold_error_iff.mpr complaint⟩
  | none =>
    have accepted : ∃ document, (fold path .leave items).result = .ok document := fold_ok_iff.mpr complaint
    obtain ⟨document, folded⟩ := accepted
    obtain ⟨lines, rfl, starts⟩ := fold_ok_lines folded
    right
    refine ⟨lines, rfl, _, _, fold_of_starts path .close starts, fold_of_starts path .leave starts, rfl, rfl, ?_, ?_⟩
    · intro last ends comment
      obtain ⟨earlier, first, rest, maximal, comments, closed⟩ := foldRuns_close_of_comment ends comment
      refine ⟨earlier, first, rest, maximal, comments, ?_⟩
      rw [closed, List.append_assoc]
    · intro other
      rw [foldRuns_close_of_other other]

end Document

end CommentFold
