import CommentFold.Proofs.Collisions

/-! Folding a body in two parts. Where no block reaches over the seam, the two texts
stand one behind the other, and the first part ends as an input does whose last block
is closed. Where one does, the second part goes on with the block of the first: it has
no opening marker of its own, and its first block takes the indent of the other. -/

namespace CommentFold

/-- How many blocks a writer has opened when it was given the lines of a body. -/
def blocksAfter (lines : List Line) : Nat := (lines.foldl BlockWriter.push (.after [])).blocks

theorem blocksAfter_eq (lines : List Line) : blocksAfter lines = countBlocks lines :=
  ((Tracks.after []).foldl_push lines).blocks

namespace Run

/-- The block of a comment run after its opening marker, with an indent of its own or another. -/
def remainder (indent : Text) (closed : Bool) (run : List Line) : Text :=
  (run.flatMap fun line => Block.commentLine indent (line.body?.getD [])) ++
    if closed then Block.closingMarker indent else []

theorem indent_congr {run other : List Line} (raws : run.map Line.raw = other.map Line.raw) :
    indent run = indent other := by
  cases run <;> cases other <;> simp_all [indent, Line.indent]

end Run

/-- What is written does not depend on the indexes of lines. -/
theorem writtenAfter_congr (text : Text) (trailing : Trailing) {lines others : List Line}
    (raws : lines.map Line.raw = others.map Line.raw) :
    writtenAfter text trailing lines = writtenAfter text trailing others := by
  have of_raw : ∀ {α : Type} (f : Text → α),
      lines.map (fun line => f line.raw) = others.map fun line => f line.raw := by
    intro α f
    simpa only [List.map_map, Function.comp_def] using congrArg (List.map f) raws
  have kinds : lines.map Line.kind = others.map Line.kind := of_raw fun raw => Line.kind ⟨0, raw⟩
  have kept : lines.map Line.kept = others.map Line.kept := of_raw fun raw => Line.kept ⟨0, raw⟩
  have cuts := (map_runs_eq_iff kinds).mpr kinds
  have texts := (map_eq_map_iff_zip.mp ((map_runs_eq_iff kinds).mpr raws)).2
  have same := (foldedLines_eq_iff trailing cuts (uniform_runs lines) (uniform_runs others)).mpr
    ⟨(map_runs_eq_iff kinds).mpr kept, fun run run' pair _ => Run.indent_congr (texts run run' pair)⟩
  rw [writtenAfter_eq_lines, writtenAfter_eq_lines, same]

section

variable {lines more : List Line} {earlier later : List (List Line)} {run next : List Line} {trailing : Trailing}

/-- A run that is no comment run is written the same whether it is cut or not. -/
theorem foldRuns_cut_other (plain : Run.isComment run = false) (plain' : Run.isComment next = false) (filled : run ≠ []) :
    foldRuns trailing (earlier ++ (run ++ next) :: later) =
      foldRuns .close (earlier ++ [run]) ++ foldRuns trailing (next :: later) := by
  have joined := (Run.append_eq filled next).1
  rw [foldRuns_append _ _ (List.cons_ne_nil _ _), foldRuns_append _ _ (List.cons_ne_nil _ _),
    foldRuns_cons_ite trailing (run ++ next), foldRuns_cons_ite trailing next, Run.openText_append filled]
  simp [foldRuns, Run.closingText, Run.openText, joined, plain, plain']

/-- A block that reaches over a seam is opened before it and goes on behind it. -/
theorem foldRuns_cut_comment (comment : Run.isComment run = true) (filled : run ≠ []) :
    foldRuns trailing (earlier ++ (run ++ next) :: later) =
      foldRuns .leave (earlier ++ [run]) ++ Run.remainder (Run.indent run) (later ≠ [] ∨ trailing = .close) next ++
        foldRuns trailing later := by
  obtain ⟨joined, margin, _⟩ := Run.append_eq filled next
  rw [foldRuns_append _ _ (List.cons_ne_nil _ _), foldRuns_append _ _ (List.cons_ne_nil _ _), foldRuns_cons_ite,
    Run.openText_append filled]
  cases trailing <;> by_cases last : later = [] <;>
    simp [foldRuns, Run.closingText, Run.remainder, joined, margin, comment, last]

theorem foldRuns_cons_comment (comment : Run.isComment run = true) :
    foldRuns trailing (run :: later) = Block.openingMarker (Run.indent run) ++
      Run.remainder (Run.indent run) (later ≠ [] ∨ trailing = .close) run ++ foldRuns trailing later := by
  rw [foldRuns_cons_ite]
  cases trailing <;> by_cases last : later = [] <;>
    simp [Run.openText, Run.closingText, Run.remainder, comment, last]

end

/-- Behind a seam that no block reaches over, folding starts anew. -/
theorem writtenAfter_append_apart {lines more : List Line} (trailing : Trailing) (filled : more ≠ [])
    (apart : ∀ last ∈ lines.getLast?, ∀ first ∈ more.head?, ¬ (last.kind = .comment ∧ first.kind = .comment)) :
    writtenAfter [] trailing (lines ++ more) = writtenAfter [] .close lines ++ writtenAfter [] trailing more ∧
      blocksAfter (lines ++ more) = blocksAfter lines + blocksAfter more := by
  simp only [writtenAfter_eq_foldRuns, List.nil_append, blocksAfter_eq, countBlocks]
  by_cases same : ∃ last ∈ lines.getLast?, ∃ first ∈ more.head?, last.kind = first.kind
  · obtain ⟨last, ends, first, starts, same⟩ := same
    obtain ⟨earlier, run, next, later, cut, cut', inside, heads, joined⟩ := runs_append_of_same ends starts same
    have other : last.kind ≠ .comment := fun comment => apart last ends first starts ⟨comment, same.symm.trans comment⟩
    have plain : Run.isComment run = false := by
      rwa [← Bool.not_eq_true, (maximalRuns_runs lines).isComment_iff (by simp [cut]) inside]
    have plain' : Run.isComment next = false := by
      rwa [← Bool.not_eq_true, (maximalRuns_runs more).isComment_iff (by simp [cut']) (List.mem_of_head? heads), ← same]
    have shared := (Run.append_eq (List.ne_nil_of_mem inside) next).1
    rw [joined, cut, cut', foldRuns_cut_other plain plain' (List.ne_nil_of_mem inside)]
    exact ⟨rfl, by simp [plain, plain', shared]⟩
  · have cut : runs (lines ++ more) = runs lines ++ runs more :=
      runs_append_apart fun last ends first starts equal => same ⟨last, ends, first, starts, equal⟩
    have filled' : runs more ≠ [] := List.splitBy_ne_nil.mpr filled
    rw [cut, foldRuns_append _ _ filled', List.countP_append]
    exact ⟨rfl, rfl⟩

/-- A block that reaches over the seam is opened by the first body only, and what the
second one adds to it has the indent that the block was opened with. -/
theorem writtenAfter_append_shared {lines more : List Line} (trailing : Trailing) {last first : Line}
    (ends : lines.getLast? = some last) (starts : more.head? = some first) (comment : last.kind = .comment)
    (comment' : first.kind = .comment) :
    blocksAfter (lines ++ more) + 1 = blocksAfter lines + blocksAfter more ∧
      ∃ earlier run next later, MaximalRuns lines (earlier ++ [run]) ∧ MaximalRuns more (next :: later) ∧
        Run.indent next = first.indent ∧
        writtenAfter [] trailing more = Block.openingMarker first.indent ++
          Run.remainder first.indent (later ≠ [] ∨ trailing = .close) next ++ writtenAfter [] trailing later.flatten ∧
        writtenAfter [] trailing (lines ++ more) = writtenAfter [] .leave lines ++
          Run.remainder (Run.indent run) (later ≠ [] ∨ trailing = .close) next ++
          writtenAfter [] trailing later.flatten := by
  obtain ⟨earlier, run, next, later, cut, cut', inside, heads, joined⟩ :=
    runs_append_of_same ends starts (comment.trans comment'.symm)
  have whole := cut ▸ maximalRuns_runs lines
  have whole' := cut' ▸ maximalRuns_runs more
  have marked := (whole.isComment_iff (by simp) inside).mpr comment
  have marked' := (whole'.isComment_iff List.mem_cons_self (List.mem_of_head? heads)).mpr comment'
  have margin : Run.indent next = first.indent := by simp [Run.indent, heads]
  have rest : runs later.flatten = later :=
    maximalRuns_iff.mp
      ⟨rfl, fun empty => whole'.nonempty (List.mem_cons_of_mem _ empty),
        fun other member => whole'.uniform other (List.mem_cons_of_mem _ member), whole'.apart.tail⟩
  have shared := (Run.append_eq (List.ne_nil_of_mem inside) next).1
  simp only [writtenAfter_eq_foldRuns, List.nil_append, blocksAfter_eq, countBlocks, joined, cut, cut']
  refine ⟨?_, earlier, run, next, later, whole, whole', margin, ?_, ?_⟩
  · simp only [List.countP_append, List.countP_cons, List.countP_nil, shared, marked, marked', if_true]
    omega
  · rw [foldRuns_cons_comment marked', margin, rest]
  · rw [foldRuns_cut_comment marked (List.ne_nil_of_mem inside), rest]

/-- A body is folded in two parts. An empty second part adds nothing. Where no block
reaches over the seam, the first part is folded as if its last block were to be closed,
and the second one by itself. Where one does, the second part loses the opening marker
of its first block, and the rest of that block takes the indent of the block before the
seam. The indexes of the lines show nowhere. -/
theorem writtenAfter_append (lines more : List Line) (trailing : Trailing) :
    (more = [] → writtenAfter [] trailing (lines ++ more) = writtenAfter [] trailing lines) ∧
    (more ≠ [] →
      (∀ last ∈ lines.getLast?, ∀ first ∈ more.head?, ¬ (last.kind = .comment ∧ first.kind = .comment)) →
      writtenAfter [] trailing (lines ++ more) = writtenAfter [] .close lines ++ writtenAfter [] trailing more ∧
        blocksAfter (lines ++ more) = blocksAfter lines + blocksAfter more) ∧
    (∀ last ∈ lines.getLast?, ∀ first ∈ more.head?, last.kind = .comment → first.kind = .comment →
      blocksAfter (lines ++ more) + 1 = blocksAfter lines + blocksAfter more ∧
      ∃ earlier run next later, MaximalRuns lines (earlier ++ [run]) ∧ MaximalRuns more (next :: later) ∧
        Run.indent next = first.indent ∧
        writtenAfter [] trailing more = Block.openingMarker first.indent ++
          Run.remainder first.indent (later ≠ [] ∨ trailing = .close) next ++ writtenAfter [] trailing later.flatten ∧
        writtenAfter [] trailing (lines ++ more) = writtenAfter [] .leave lines ++
          Run.remainder (Run.indent run) (later ≠ [] ∨ trailing = .close) next ++
          writtenAfter [] trailing later.flatten) ∧
    ∀ others : List Line, others.map Line.raw = (lines ++ more).map Line.raw →
      writtenAfter [] trailing others = writtenAfter [] trailing (lines ++ more) := by
  refine ⟨?_, writtenAfter_append_apart trailing, ?_, fun others raws => writtenAfter_congr [] trailing raws⟩
  · rintro rfl
    rw [List.append_nil]
  · intro last ends first starts comment comment'
    exact writtenAfter_append_shared trailing ends starts comment comment'

private def upperLines : List Line := [⟨8, "x".toList⟩, ⟨4, "  // a".toList⟩]

private def lowerLines : List Line := [⟨6, "\t// b".toList⟩, ⟨6, "y".toList⟩]

/-- The tab in front of the second comment line counts only where that line starts a block. -/
theorem writtenAfter_append_one_block :
    writtenAfter [] .leave lowerLines = "\t/**\n\t * b\n\t */\ny\n".toList ∧
      writtenAfter [] .leave (upperLines ++ lowerLines) =
        writtenAfter [] .leave upperLines ++ "   * b\n   */\ny\n".toList ∧
      blocksAfter (upperLines ++ lowerLines) + 1 = 2 := by
  obtain ⟨blocks, earlier, run, next, later, cut, cut', _, alone, joined⟩ :=
    (writtenAfter_append upperLines lowerLines .leave).2.2.1 _ rfl _ rfl (by decide) (by decide)
  have upper : runs upperLines = [upperLines.take 1] ++ [upperLines.drop 1] := by decide
  have lower : runs lowerLines = lowerLines.take 1 :: [lowerLines.drop 1] := by decide
  obtain ⟨rfl, last⟩ := List.append_inj' ((maximalRuns_iff.mp cut).symm.trans upper) rfl
  cases last
  cases (maximalRuns_iff.mp cut').symm.trans lower
  refine ⟨alone.trans (by decide), joined.trans ?_, blocks.trans (by decide)⟩
  rw [List.append_assoc]
  exact congrArg _ (by decide)

end CommentFold
