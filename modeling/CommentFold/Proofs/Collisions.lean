import CommentFold.Proofs.LineParts
import Mathlib.Data.List.Forall2

/-! Which bodies become the same text. Of a line that is no comment line all is kept, and
of a comment line its body. The indent of a comment line is kept only if the line is the
first of its run. -/

namespace CommentFold

namespace Block

private theorem line_inj {raw other first second : Text} (whole : '\n' ∉ raw) (whole' : '\n' ∉ other)
    (same : raw ++ '\n' :: first = other ++ '\n' :: second) : raw = other ∧ first = second := by
  rcases List.append_eq_append_iff.mp same with ⟨gap, rfl, rest⟩ | ⟨gap, rfl, rest⟩
  · cases gap with
    | nil => exact ⟨by simp, by simpa using rest⟩
    | cons c gap =>
      obtain ⟨rfl, _⟩ := List.cons.inj rest
      exact absurd (List.mem_append_right _ List.mem_cons_self) whole'
  · cases gap with
    | nil => exact ⟨by simp, by simpa using rest.symm⟩
    | cons c gap =>
      obtain ⟨rfl, _⟩ := List.cons.inj rest
      exact absurd (List.mem_append_right _ List.mem_cons_self) whole

/-- The lines of a text can be told apart. -/
theorem flatMap_plainLine_inj {first second : List Text} (whole : ∀ raw ∈ first, '\n' ∉ raw)
    (whole' : ∀ raw ∈ second, '\n' ∉ raw) :
    first.flatMap plainLine = second.flatMap plainLine ↔ first = second := by
  refine ⟨?_, congrArg _⟩
  intro same
  induction first generalizing second with
  | nil =>
    cases second with
    | nil => rfl
    | cons raw rest => simp [plainLine] at same
  | cons raw rest ih =>
    cases second with
    | nil => simp [plainLine] at same
    | cons other more =>
      obtain ⟨here, later⟩ := List.forall_mem_cons.mp whole
      obtain ⟨here', later'⟩ := List.forall_mem_cons.mp whole'
      have joined : raw ++ '\n' :: rest.flatMap plainLine = other ++ '\n' :: more.flatMap plainLine := by
        simpa [plainLine] using same
      obtain ⟨rfl, tails⟩ := line_inj here here' joined
      rw [ih later later' tails]

end Block

namespace Line

/-- What of a line is in the text that it becomes, whatever lines stand around it. -/
def kept (line : Line) : Text := line.body?.getD line.raw

theorem kept_eq_iff {line other : Line} (kind : line.kind = other.kind) :
    line.kept = other.kept ↔
      (line.kind = .other → line.raw = other.raw) ∧ (line.kind = .comment → line.body? = other.body?) := by
  cases found : line.body? with
  | some body =>
    have comment : line.kind = .comment := kind_eq_comment_iff.mpr ⟨body, found⟩
    obtain ⟨body', found'⟩ := kind_eq_comment_iff.mp (kind.symm.trans comment)
    simp [kept, found, found', comment]
  | none =>
    have plain : line.kind = .other := kind_eq_other_iff.mpr found
    have found' := kind_eq_other_iff.mp (kind.symm.trans plain)
    simp [kept, found, found', plain]

end Line

theorem map_kind_runs (lines : List Line) :
    (runs lines).map (List.map Line.kind) = (lines.map Line.kind).splitBy fun kind next => kind = next := by
  symm
  refine List.splitBy_eq_iff.mpr ⟨?_, ?_, ?_, ?_⟩
  · rw [← List.map_flatten, runs, List.flatten_splitBy]
  · simp [(maximalRuns_runs lines).nonempty]
  · intro kinds member
    obtain ⟨run, inside, rfl⟩ := List.mem_map.mp member
    exact (List.isChain_map Line.kind).mpr (List.isChain_of_mem_splitBy inside)
  · refine (List.isChain_map _).mpr ((List.isChain_getLast_head_splitBy _ lines).imp ?_)
    rintro run next ⟨filled, filled', differ⟩
    refine ⟨by simpa using filled, by simpa using filled', ?_⟩
    simpa using differ

namespace Run

/-- A run has lines of its own kind only. -/
def Uniform (run : List Line) : Prop := ∀ line ∈ run, isComment run = true ↔ line.kind = .comment

variable {run other : List Line}

theorem isComment_congr (kinds : run.map Line.kind = other.map Line.kind) : isComment run = isComment other := by
  cases run <;> cases other <;> simp_all [isComment]

theorem length_openLines_congr (kinds : run.map Line.kind = other.map Line.kind) :
    (openLines run).length = (openLines other).length := by
  have lengths : run.length = other.length := by simpa using congrArg List.length kinds
  simp only [openLines, isComment_congr kinds]
  split <;> simp [lengths]

theorem length_closingLines_congr (kinds : run.map Line.kind = other.map Line.kind) :
    (closingLines run).length = (closingLines other).length := by
  simp only [closingLines, isComment_congr kinds]
  split <;> rfl

theorem closingLines_congr (kinds : run.map Line.kind = other.map Line.kind)
    (indents : isComment run = true → indent run = indent other) : closingLines run = closingLines other := by
  unfold closingLines
  rw [← isComment_congr kinds]
  split
  next comment => rw [indents comment]
  next => rfl

theorem Uniform.map_kept (uniform : Uniform run) :
    run.map Line.kept =
      if isComment run then run.map (fun line => line.body?.getD []) else run.map Line.raw := by
  split
  next comment =>
    refine List.map_congr_left fun line member => ?_
    obtain ⟨body, found⟩ := Line.kind_eq_comment_iff.mp ((uniform line member).mp comment)
    simp [Line.kept, found]
  next plain =>
    refine List.map_congr_left fun line member => ?_
    have none : line.body? = none := by
      rw [← Line.kind_eq_other_iff]
      cases kind : line.kind with
      | other => rfl
      | comment => exact absurd ((uniform line member).mpr kind) plain
    simp [Line.kept, none]

/-- The lines of a run show what each line keeps, and the indent of a comment run. -/
theorem openLines_eq_iff (kinds : run.map Line.kind = other.map Line.kind) (uniform : Uniform run)
    (uniform' : Uniform other) :
    openLines run = openLines other ↔
      run.map Line.kept = other.map Line.kept ∧ (isComment run = true → indent run = indent other) := by
  rw [uniform.map_kept, uniform'.map_kept, openLines, openLines, ← isComment_congr kinds]
  cases comment : isComment run with
  | false => simp
  | true =>
    simp only [if_true, true_implies, List.cons.injEq, List.append_cancel_right_eq]
    rw [and_comm]
    refine and_congr_left fun same => ?_
    have injective : Function.Injective fun body : Text => indent other ++ " *".toList ++ body :=
      List.append_right_injective _
    have told := (List.map_injective_iff.mpr injective).eq_iff (a := run.map fun line => line.body?.getD [])
      (b := other.map fun line => line.body?.getD [])
    rw [List.map_map, List.map_map] at told
    rw [same]
    exact told

end Run

theorem foldedLines_cons (trailing : Trailing) (run : List Line) (rest : List (List Line)) :
    foldedLines trailing (run :: rest) =
      Run.openLines run ++ ((if rest = [] ∧ trailing = .leave then [] else Run.closingLines run) ++
        foldedLines trailing rest) := by
  cases rest with
  | nil => cases trailing <;> simp [foldedLines]
  | cons next rest => simp [foldedLines]

/-- Corresponding runs are written to the same places, because their lines are as
many. So both texts are compared run by run. -/
theorem foldedLines_eq_iff (trailing : Trailing) {cut other : List (List Line)}
    (kinds : cut.map (List.map Line.kind) = other.map (List.map Line.kind))
    (uniform : ∀ run ∈ cut, Run.Uniform run) (uniform' : ∀ run ∈ other, Run.Uniform run) :
    foldedLines trailing cut = foldedLines trailing other ↔
      cut.map (List.map Line.kept) = other.map (List.map Line.kept) ∧
        ∀ run run', (run, run') ∈ cut.zip other → Run.isComment run = true → Run.indent run = Run.indent run' := by
  induction cut generalizing other with
  | nil =>
    cases other with
    | nil => simp
    | cons => simp at kinds
  | cons run rest ih =>
    cases other with
    | nil => simp at kinds
    | cons run' rest' =>
      obtain ⟨here, later⟩ := List.cons.inj kinds
      obtain ⟨alone, others⟩ := List.forall_mem_cons.mp uniform
      obtain ⟨alone', others'⟩ := List.forall_mem_cons.mp uniform'
      have ends : rest = [] ↔ rest' = [] := by
        rw [← List.map_eq_nil_iff (f := List.map Line.kind), later, List.map_eq_nil_iff]
      have opened := Run.openLines_eq_iff here alone alone'
      simp only [foldedLines_cons, ends, List.map_cons, List.cons.injEq, List.zip_cons_cons, List.mem_cons,
        Prod.mk.injEq]
      constructor
      · intro same
        obtain ⟨first, remaining⟩ := List.append_inj same (Run.length_openLines_congr here)
        obtain ⟨bodies, indents⟩ := opened.mp first
        have closings : (if rest' = [] ∧ trailing = .leave then [] else Run.closingLines run).length =
            (if rest' = [] ∧ trailing = .leave then [] else Run.closingLines run').length := by
          split
          · rfl
          · exact Run.length_closingLines_congr here
        obtain ⟨bodies', indents'⟩ := (ih later others others').mp (List.append_inj remaining closings).2
        refine ⟨⟨bodies, bodies'⟩, ?_⟩
        rintro _ _ (⟨rfl, rfl⟩ | member)
        · exact indents
        · exact indents' _ _ member
      · rintro ⟨⟨bodies, bodies'⟩, indents⟩
        have first := indents run run' (.inl ⟨rfl, rfl⟩)
        rw [opened.mpr ⟨bodies, first⟩, Run.closingLines_congr here first,
          (ih later others others').mpr ⟨bodies', fun _ _ member => indents _ _ (.inr member)⟩]

theorem uniform_runs (lines : List Line) : ∀ run ∈ runs lines, Run.Uniform run :=
  fun _ member _ inside => (maximalRuns_runs lines).isComment_iff member inside

/-- Where bodies are cut is known by the kinds of their lines, so what agrees on the
lines of two bodies of the same kinds agrees on their runs. -/
theorem map_runs_eq_iff {α : Type} {f : Line → α} {lines others : List Line}
    (kinds : lines.map Line.kind = others.map Line.kind) :
    (runs lines).map (List.map f) = (runs others).map (List.map f) ↔ lines.map f = others.map f := by
  have lengths : (runs lines).map List.length = (runs others).map List.length := by
    have cuts : (runs lines).map (List.map Line.kind) = (runs others).map (List.map Line.kind) := by
      rw [map_kind_runs, map_kind_runs, kinds]
    simpa [Function.comp_def] using congrArg (List.map List.length) cuts
  rw [List.eq_iff_flatten_eq, ← List.map_flatten, ← List.map_flatten, (maximalRuns_runs lines).whole,
    (maximalRuns_runs others).whole]
  simp [Function.comp_def, lengths]

theorem map_eq_map_iff_zip {α β : Type} {f : α → β} {items others : List α} :
    items.map f = others.map f ↔
      items.length = others.length ∧ ∀ item other, (item, other) ∈ items.zip others → f item = f other := by
  rw [← List.forall₂_eq_eq_eq, List.forall₂_map_left_iff, List.forall₂_map_right_iff, List.forall₂_iff_zip]

theorem map_kept_eq_iff {lines others : List Line} (kinds : lines.map Line.kind = others.map Line.kind) :
    lines.map Line.kept = others.map Line.kept ↔
      (∀ line other, (line, other) ∈ lines.zip others → line.kind = .other → line.raw = other.raw) ∧
        ∀ line other, (line, other) ∈ lines.zip others → line.kind = .comment → line.body? = other.body? := by
  obtain ⟨lengths, alike⟩ := map_eq_map_iff_zip.mp kinds
  rw [map_eq_map_iff_zip]
  constructor
  · rintro ⟨_, kept⟩
    refine ⟨fun line other pair => ?_, fun line other pair => ?_⟩
    · exact ((Line.kept_eq_iff (alike line other pair)).mp (kept line other pair)).1
    · exact ((Line.kept_eq_iff (alike line other pair)).mp (kept line other pair)).2
  · rintro ⟨raws, bodies⟩
    refine ⟨lengths, fun line other pair => ?_⟩
    exact (Line.kept_eq_iff (alike line other pair)).mpr ⟨raws line other pair, bodies line other pair⟩

/-- What a writer that went on after a text has written when it was given the lines
of a body. -/
def writtenAfter (text : Text) (trailing : Trailing) (lines : List Line) : Text :=
  ((lines.foldl BlockWriter.push (.after text)).finish trailing).out

theorem writtenAfter_eq_foldRuns (text : Text) (trailing : Trailing) (lines : List Line) :
    writtenAfter text trailing lines = text ++ foldRuns trailing (runs lines) :=
  ((Tracks.after text).foldl_push lines).out_finish trailing

theorem writtenAfter_eq_lines (text : Text) (trailing : Trailing) (lines : List Line) :
    writtenAfter text trailing lines = text ++ (foldedLines trailing (runs lines)).flatMap Block.plainLine := by
  rw [writtenAfter_eq_foldRuns, foldRuns_eq_lines]

/-- Two bodies with lines of the same kinds become the same text if and only if
they have the same other lines, the same bodies of comment lines and in front of
corresponding runs of comment lines the same indent. Then their lines differ in
blanks at the two ends of comment lines and nowhere else. -/
theorem writtenAfter_eq_iff (text : Text) (trailing : Trailing) {lines others : List Line}
    (kinds : lines.map Line.kind = others.map Line.kind) (whole : ∀ line ∈ lines, '\n' ∉ line.raw)
    (whole' : ∀ line ∈ others, '\n' ∉ line.raw) :
    (runs lines).map (List.map Line.kind) = (runs others).map (List.map Line.kind) ∧
    (writtenAfter text trailing lines = writtenAfter text trailing others ↔
      (∀ line other, (line, other) ∈ lines.zip others → line.kind = .other → line.raw = other.raw) ∧
      (∀ line other, (line, other) ∈ lines.zip others → line.kind = .comment → line.body? = other.body?) ∧
      ∀ run run', (run, run') ∈ (runs lines).zip (runs others) → Run.isComment run = true →
        Run.indent run = Run.indent run') ∧
    (writtenAfter text trailing lines = writtenAfter text trailing others →
      ∀ line other, (line, other) ∈ lines.zip others → line.raw ≠ other.raw →
        ∃ body tail tail', line.raw = line.indent ++ "//".toList ++ body ++ tail ∧
          other.raw = other.indent ++ "//".toList ++ body ++ tail' ∧ ∀ c ∈ tail ++ tail', isBlank c = true) := by
  have cuts : (runs lines).map (List.map Line.kind) = (runs others).map (List.map Line.kind) := by
    rw [map_kind_runs, map_kind_runs, kinds]
  have same : writtenAfter text trailing lines = writtenAfter text trailing others ↔
      (∀ line other, (line, other) ∈ lines.zip others → line.kind = .other → line.raw = other.raw) ∧
      (∀ line other, (line, other) ∈ lines.zip others → line.kind = .comment → line.body? = other.body?) ∧
      ∀ run run', (run, run') ∈ (runs lines).zip (runs others) → Run.isComment run = true →
        Run.indent run = Run.indent run' := by
    rw [writtenAfter_eq_lines, writtenAfter_eq_lines, List.append_cancel_left_eq, Block.flatMap_plainLine_inj
      (lineFeed_not_mem_foldedLines whole) (lineFeed_not_mem_foldedLines whole'),
      foldedLines_eq_iff trailing cuts (uniform_runs lines) (uniform_runs others), map_runs_eq_iff kinds,
      map_kept_eq_iff kinds, and_assoc]
  refine ⟨cuts, same, ?_⟩
  intro equal line other pair differ
  obtain ⟨raws, bodies, _⟩ := same.mp equal
  cases found : line.body? with
  | none => exact absurd (raws line other pair (Line.kind_eq_other_iff.mpr found)) differ
  | some body =>
    have found' := bodies line other pair (Line.kind_eq_comment_iff.mpr ⟨body, found⟩)
    have shape := Line.raw_of_body found
    have shape' := Line.raw_of_body (found'.symm.trans found)
    have blank : ∀ c ∈ line.tail ++ other.tail, isBlank c = true :=
      List.forall_mem_append.mpr ⟨Line.isBlank_of_mem_tail, Line.isBlank_of_mem_tail⟩
    exact ⟨body, line.tail, other.tail, shape, shape', blank⟩

private def flushLines : List Line := numbered 3 ["  // a".toList, "// b".toList, "x".toList]

private def marginLines : List Line := numbered 3 ["  // a ".toList, "\t// b".toList, "x".toList]

private def shiftedLines : List Line := numbered 3 [" // a".toList, "// b".toList, "x".toList]

/-- The indent of a second comment line and a blank after the first are lost, the
indent of the first is not. -/
theorem writtenAfter_loses_margin :
    writtenAfter [] .close marginLines = writtenAfter [] .close flushLines ∧ marginLines ≠ flushLines ∧
      writtenAfter [] .close shiftedLines ≠ writtenAfter [] .close flushLines := by
  have margin := (@writtenAfter_eq_iff [] .close marginLines flushLines (by decide) (by decide) (by decide)).2.1
  have shifted := (@writtenAfter_eq_iff [] .close shiftedLines flushLines (by decide) (by decide) (by decide)).2.1
  have pairs : ∀ pair ∈ marginLines.zip flushLines, (pair.1.kind = .other → pair.1.raw = pair.2.raw) ∧
      (pair.1.kind = .comment → pair.1.body? = pair.2.body?) := by decide
  have indents : ∀ pair ∈ (runs marginLines).zip (runs flushLines), Run.isComment pair.1 = true →
      Run.indent pair.1 = Run.indent pair.2 := by decide
  refine ⟨margin.mpr ⟨?_, ?_, ?_⟩, by decide, ?_⟩
  · exact fun line other pair => (pairs (line, other) pair).1
  · exact fun line other pair => (pairs (line, other) pair).2
  · exact fun run run' pair => indents (run, run') pair
  · intro same
    have moved := (shifted.mp same).2.2 (shiftedLines.take 2) (flushLines.take 2) (by decide) (by decide)
    exact absurd moved (by decide)

end CommentFold
