import CommentFold.Proofs.BlockFolding

/-! Pushing line by line tells what the runs of the lines do. A block is told to be
opened by the first line of its run and to be closed by the line after it, so what is
told after some lines lacks nothing but the end of a block that is still open. -/

namespace CommentFold

namespace Run

theorem events_append {run : List Line} (nonempty : run ≠ []) (more : List Line) (ending : Nat → List Event) :
    events ending (run ++ more) = events ending run := by
  obtain ⟨comment, _, start⟩ := append_eq nonempty more
  simp only [events, comment, start]

/-- The end of a run is told last, if it leaves a block that may end. -/
theorem events_eq (ending : Nat → List Event) (run : List Line) :
    events ending run =
      events (fun _ => []) run ++ ((openBlock? run).map fun block => ending block.start).getD [] := by
  cases comment : isComment run <;> simp [events, openBlock?, comment]

end Run

/-- Every run but the last is told to its end. -/
theorem tellRuns_append (ending : Nat → List Event) (earlier : List (List Line)) {later : List (List Line)}
    (more : later ≠ []) :
    tellRuns ending (earlier ++ later) = tellRuns Trailing.close.ending earlier ++ tellRuns ending later := by
  induction earlier with
  | nil => rfl
  | cons run rest ih =>
    have step : tellRuns ending (run :: (rest ++ later)) =
        Run.events Trailing.close.ending run ++ tellRuns ending (rest ++ later) :=
      tellRuns.eq_3 _ _ _ (fun last => more (List.append_eq_nil_iff.mp last).2)
    rw [List.cons_append, step, ih]
    cases rest with
    | nil => simp [tellRuns]
    | cons next rest =>
      have first : tellRuns Trailing.close.ending (run :: next :: rest) =
          Run.events Trailing.close.ending run ++ tellRuns Trailing.close.ending (next :: rest) := rfl
      rw [first, List.append_assoc]

/-- What the end of the lines adds is about the block that they leave open. -/
theorem tellRuns_eq (ending : Nat → List Event) (cut : List (List Line)) :
    tellRuns ending cut = tellRuns (fun _ => []) cut ++
      ((cut.getLast?.bind Run.openBlock?).map fun block => ending block.start).getD [] := by
  rcases List.eq_nil_or_concat cut with rfl | ⟨earlier, run, rfl⟩
  · rfl
  · rw [List.concat_eq_append, tellRuns_append _ _ (List.cons_ne_nil run []),
      tellRuns_append _ _ (List.cons_ne_nil run []), List.append_assoc]
    have last := Run.events_eq ending run
    simpa [tellRuns] using last

/-- A writer that tracks its lines and has told what there is to tell about their runs,
but for the end of the last. -/
structure Tells (text : Text) (writer : BlockWriter) (lines : List Line) : Prop extends Tracks text writer lines where
  told : writer.events = tellRuns (fun _ => []) (runs lines)

namespace Tells

variable {text : Text} {writer : BlockWriter} {lines : List Line}

theorem after (text : Text) : Tells text (.after text) [] := ⟨.after text, rfl⟩

theorem events_finish (tells : Tells text writer lines) (trailing : Trailing) :
    (writer.finish trailing).events = tellRuns trailing.ending (runs lines) := by
  rw [tellRuns_eq, ← tells.told, ← tells.current]
  cases current : writer.current? <;> cases trailing <;>
    simp [BlockWriter.finish, current, Trailing.ending]

/-- A line that joins the last run has nothing to tell. -/
private theorem told_joining (tells : Tells text writer lines) {earlier : List (List Line)} {run : List Line}
    {line : Line} (cut : runs lines = earlier ++ [run]) (nonempty : run ≠ [])
    (same : ∀ other ∈ run, other.kind = line.kind) (joined : runs (lines ++ [line]) = earlier ++ [run ++ [line]]) :
    (writer.push line).events = tellRuns (fun _ => []) (runs (lines ++ [line])) := by
  have current : writer.current? = Run.openBlock? run := by simp [tells.current, cut]
  have comment := Run.isComment_iff nonempty same
  have quiet : (writer.push line).events = writer.events := by
    rw [BlockWriter.events_push, current]
    cases found : line.body? with
    | some body =>
      have marked := comment.mpr (Line.kind_eq_comment_iff.mpr ⟨body, found⟩)
      simp [Run.openBlock?, marked]
    | none =>
      have plain : ¬ Run.isComment run = true := by simp [comment, Line.kind_eq_other_iff.mpr found]
      simp [Run.openBlock?, plain]
  have told := tells.told
  rw [cut, tellRuns_append _ _ (List.cons_ne_nil run [])] at told
  rw [quiet, told, joined, tellRuns_append _ _ (List.cons_ne_nil _ [])]
  simp only [tellRuns, Run.events_append nonempty]

/-- A line that starts a run ends the one before, and its own has just begun. -/
private theorem told_starting (tells : Tells text writer lines) {line : Line}
    (new : ∀ run ∈ (runs lines).getLast?, ∀ other ∈ run, other.kind ≠ line.kind)
    (started : runs (lines ++ [line]) = runs lines ++ [[line]]) :
    (writer.push line).events = tellRuns (fun _ => []) (runs (lines ++ [line])) := by
  rw [started, tellRuns_append _ _ (List.cons_ne_nil [line] []), tellRuns_eq Trailing.close.ending, ← tells.told,
    ← tells.current, BlockWriter.events_push, List.append_assoc]
  cases found : line.body? with
  | some body =>
    have comment := Line.kind_eq_comment_iff.mpr ⟨body, found⟩
    simp [tells.idle_of_new new comment, tellRuns, Run.events, comment]
  | none =>
    have other := Line.kind_eq_other_iff.mpr found
    cases writer.current? <;> simp [tellRuns, Run.events, other, Trailing.ending]

theorem push (tells : Tells text writer lines) (line : Line) : Tells text (writer.push line) (lines ++ [line]) := by
  refine ⟨tells.toTracks.push line, ?_⟩
  rcases runs_concat_cases lines line with ⟨started, new⟩ | ⟨earlier, run, cut, nonempty, same, joined⟩
  · exact tells.told_starting new started
  · exact tells.told_joining cut nonempty same joined

theorem foldl_push (tells : Tells text writer lines) (more : List Line) :
    Tells text (more.foldl BlockWriter.push writer) (lines ++ more) := by
  induction more generalizing writer lines with
  | nil => simpa using tells
  | cons line rest ih => simpa using ih (tells.push line)

end Tells

end CommentFold
