import CommentFold.BlockWriter
import CommentFold.Proofs.MaximalRuns

/-! Folding line by line writes what folding run by run does. After any lines a
writer has written all their runs and left the last block open, and the block that
it remembers is the one which the last run opened. -/

namespace CommentFold

namespace Run

/-- The block that a run leaves open. -/
def openBlock? (run : List Line) : Option OpenBlock :=
  if isComment run then some ⟨indent run, start run⟩ else none

theorem isComment_iff {run : List Line} {line : Line} (nonempty : run ≠ [])
    (same : ∀ other ∈ run, other.kind = line.kind) : isComment run = true ↔ line.kind = .comment := by
  obtain ⟨first, rest, rfl⟩ := List.exists_cons_of_ne_nil nonempty
  simp [isComment, ← same first List.mem_cons_self]

@[simp] theorem isComment_singleton (line : Line) : isComment [line] = decide (line.kind = .comment) := rfl

@[simp] theorem indent_singleton (line : Line) : indent [line] = line.indent := rfl

@[simp] theorem start_singleton (line : Line) : start [line] = line.index := rfl

theorem isBlank_of_mem_indent {run : List Line} : ∀ c ∈ indent run, isBlank c = true := by
  cases run with
  | nil => simp [indent]
  | cons first rest => exact fun _ member => isBlank_of_mem_leadingBlanks member

/-- A run is of the kind and has the indent and the start of its first line, so
lines that join it change none of them. -/
theorem append_eq {run : List Line} (nonempty : run ≠ []) (more : List Line) :
    isComment (run ++ more) = isComment run ∧ indent (run ++ more) = indent run ∧
      start (run ++ more) = start run := by
  obtain ⟨first, rest, rfl⟩ := List.exists_cons_of_ne_nil nonempty
  exact ⟨rfl, rfl, rfl⟩

theorem openBlock?_append {run : List Line} (nonempty : run ≠ []) (more : List Line) :
    openBlock? (run ++ more) = openBlock? run := by
  obtain ⟨comment, indent, start⟩ := append_eq nonempty more
  simp only [openBlock?, comment, indent, start]

theorem openText_append {run : List Line} (nonempty : run ≠ []) (more : List Line) :
    openText (run ++ more) = openText run ++
      if isComment run then more.flatMap fun line => Block.commentLine (indent run) (line.body?.getD [])
      else more.flatMap fun line => Block.plainLine line.raw := by
  obtain ⟨comment, indent, _⟩ := append_eq nonempty more
  simp only [openText, comment, indent]
  split <;> simp

end Run

namespace MaximalRuns

variable {lines : List Line} {cut : List (List Line)} {run : List Line} {line : Line}

theorem mem (maximal : MaximalRuns lines cut) (member : run ∈ cut) (inside : line ∈ run) : line ∈ lines := by
  rw [← maximal.whole]
  exact List.mem_flatten_of_mem member inside

theorem isComment_iff (maximal : MaximalRuns lines cut) (member : run ∈ cut) (inside : line ∈ run) :
    Run.isComment run = true ↔ line.kind = .comment :=
  Run.isComment_iff (List.ne_nil_of_mem inside) fun other another =>
    maximal.uniform run member other another line inside

end MaximalRuns

theorem foldRuns_cons_ite (trailing : Trailing) (run : List Line) (later : List (List Line)) :
    foldRuns trailing (run :: later) =
      Run.openText run ++ (if later = [] ∧ trailing = .leave then [] else Run.closingText run) ++
        foldRuns trailing later := by
  cases later with
  | nil => cases trailing <;> simp [foldRuns]
  | cons next rest => simp [foldRuns]

/-- Only the last run of an input can stay open. -/
theorem foldRuns_append (trailing : Trailing) (earlier : List (List Line)) {later : List (List Line)}
    (more : later ≠ []) :
    foldRuns trailing (earlier ++ later) = foldRuns .close earlier ++ foldRuns trailing later := by
  induction earlier with
  | nil => rfl
  | cons run rest ih =>
    have step : foldRuns trailing (run :: (rest ++ later)) =
        Run.openText run ++ Run.closingText run ++ foldRuns trailing (rest ++ later) :=
      foldRuns.eq_3 _ _ _ (fun last => more (List.append_eq_nil_iff.mp last).2)
    rw [List.cons_append, step, ih]
    cases rest with
    | nil => simp [foldRuns]
    | cons next rest => simp [foldRuns]

/-- Leaving the last block open omits its closing marker and nothing else. -/
theorem foldRuns_close_concat (earlier : List (List Line)) (run : List Line) :
    foldRuns .close (earlier ++ [run]) = foldRuns .leave (earlier ++ [run]) ++ Run.closingText run := by
  simp [foldRuns_append, foldRuns]

theorem countBlocks_concat (cut : List (List Line)) (run : List Line) :
    (cut ++ [run]).countP Run.isComment = cut.countP Run.isComment + if Run.isComment run then 1 else 0 := by
  simp [List.countP_append, List.countP_cons]

/-- What a writer that went on after a text knows about the lines that were
pushed: their runs are written, and the last one may be open. -/
structure Tracks (text : Text) (writer : BlockWriter) (lines : List Line) : Prop where
  out : writer.out = text ++ foldRuns .leave (runs lines)
  current : writer.current? = (runs lines).getLast?.bind Run.openBlock?
  blocks : writer.blocks = countBlocks lines

namespace Tracks

variable {text : Text} {writer : BlockWriter} {lines : List Line}

theorem after (text : Text) : Tracks text (.after text) [] :=
  ⟨by simp [runs, foldRuns], rfl, rfl⟩

/-- The block that is open at the end is closed or left, as the folded runs are. -/
theorem out_finish (tracks : Tracks text writer lines) (trailing : Trailing) :
    (writer.finish trailing).out = text ++ foldRuns trailing (runs lines) := by
  rcases List.eq_nil_or_concat (runs lines) with empty | ⟨earlier, run, cut⟩
  · have idle : writer.current? = none := by simp [tracks.current, empty]
    simp [BlockWriter.finish, idle, tracks.out, empty, foldRuns]
  · rw [List.concat_eq_append] at cut
    have current : writer.current? = Run.openBlock? run := by simp [tracks.current, cut]
    have closed := foldRuns_close_concat earlier run
    cases comment : Run.isComment run with
    | true =>
      simp only [Run.openBlock?, comment, if_true] at current
      cases trailing with
      | leave => simp [BlockWriter.finish, current, tracks.out]
      | close =>
        simp only [Run.closingText, comment, if_true] at closed
        simp [BlockWriter.finish, current, tracks.out, cut, closed]
    | false =>
      have same : foldRuns trailing (earlier ++ [run]) = foldRuns .leave (earlier ++ [run]) := by
        cases trailing with
        | leave => rfl
        | close => simpa [Run.closingText, comment] using closed
      simp only [Run.openBlock?, comment] at current
      simpa [BlockWriter.finish, current, cut, same] using tracks.out

theorem blocks_finish (tracks : Tracks text writer lines) (trailing : Trailing) :
    (writer.finish trailing).blocks = countBlocks lines := by
  rw [← tracks.blocks]
  cases current : writer.current? <;> cases trailing <;>
    simp [BlockWriter.finish, current, BlockWriter.closeBlock, BlockWriter.tell, BlockWriter.write]

/-- A line that joins the last run adds its own text only. -/
private theorem push_joining (tracks : Tracks text writer lines) {earlier : List (List Line)} {run : List Line}
    {line : Line} (cut : runs lines = earlier ++ [run]) (nonempty : run ≠ [])
    (same : ∀ other ∈ run, other.kind = line.kind) (joined : runs (lines ++ [line]) = earlier ++ [run ++ [line]]) :
    Tracks text (writer.push line) (lines ++ [line]) := by
  have current : writer.current? = Run.openBlock? run := by simp [tracks.current, cut]
  have comment := Run.isComment_iff nonempty same
  have pushed : writer.push line = writer.write
      (if Run.isComment run then Block.commentLine (Run.indent run) (line.body?.getD [])
        else Block.plainLine line.raw) := by
    cases found : line.body? with
    | some body =>
      have marked := comment.mpr (Line.kind_eq_comment_iff.mpr ⟨body, found⟩)
      simp [BlockWriter.push, found, current, Run.openBlock?, marked]
    | none =>
      have plain : ¬ Run.isComment run = true := by simp [comment, Line.kind_eq_other_iff.mpr found]
      simp [BlockWriter.push, found, current, Run.openBlock?, plain]
  rw [pushed]
  constructor
  · rw [BlockWriter.out_write, tracks.out, cut, joined]
    simp [foldRuns_append, foldRuns, Run.openText_append nonempty]
  · rw [joined, BlockWriter.current?_write, current]
    simp [Run.openBlock?_append nonempty]
  · have counted := tracks.blocks
    simp only [countBlocks, cut, joined, countBlocks_concat, (Run.append_eq nonempty [line]).1] at counted ⊢
    exact counted

/-- No block is open in front of a comment line that starts a run. -/
theorem idle_of_new (tracks : Tracks text writer lines) {line : Line}
    (new : ∀ run ∈ (runs lines).getLast?, ∀ other ∈ run, other.kind ≠ line.kind) (comment : line.kind = .comment) :
    writer.current? = none := by
  rw [tracks.current, Option.bind_eq_none_iff]
  intro run last
  cases run with
  | nil => rfl
  | cons first rest =>
    have differ := new (first :: rest) last first List.mem_cons_self
    rw [comment] at differ
    simp [Run.openBlock?, Run.isComment, differ]

/-- A line that starts a run first closes the block that is open. -/
private theorem push_starting (tracks : Tracks text writer lines) {line : Line}
    (new : ∀ run ∈ (runs lines).getLast?, ∀ other ∈ run, other.kind ≠ line.kind)
    (started : runs (lines ++ [line]) = runs lines ++ [[line]]) :
    Tracks text (writer.push line) (lines ++ [line]) := by
  have closed := tracks.out_finish .close
  have counted := tracks.blocks_finish .close
  cases found : line.body? with
  | some body =>
    have comment := Line.kind_eq_comment_iff.mpr ⟨body, found⟩
    have idle := tracks.idle_of_new new comment
    have pushed : writer.push line = (writer.openBlock line).write (Block.commentLine line.indent body) := by
      simp [BlockWriter.push, found, idle]
    have same : writer.finish .close = writer := by simp [BlockWriter.finish, idle]
    rw [same] at closed counted
    rw [pushed]
    constructor
    · rw [started, foldRuns_append _ _ (List.cons_ne_nil _ _)]
      simp [closed, foldRuns, Run.openText, comment, found]
    · rw [started]
      simp [Run.openBlock?, comment, BlockWriter.openBlock]
    · simp only [countBlocks, started, countBlocks_concat] at counted ⊢
      simp [comment, BlockWriter.openBlock, counted]
  | none =>
    have other := Line.kind_eq_other_iff.mpr found
    have pushed : writer.push line = (writer.finish .close).write (Block.plainLine line.raw) := by
      cases current : writer.current? <;> simp [BlockWriter.push, BlockWriter.finish, found, current]
    have idle : (writer.finish .close).current? = none := by
      cases current : writer.current? <;> simp [BlockWriter.finish, current, BlockWriter.closeBlock]
    rw [pushed]
    constructor
    · rw [started, foldRuns_append _ _ (List.cons_ne_nil _ _)]
      simp [closed, foldRuns, Run.openText, other]
    · rw [started]
      simp [Run.openBlock?, other, idle]
    · simp only [countBlocks, started, countBlocks_concat] at counted ⊢
      simp [other, counted]

theorem push (tracks : Tracks text writer lines) (line : Line) :
    Tracks text (writer.push line) (lines ++ [line]) := by
  rcases runs_concat_cases lines line with ⟨started, new⟩ | ⟨earlier, run, cut, nonempty, same, joined⟩
  · exact tracks.push_starting new started
  · exact tracks.push_joining cut nonempty same joined

/-- From one line to any number of them. -/
theorem foldl_push (tracks : Tracks text writer lines) (more : List Line) :
    Tracks text (more.foldl BlockWriter.push writer) (lines ++ more) := by
  induction more generalizing writer lines with
  | nil => simpa using tracks
  | cons line rest ih => simpa using ih (tracks.push line)

end Tracks

end CommentFold
