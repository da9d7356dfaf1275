import CommentFold.Proofs.BlockFolding

/-! What can be said of a writer at any time, whatever lines it was given. It is in a
block exactly if the last line was a comment line, and the block is the one that the
first line of the last run has opened. It has counted the comment runs, and what it has
written is never taken back. So no push meets a block that is not there, or a comment
line without a body. -/

namespace CommentFold

namespace BlockWriter

variable (writer : BlockWriter) (line : Line)

/-- The greatest number that blocks are counted by. -/
def maxBlocks : Nat := UInt64.size - 1

/-- A block opened for a line, if there is a number left to count it by. -/
def open? : Option BlockWriter :=
  if writer.blocks < maxBlocks then some (writer.openBlock line) else none

/-- The body of a line added to the block that is open, if there are both. -/
def add? : Option BlockWriter := do
  let block ← writer.current?
  let body ← line.body?
  return writer.write (Block.commentLine block.indent body)

/-- A push in its parts, each of which may lack what it works on. -/
def pushInParts? : Option BlockWriter :=
  match line.kind with
  | .comment => do
    let opened ← if writer.current?.isSome then some writer else writer.open? line
    opened.add? line
  | .other => some ((writer.finish .close).write (Block.plainLine line.raw))

/-- Nothing is lacking to a push, as long as its blocks can be counted. -/
theorem pushInParts?_eq (counted : (writer.push line).blocks ≤ maxBlocks) :
    writer.pushInParts? line = some (writer.push line) := by
  cases found : line.body? with
  | none =>
    have other := Line.kind_eq_other_iff.mpr found
    cases current : writer.current? <;> simp [pushInParts?, push, finish, other, found, current]
  | some body =>
    have comment := Line.kind_eq_comment_iff.mpr ⟨body, found⟩
    cases current : writer.current? with
    | some block => simp [pushInParts?, add?, push, comment, found, current]
    | none =>
      have room : writer.blocks < maxBlocks := by
        simp only [push, found, current, blocks_write, openBlock] at counted
        exact counted
      simp [pushInParts?, open?, add?, push, openBlock, comment, found, current, room]

/-- Each push adds at least a line. -/
theorem exists_out_push : ∃ added, (writer.push line).out = writer.out ++ (added ++ ['\n']) := by
  rw [out_push]
  cases line.body? with
  | some body =>
    cases writer.current? with
    | some block => exact ⟨_, rfl⟩
    | none => exact ⟨_, congrArg _ (List.append_assoc _ _ _).symm⟩
  | none =>
    cases writer.current? with
    | some block => exact ⟨_, congrArg _ (List.append_assoc _ _ _).symm⟩
    | none => exact ⟨_, rfl⟩

theorem out_prefix_foldl (lines : List Line) : writer.out <+: (lines.foldl push writer).out := by
  induction lines generalizing writer with
  | nil => exact List.prefix_rfl
  | cons line rest ih =>
    obtain ⟨added, same⟩ := writer.exists_out_push line
    apply List.IsPrefix.trans _ (ih (writer.push line))
    rw [same]
    exact List.prefix_append _ _

theorem out_prefix_finish (trailing : Trailing) : writer.out <+: (writer.finish trailing).out := by
  unfold finish
  split <;> simp

end BlockWriter

namespace Tracks

variable {text : Text} {writer : BlockWriter} {lines : List Line}

theorem idle_of_nil (tracks : Tracks text writer []) : writer.current? = none := tracks.current

/-- Behind a comment line the block of the last run is open, and behind any other line none. -/
theorem current?_of_getLast? (tracks : Tracks text writer lines) {last : Line} (ends : lines.getLast? = some last) :
    ∃ earlier first rest, runs lines = earlier ++ [first :: rest] ∧ (∀ line ∈ first :: rest, line.kind = last.kind) ∧
      writer.current? = if last.kind = .comment then some ⟨first.indent, first.index⟩ else none := by
  obtain ⟨earlier, first, rest, cut, kinds⟩ := exists_last_run ends
  refine ⟨earlier, first, rest, cut, kinds, ?_⟩
  have comment : Run.isComment (first :: rest) = decide (last.kind = .comment) := by
    rw [← kinds first List.mem_cons_self]
    rfl
  rw [tracks.current, cut, List.getLast?_concat, Option.bind_some, Run.openBlock?, comment]
  split <;> simp_all [Run.indent, Run.start]

theorem isSome_current?_iff (tracks : Tracks text writer lines) :
    writer.current?.isSome = true ↔ ∃ last, lines.getLast? = some last ∧ last.kind = .comment := by
  cases ends : lines.getLast? with
  | none =>
    cases List.getLast?_eq_none_iff.mp ends
    simp [tracks.idle_of_nil]
  | some last =>
    obtain ⟨_, first, _, _, _, current⟩ := tracks.current?_of_getLast? ends
    by_cases comment : last.kind = .comment <;> simp [current, comment]

/-- The block that is open was opened by the first line of the last run, which is a comment run. -/
theorem of_current? (tracks : Tracks text writer lines) {block : OpenBlock} (opened : writer.current? = some block) :
    ∃ earlier first rest, runs lines = earlier ++ [first :: rest] ∧
      (∀ line ∈ first :: rest, line.kind = .comment) ∧ block = ⟨first.indent, first.index⟩ := by
  obtain ⟨last, ends, comment⟩ := tracks.isSome_current?_iff.mp (by rw [opened]; rfl)
  obtain ⟨earlier, first, rest, cut, kinds, current⟩ := tracks.current?_of_getLast? ends
  rw [comment] at kinds
  rw [opened, if_pos comment] at current
  exact ⟨earlier, first, rest, cut, kinds, Option.some.inj current⟩

end Tracks

namespace BlockWriter

/-- The states that a writer can reach, whatever lines it is given and whatever their
indexes are. It is in a block if and only if there was a line and the last one was a
comment line, and it remembers the indent, which is blank, and the index of the line that
the last run starts with. It counts the comment runs. What it has written stays, each push
adds a text that ends a line, and neither more pushes nor the end take anything back. No
push lacks a block to add to, or a body to add, or a number below 2 ^ 64 to count by. -/
theorem reached_by_pushes (text : Text) (lines : List Line) :
    let writer := lines.foldl push (.after text)
    (writer.current?.isSome = true ↔ ∃ last, lines.getLast? = some last ∧ last.kind = .comment) ∧
    (∃ cut, MaximalRuns lines cut ∧ writer.blocks = cut.countP Run.isComment ∧
      ∀ block, writer.current? = some block → ∃ earlier first rest, cut = earlier ++ [first :: rest] ∧
        (∀ line ∈ first :: rest, line.kind = .comment) ∧ block.indent = first.indent ∧ block.start = first.index ∧
        ∀ c ∈ block.indent, isBlank c = true) ∧
    text <+: writer.out ∧
    (∀ line, ∃ added, (writer.push line).out = writer.out ++ (added ++ ['\n'])) ∧
    (∀ (more : List Line) trailing, writer.out <+: ((more.foldl push writer).finish trailing).out) ∧
    ∀ line, countBlocks (lines ++ [line]) < UInt64.size → writer.pushInParts? line = some (writer.push line) := by
  intro writer
  have tracks : Tracks text writer lines := (Tracks.after text).foldl_push lines
  refine ⟨tracks.isSome_current?_iff, ⟨runs lines, maximalRuns_runs lines, tracks.blocks, ?_⟩, ?_,
    writer.exists_out_push, ?_, ?_⟩
  · intro block opened
    obtain ⟨earlier, first, rest, cut, comments, rfl⟩ := tracks.of_current? opened
    exact ⟨earlier, first, rest, cut, comments, rfl, rfl, fun c member => isBlank_of_mem_leadingBlanks member⟩
  · have start := (after text).out_prefix_foldl lines
    rwa [out_after] at start
  · intro more trailing
    exact (writer.out_prefix_foldl more).trans ((more.foldl push writer).out_prefix_finish trailing)
  · intro line few
    apply writer.pushInParts?_eq line
    rw [(tracks.push line).blocks]
    exact Nat.le_sub_one_of_lt few

end BlockWriter

end CommentFold
