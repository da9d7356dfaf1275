import CommentFold.Proofs.Refolding
import CommentFold.Proofs.Collisions
import Mathlib.Order.Monotone.Defs

/-! Where the lines of a file are after folding. A line moves down by one for each block
that was opened up to it and by one for each block that was closed before it. What
stands between the lines that moved are the markers of blocks. -/

namespace CommentFold

/-- Lines that stand in a row, of which the first has the given index. -/
def Consecutive (first : Nat) (lines : List Line) : Prop := lines.map Line.index = List.range' first lines.length

namespace Run

/-- The index of the last line of a run. -/
def stop (run : List Line) : Nat := (run.getLast?.map Line.index).getD 0

end Run

/-- How many blocks are opened up to the line with an index. -/
def openedUpTo (cut : List (List Line)) (index : Nat) : Nat :=
  cut.countP fun run => Run.isComment run ∧ Run.start run ≤ index

/-- How many blocks are over before the line with an index. -/
def closedBefore (cut : List (List Line)) (index : Nat) : Nat :=
  cut.countP fun run => Run.isComment run ∧ Run.stop run < index

/-- The index of a line in the text that is written. -/
def writtenIndex (cut : List (List Line)) (index : Nat) : Nat := index + openedUpTo cut index + closedBefore cut index

namespace Consecutive

variable {first : Nat} {lines more : List Line} {line : Line}

theorem numbered (first : Nat) (raws : List Text) : Consecutive first (numbered first raws) := by
  simp [Consecutive, CommentFold.numbered, Function.comp_def, List.zipIdx_map_snd]

theorem append_iff : Consecutive first (lines ++ more) ↔
    Consecutive first lines ∧ Consecutive (first + lines.length) more := by
  unfold Consecutive
  rw [List.map_append, List.length_append, ← List.range'_append_1]
  constructor
  · exact fun whole => List.append_inj whole (by simp)
  · rintro ⟨front, back⟩
    rw [front, back]

theorem index_of_getElem? (row : Consecutive first lines) {offset : Nat} (present : lines[offset]? = some line) :
    line.index = first + offset := by
  have found := congrArg (fun indexes => indexes[offset]?) row
  have inside := (List.getElem?_eq_some_iff.mp present).choose
  simp only [List.getElem?_map, present, Option.map_some, List.getElem?_range' inside, Nat.one_mul] at found
  exact Option.some.inj found

theorem start_eq (row : Consecutive first lines) (filled : lines ≠ []) : Run.start lines = first := by
  obtain ⟨line, rest, rfl⟩ := List.exists_cons_of_ne_nil filled
  have here : (line :: rest)[0]? = some line := rfl
  exact row.index_of_getElem? here

theorem stop_eq (row : Consecutive first lines) (filled : lines ≠ []) :
    Run.stop lines + 1 = first + lines.length := by
  obtain ⟨rest, line, same⟩ := (List.eq_nil_or_concat lines).resolve_left filled
  rw [List.concat_eq_append] at same
  subst same
  have last : line.index = first + rest.length := row.index_of_getElem? List.getElem?_concat_length
  simp only [Run.stop, List.getLast?_concat, Option.map_some, Option.getD_some, last, List.length_append,
    List.length_singleton]
  omega

end Consecutive

section

variable (cut more : List (List Line)) (run : List Line) (index : Nat)

theorem openedUpTo_append : openedUpTo (cut ++ more) index = openedUpTo cut index + openedUpTo more index :=
  List.countP_append

theorem closedBefore_append : closedBefore (cut ++ more) index = closedBefore cut index + closedBefore more index :=
  List.countP_append

theorem openedUpTo_cons :
    openedUpTo (run :: cut) index =
      openedUpTo cut index + if Run.isComment run ∧ Run.start run ≤ index then 1 else 0 := by
  simp [openedUpTo, List.countP_cons]

theorem closedBefore_cons :
    closedBefore (run :: cut) index =
      closedBefore cut index + if Run.isComment run ∧ Run.stop run < index then 1 else 0 := by
  simp [closedBefore, List.countP_cons]

variable {index} {later : Nat}

theorem openedUpTo_mono (before : index ≤ later) : openedUpTo cut index ≤ openedUpTo cut later := by
  refine List.countP_mono_left fun run _ counted => ?_
  simp only [decide_eq_true_eq] at counted ⊢
  exact ⟨counted.1, counted.2.trans before⟩

theorem closedBefore_mono (before : index ≤ later) : closedBefore cut index ≤ closedBefore cut later := by
  refine List.countP_mono_left fun run _ counted => ?_
  simp only [decide_eq_true_eq] at counted ⊢
  exact ⟨counted.1, counted.2.trans_le before⟩

theorem writtenIndex_strictMono : StrictMono (writtenIndex cut) := by
  intro index later before
  have starts := openedUpTo_mono cut before.le
  have ends := closedBefore_mono cut before.le
  unfold writtenIndex
  omega

end

section

variable {cut : List (List Line)} {run : List Line} {index : Nat}

/-- In front of the first line of a block there is room for its opening marker. -/
theorem writtenIndex_before_start (member : run ∈ cut) (comment : Run.isComment run = true)
    (before : index < Run.start run) : writtenIndex cut index + 2 ≤ writtenIndex cut (Run.start run) := by
  obtain ⟨earlier, later, rfl⟩ := List.append_of_mem member
  have ends := closedBefore_mono (earlier ++ run :: later) before.le
  have starts := openedUpTo_mono earlier before.le
  have starts' := openedUpTo_mono later before.le
  simp only [writtenIndex, openedUpTo_append, openedUpTo_cons, comment, Nat.le_refl, and_self, if_true,
    Nat.not_le.mpr before, and_false, if_false]
  omega

/-- Behind the last line of a block there is room for its closing marker. -/
theorem writtenIndex_after_stop (member : run ∈ cut) (comment : Run.isComment run = true)
    (after : Run.stop run < index) : writtenIndex cut (Run.stop run) + 2 ≤ writtenIndex cut index := by
  obtain ⟨earlier, later, rfl⟩ := List.append_of_mem member
  have starts := openedUpTo_mono (earlier ++ run :: later) after.le
  have ends := closedBefore_mono earlier after.le
  have ends' := closedBefore_mono later after.le
  simp only [writtenIndex, closedBefore_append, closedBefore_cons, comment, after, and_self, if_true,
    Nat.lt_irrefl, and_false, if_false]
  omega

end

section

variable {first : Nat} {earlier later : List (List Line)} {run : List Line}

/-- Of runs that end before a line all blocks are opened and closed. -/
theorem counts_of_earlier (row : Consecutive first earlier.flatten) (filled : [] ∉ earlier) {index : Nat}
    (after : first + earlier.flatten.length ≤ index) :
    openedUpTo earlier index = earlier.countP Run.isComment ∧
      closedBefore earlier index = earlier.countP Run.isComment := by
  induction earlier generalizing first with
  | nil => exact ⟨rfl, rfl⟩
  | cons run rest ih =>
    simp only [List.mem_cons, not_or] at filled
    rw [List.flatten_cons, Consecutive.append_iff] at row
    rw [List.flatten_cons, List.length_append] at after
    have starts := row.1.start_eq (Ne.symm filled.1)
    have stops := row.1.stop_eq (Ne.symm filled.1)
    obtain ⟨opens, closes⟩ := ih row.2 filled.2 (by omega)
    have started : Run.start run ≤ index := by omega
    have stopped : Run.stop run < index := by omega
    simp only [openedUpTo_cons, closedBefore_cons, opens, closes, started, stopped, and_true, List.countP_cons]

/-- Of runs that start behind a line no block is opened. -/
theorem counts_of_later (row : Consecutive first later.flatten) (filled : [] ∉ later) {index : Nat}
    (before : index < first) : openedUpTo later index = 0 ∧ closedBefore later index = 0 := by
  induction later generalizing first with
  | nil => exact ⟨rfl, rfl⟩
  | cons run rest ih =>
    simp only [List.mem_cons, not_or] at filled
    rw [List.flatten_cons, Consecutive.append_iff] at row
    have starts := row.1.start_eq (Ne.symm filled.1)
    have stops := row.1.stop_eq (Ne.symm filled.1)
    have some_line := List.length_pos_iff.mpr (Ne.symm filled.1)
    obtain ⟨opens, closes⟩ := ih row.2 filled.2 (by omega)
    have waits : ¬ Run.start run ≤ index := by omega
    have waits' : ¬ Run.stop run < index := by omega
    simp [openedUpTo_cons, closedBefore_cons, opens, closes, waits, waits']

theorem length_foldedLines_close (cut : List (List Line)) :
    (foldedLines .close cut).length = cut.flatten.length + 2 * cut.countP Run.isComment := by
  induction cut with
  | nil => rfl
  | cons run rest ih =>
    rw [foldedLines_cons]
    cases comment : Run.isComment run <;>
      simp [Run.openLines, Run.closingLines, comment, ih] <;> omega

/-- A line of a run is written behind all earlier runs and the opening marker of its own. -/
theorem writtenIndex_eq (row : Consecutive first (earlier ++ run :: later).flatten)
    (filled : [] ∉ earlier ++ run :: later) {offset : Nat} (inside : offset < run.length) :
    writtenIndex (earlier ++ run :: later) (first + earlier.flatten.length + offset) =
      first + (foldedLines .close earlier).length + ((if Run.isComment run then 1 else 0) + offset) := by
  simp only [List.mem_append, List.mem_cons, not_or] at filled
  obtain ⟨front, here, back⟩ := filled
  simp only [List.flatten_append, List.flatten_cons, Consecutive.append_iff] at row
  have starts := row.2.1.start_eq (Ne.symm here)
  have stops := row.2.1.stop_eq (Ne.symm here)
  obtain ⟨opens, closes⟩ := counts_of_earlier row.1 front (Nat.le_add_right _ offset)
  obtain ⟨opens', closes'⟩ :=
    counts_of_later row.2.2 back (show first + earlier.flatten.length + offset < _ by omega)
  have started : Run.start run ≤ first + earlier.flatten.length + offset := by omega
  have going : ¬ Run.stop run < first + earlier.flatten.length + offset := by omega
  simp only [writtenIndex, openedUpTo_append, openedUpTo_cons, closedBefore_append, closedBefore_cons, opens, closes,
    opens', closes', started, going, length_foldedLines_close, and_true, and_false, if_false]
  omega

/-- The markers that a run ends with, if any. -/
def endLines (trailing : Trailing) (run : List Line) (later : List (List Line)) : List Text :=
  if later = [] ∧ trailing = .leave then [] else Run.closingLines run

theorem foldedLines_split (trailing : Trailing) (earlier : List (List Line)) (run : List Line)
    (later : List (List Line)) :
    foldedLines trailing (earlier ++ run :: later) =
      foldedLines .close earlier ++ (Run.openLines run ++ endLines trailing run later ++ foldedLines trailing later) := by
  induction earlier with
  | nil => simp [foldedLines, foldedLines_cons, endLines]
  | cons other rest ih =>
    have more : rest ++ run :: later ≠ [] := by simp
    rw [List.cons_append, foldedLines_cons, ih, foldedLines_cons]
    simp [more]

namespace Run

theorem length_openLines (run : List Line) :
    (openLines run).length = (if isComment run then 1 else 0) + run.length := by
  unfold openLines
  split <;> simp [Nat.add_comm]

theorem getElem?_openLines {run : List Line} {offset : Nat} {line : Line} (present : run[offset]? = some line) :
    (openLines run)[(if isComment run then 1 else 0) + offset]? =
      some (if isComment run then indent run ++ " *".toList ++ line.body?.getD [] else line.raw) := by
  unfold openLines
  split
  · rw [Nat.add_comm, List.getElem?_cons_succ, List.getElem?_map, present]
    rfl
  · rw [Nat.zero_add, List.getElem?_map, present]
    rfl

end Run

/-- Every line that is written belongs to one run. -/
theorem exists_run_of_lt {trailing : Trailing} {cut : List (List Line)} {position : Nat}
    (inside : position < (foldedLines trailing cut).length) :
    ∃ earlier run later place, cut = earlier ++ run :: later ∧
      place < (Run.openLines run ++ endLines trailing run later).length ∧
      position = (foldedLines .close earlier).length + place := by
  induction cut generalizing position with
  | nil => cases inside
  | cons run rest ih =>
    rw [foldedLines_cons, ← List.append_assoc, List.length_append] at inside
    by_cases here : position < (Run.openLines run ++ endLines trailing run rest).length
    · exact ⟨[], run, rest, position, rfl, here, by simp [foldedLines]⟩
    · obtain ⟨offset, rfl⟩ := Nat.exists_eq_add_of_le (Nat.not_lt.mp here)
      have behind : offset < (foldedLines trailing rest).length := Nat.lt_of_add_lt_add_left inside
      obtain ⟨earlier, other, later, place, rfl, within, rfl⟩ := ih behind
      have ended : endLines trailing run (earlier ++ other :: later) = Run.closingLines run := by simp [endLines]
      refine ⟨run :: earlier, other, later, place, rfl, within, ?_⟩
      rw [foldedLines_cons, ended]
      simp [Nat.add_assoc]

end

/-- How the lines of a file stand in the lines that folding makes of it: in their order
and each as its kind demands, with the markers of blocks between them and nothing else. -/
structure LineMap (trailing : Trailing) (lines : List Text) (cut : List (List Line)) (out : List Text) : Prop where
  ordered : StrictMono (writtenIndex cut)
  banner : ∀ index < 3, ∀ raw, lines[index]? = some raw → out[writtenIndex cut index]? = some raw
  other : ∀ line ∈ numbered 3 (lines.drop 3), line.kind = .other → out[writtenIndex cut line.index]? = some line.raw
  comment : ∀ run ∈ cut, ∀ line ∈ run, ∀ body, line.body? = some body →
    out[writtenIndex cut line.index]? = some (Run.indent run ++ " *".toList ++ body)
  opening : ∀ run ∈ cut, Run.isComment run = true →
    ∃ position, position + 1 = writtenIndex cut (Run.start run) ∧
      out[position]? = some (Run.indent run ++ "/**".toList)
  /-- A block that reaches the end is closed only if it is not to be left. -/
  closing : ∀ run ∈ cut, Run.isComment run = true → (trailing = .close ∨ Run.stop run + 1 < lines.length) →
    out[writtenIndex cut (Run.stop run) + 1]? = some (Run.indent run ++ " */".toList)
  inserted : ∀ position < out.length, (∀ index < lines.length, writtenIndex cut index ≠ position) ↔
    ∃ run ∈ cut, Run.isComment run = true ∧
      (position + 1 = writtenIndex cut (Run.start run) ∨
        (trailing = .close ∨ Run.stop run + 1 < lines.length) ∧ position = writtenIndex cut (Run.stop run) + 1)

/-- The banner does not move. -/
theorem writtenIndex_of_lt (lines : List Text) {index : Nat} (early : index < 3) :
    writtenIndex (runs (numbered 3 (lines.drop 3))) index = index := by
  have maximal := maximalRuns_runs (numbered 3 (lines.drop 3))
  have row : Consecutive 3 (runs (numbered 3 (lines.drop 3))).flatten := by
    rw [maximal.whole]
    exact .numbered 3 (lines.drop 3)
  obtain ⟨opens, closes⟩ := counts_of_later row maximal.nonempty early
  rw [writtenIndex, opens, closes]
  rfl

section

variable (trailing : Trailing) {lines : List Text} (enough : 3 ≤ lines.length)
  {earlier later : List (List Line)} {run : List Line}
include enough

/-- The part of the written lines that a run becomes, and where its lines stand in it. -/
theorem writtenLines_part (split : runs (numbered 3 (lines.drop 3)) = earlier ++ run :: later) :
    run ≠ [] ∧
    (∀ offset line, run[offset]? = some line → line.index = Run.start run + offset ∧
      writtenIndex (runs (numbered 3 (lines.drop 3))) line.index =
        3 + (foldedLines .close earlier).length + ((if Run.isComment run then 1 else 0) + offset)) ∧
    (∀ place, (writtenLines trailing lines)[3 + (foldedLines .close earlier).length + place]? =
      (Run.openLines run ++ endLines trailing run later ++ foldedLines trailing later)[place]?) ∧
    Run.stop run + 1 = Run.start run + run.length ∧
    Run.stop run + 1 + later.flatten.length = lines.length ∧ (later ≠ [] ↔ later.flatten.length ≠ 0) := by
  have maximal := split ▸ maximalRuns_runs (numbered 3 (lines.drop 3))
  have row : Consecutive 3 (earlier ++ run :: later).flatten := maximal.whole ▸ Consecutive.numbered 3 (lines.drop 3)
  have filled := maximal.nonempty
  have parts := row
  simp only [List.flatten_append, List.flatten_cons, Consecutive.append_iff] at parts
  have here : run ≠ [] := fun empty => filled (by simp [empty])
  have starts := parts.2.1.start_eq here
  have stops := parts.2.1.stop_eq here
  have size : (earlier ++ run :: later).flatten.length = lines.length - 3 := by
    rw [maximal.whole]
    simp [numbered]
  simp only [List.flatten_append, List.flatten_cons, List.length_append] at size
  refine ⟨here, ?_, ?_, by omega, by omega, ?_⟩
  · intro offset line present
    have index := parts.2.1.index_of_getElem? present
    refine ⟨by omega, ?_⟩
    rw [split, index]
    exact writtenIndex_eq row filled (List.getElem?_eq_some_iff.mp present).choose
  · intro place
    have front : (lines.take 3).length = 3 := by simp [enough]
    rw [writtenLines, split, foldedLines_split, Nat.add_assoc, List.getElem?_append_right (by omega), front,
      Nat.add_sub_cancel_left, List.getElem?_append_right (by omega), Nat.add_sub_cancel_left]
  · cases later with
    | nil => simp
    | cons next rest =>
      have more : next ≠ [] := fun empty => filled (by simp [empty])
      simp [more]

/-- Every line of a run is written, and where its index says. -/
theorem getElem?_writtenLines (member : run ∈ runs (numbered 3 (lines.drop 3))) {line : Line} (inside : line ∈ run) :
    line.index < lines.length ∧
      (writtenLines trailing lines)[writtenIndex (runs (numbered 3 (lines.drop 3))) line.index]? =
        some (if Run.isComment run then Run.indent run ++ " *".toList ++ line.body?.getD [] else line.raw) := by
  obtain ⟨earlier, later, split⟩ := List.append_of_mem member
  obtain ⟨offset, present⟩ := List.mem_iff_getElem?.mp inside
  obtain ⟨_, line_at, part, stops, total, _⟩ := writtenLines_part trailing enough split
  obtain ⟨index, moved⟩ := line_at offset line present
  have within := (List.getElem?_eq_some_iff.mp present).choose
  refine ⟨by omega, ?_⟩
  rw [moved, part, List.append_assoc, List.getElem?_append_left (by rw [Run.length_openLines]; omega)]
  exact Run.getElem?_openLines present

end

section

variable (trailing : Trailing) {lines : List Text} (enough : 3 ≤ lines.length) {run : List Line}
  (member : run ∈ runs (numbered 3 (lines.drop 3))) (comment : Run.isComment run = true)
include enough member comment

theorem getElem?_openingMarker : ∃ position,
    position + 1 = writtenIndex (runs (numbered 3 (lines.drop 3))) (Run.start run) ∧
      (writtenLines trailing lines)[position]? = some (Run.indent run ++ "/**".toList) := by
  obtain ⟨earlier, later, split⟩ := List.append_of_mem member
  obtain ⟨filled, line_at, part, _⟩ := writtenLines_part trailing enough split
  obtain ⟨line, rest, rfl⟩ := List.exists_cons_of_ne_nil filled
  obtain ⟨index, moved⟩ := line_at 0 line rfl
  rw [index, comment] at moved
  refine ⟨_, moved.symm, ?_⟩
  exact (part 0).trans (by simp [Run.openLines, comment])

theorem getElem?_closingMarker (closes : trailing = .close ∨ Run.stop run + 1 < lines.length) :
    (writtenLines trailing lines)[writtenIndex (runs (numbered 3 (lines.drop 3))) (Run.stop run) + 1]? =
      some (Run.indent run ++ " */".toList) := by
  obtain ⟨earlier, later, split⟩ := List.append_of_mem member
  obtain ⟨filled, line_at, part, stops, total, more⟩ := writtenLines_part trailing enough split
  have size := List.length_pos_iff.mpr filled
  obtain ⟨index, moved⟩ := line_at (run.length - 1) _ (List.getElem?_eq_getElem (by omega))
  have last : run[run.length - 1].index = Run.stop run := by omega
  have ended : ¬ (later = [] ∧ trailing = .leave) := by
    rintro ⟨rfl, rfl⟩
    simp at closes total
    omega
  rw [last, comment, if_pos rfl] at moved
  have place : writtenIndex (runs (numbered 3 (lines.drop 3))) (Run.stop run) + 1 =
      3 + (foldedLines .close earlier).length + (Run.openLines run).length := by
    rw [moved, Run.length_openLines, comment, if_pos rfl]
    omega
  rw [place, part, List.append_assoc, List.getElem?_append_right (Nat.le_refl _), Nat.sub_self, endLines,
    if_neg ended]
  simp [Run.closingLines, comment]

end

section

variable (trailing : Trailing) {lines : List Text} (enough : 3 ≤ lines.length)
include enough

/-- A written line that no line moved to is a marker. -/
theorem marker_of_inserted {position : Nat} (inside : position < (writtenLines trailing lines).length)
    (outside : ∀ index < lines.length, writtenIndex (runs (numbered 3 (lines.drop 3))) index ≠ position) :
    ∃ run ∈ runs (numbered 3 (lines.drop 3)), Run.isComment run = true ∧
      (position + 1 = writtenIndex (runs (numbered 3 (lines.drop 3))) (Run.start run) ∨
        (trailing = .close ∨ Run.stop run + 1 < lines.length) ∧
          position = writtenIndex (runs (numbered 3 (lines.drop 3))) (Run.stop run) + 1) := by
  have late : ¬ position < 3 := fun early => outside position (by omega) (writtenIndex_of_lt lines early)
  have front : (lines.take 3).length = 3 := by simp [enough]
  have behind : position - 3 < (foldedLines trailing (runs (numbered 3 (lines.drop 3)))).length := by
    rw [writtenLines, List.length_append, front] at inside
    omega
  obtain ⟨earlier, run, later, place, split, within, same⟩ := exists_run_of_lt behind
  obtain ⟨filled, line_at, _, stops, total, more⟩ := writtenLines_part trailing enough split
  have size := List.length_pos_iff.mpr filled
  refine ⟨run, by simp [split], ?_⟩
  -- Every place in the part of the run but those of its markers is one of its lines.
  have moved : ∀ offset < run.length, place ≠ (if Run.isComment run then 1 else 0) + offset := by
    intro offset small equal
    obtain ⟨index, there⟩ := line_at offset _ (List.getElem?_eq_getElem small)
    exact outside run[offset].index (by omega) (by omega)
  rw [List.length_append, Run.length_openLines] at within
  by_cases comment : Run.isComment run = true
  · simp only [comment, if_true] at moved within line_at
    refine ⟨comment, ?_⟩
    by_cases first : place = 0
    · left
      obtain ⟨index, there⟩ := line_at 0 _ (List.getElem?_eq_getElem size)
      rw [index, Nat.add_zero] at there
      omega
    · right
      have last : run.length < place := by
        by_contra low
        exact moved (place - 1) (by omega) (by omega)
      obtain ⟨index, there⟩ := line_at (run.length - 1) _ (List.getElem?_eq_getElem (by omega))
      have ending : run[run.length - 1].index = Run.stop run := by omega
      rw [ending] at there
      unfold endLines at within
      split at within
      · simp at within
        omega
      next ended =>
        simp only [Run.closingLines, comment, if_true, List.length_singleton] at within
        refine ⟨?_, by omega⟩
        cases trailing with
        | close => exact .inl rfl
        | leave =>
          have more' := more.mp fun empty => ended ⟨empty, rfl⟩
          exact .inr (by omega)
  · have none : (endLines trailing run later).length = 0 := by simp [endLines, Run.closingLines, comment]
    simp only [comment, Bool.false_eq_true, if_false] at moved within
    exact absurd (Nat.zero_add place).symm (moved place (by omega))

theorem lineMap_writtenLines :
    LineMap trailing lines (runs (numbered 3 (lines.drop 3))) (writtenLines trailing lines) where
  ordered := writtenIndex_strictMono _
  banner := by
    intro index early raw present
    rw [writtenIndex_of_lt lines early, writtenLines, List.getElem?_append_left (by rw [List.length_take]; omega),
      List.getElem?_take_of_lt early, present]
  other := by
    intro line member kind
    have maximal := maximalRuns_runs (numbered 3 (lines.drop 3))
    rw [← maximal.whole] at member
    obtain ⟨run, held, inside⟩ := List.mem_flatten.mp member
    have plain : Run.isComment run = false := by simp [← Bool.not_eq_true, maximal.isComment_iff held inside, kind]
    simpa only [plain, Bool.false_eq_true, if_false] using (getElem?_writtenLines trailing enough held inside).2
  comment := by
    intro run member line inside body found
    have marked := ((maximalRuns_runs _).isComment_iff member inside).mpr (Line.kind_eq_comment_iff.mpr ⟨body, found⟩)
    simpa only [marked, if_true, found, Option.getD_some] using (getElem?_writtenLines trailing enough member inside).2
  opening := fun run member comment => getElem?_openingMarker trailing enough member comment
  closing := fun run member comment closes => getElem?_closingMarker trailing enough member comment closes
  inserted := by
    intro position inside
    have moves := writtenIndex_strictMono (runs (numbered 3 (lines.drop 3)))
    refine ⟨marker_of_inserted trailing enough inside, ?_⟩
    rintro ⟨run, member, comment, above | ⟨_, below⟩⟩ index _ same
    · have before : index < Run.start run := moves.lt_iff_lt.mp (by omega)
      have room := writtenIndex_before_start member comment before
      omega
    · have after : Run.stop run < index := moves.lt_iff_lt.mp (by omega)
      have room := writtenIndex_after_stop member comment after
      omega

end

/-- Whether the last line is a comment line of a block that is left without its closing marker. -/
def leavesOpen (trailing : Trailing) (lines : List Text) : Bool :=
  trailing = .leave && 3 < lines.length && lines.getLast?.any fun last => Line.kind ⟨lines.length - 1, last⟩ = .comment

theorem any_isComment_getLast?_runs (lines : List Line) :
    (runs lines).getLast?.any Run.isComment = lines.getLast?.any fun line => line.kind = .comment := by
  cases ends : lines.getLast? with
  | none =>
    cases List.getLast?_eq_none_iff.mp ends
    rfl
  | some last =>
    obtain ⟨earlier, first, rest, cut, kinds⟩ := exists_last_run ends
    rw [cut, List.getLast?_concat, Option.any_some, Option.any_some, ← kinds first List.mem_cons_self]
    rfl

/-- Whether a block is left open shows in the last line after the banner. -/
theorem leavesOpen_eq_getLast? (trailing : Trailing) (lines : List Text) :
    leavesOpen trailing lines =
      (decide (trailing = .leave) &&
        (numbered 3 (lines.drop 3)).getLast?.any fun line => line.kind = .comment) := by
  have raws := congrArg List.getLast? (map_raw_numbered 3 (lines.drop 3))
  rw [List.getLast?_map, List.getLast?_drop] at raws
  have kinds := congrArg (Option.any fun raw => Line.kind ⟨lines.length - 1, raw⟩ = .comment) raws
  rw [Option.any_map] at kinds
  rw [leavesOpen, Bool.and_assoc]
  refine congrArg _ (Eq.trans ?_ kinds.symm)
  by_cases more : 3 < lines.length
  · simp [more, Nat.not_le.mpr more]
  · simp [more, Nat.not_lt.mp more]

theorem leavesOpen_eq (trailing : Trailing) (lines : List Text) :
    leavesOpen trailing lines =
      (decide (trailing = .leave) && (runs (numbered 3 (lines.drop 3))).getLast?.any Run.isComment) := by
  rw [any_isComment_getLast?_runs, leavesOpen_eq_getLast?]

theorem length_foldedLines (trailing : Trailing) (cut : List (List Line)) :
    (foldedLines trailing cut).length + (decide (trailing = .leave) && cut.getLast?.any Run.isComment).toNat =
      cut.flatten.length + 2 * cut.countP Run.isComment := by
  rcases List.eq_nil_or_concat cut with rfl | ⟨earlier, run, rfl⟩
  · simp [foldedLines]
  · rw [List.concat_eq_append, foldedLines_split]
    have front := length_foldedLines_close earlier
    cases comment : Run.isComment run <;> cases trailing <;>
      simp [front, Run.length_openLines, endLines, Run.closingLines, foldedLines, comment] <;> omega

theorem splitOn_flatMap_plainLine {raws : List Text} (whole : ∀ raw ∈ raws, '\n' ∉ raw) :
    (raws.flatMap Block.plainLine).splitOn '\n' = raws ++ [[]] := by
  induction raws with
  | nil => rfl
  | cons raw rest ih =>
    obtain ⟨here, later⟩ := List.forall_mem_cons.mp whole
    have shape : (raw :: rest).flatMap Block.plainLine = raw ++ '\n' :: rest.flatMap Block.plainLine := by
      simp [Block.plainLine]
    rw [shape, splitOn_cons here, ih later, List.cons_append]

namespace Document

/-- Where the lines of a file are found after folding. The text has a line for each
line of the file and one for each marker, of which the last block may lack one. Every
line of the file stands in it, below all lines that were above it: one of another kind
as it was, a comment line with the indent of its run. The other lines of the text are
the opening marker directly above each block and the closing marker directly below it. -/
theorem fold_line_map {path : Path} {trailing : Trailing} {lines : List Text} {document : Document}
    (whole : ∀ raw ∈ lines, '\n' ∉ raw) (folded : (fold path trailing (lines.map .ok)).result = .ok document) :
    let body := numbered 3 (lines.drop 3)
    MaximalRuns body (runs body) ∧ document.contents.getLast? = some '\n' ∧
      ∃ out, document.contents.splitOn '\n' = out ++ [[]] ∧
        out.length + (leavesOpen trailing lines).toNat = lines.length + 2 * document.blocks ∧
        LineMap trailing lines (runs body) out := by
  intro body
  obtain ⟨contents, starts⟩ := fold_contents folded
  have enough := three_le_length starts
  have blocks : document.blocks = (runs (numbered 3 (lines.drop 3))).countP Run.isComment := by
    have known := fold_of_starts path trailing starts
    rw [folded] at known
    exact congrArg Document.blocks (Except.ok.inj known)
  have size : (writtenLines trailing lines).length + (leavesOpen trailing lines).toNat =
      lines.length + 2 * document.blocks := by
    have body_size := length_foldedLines trailing (runs (numbered 3 (lines.drop 3)))
    rw [(maximalRuns_runs _).whole, ← leavesOpen_eq, numbered, List.length_map, List.length_zipIdx, List.length_drop,
      ← numbered] at body_size
    rw [blocks, writtenLines, List.length_append, List.length_take]
    omega
  refine ⟨maximalRuns_runs body, ?_, writtenLines trailing lines, ?_, size, lineMap_writtenLines trailing enough⟩
  · rcases List.eq_nil_or_concat (writtenLines trailing lines) with empty | ⟨above, last, cut⟩
    · rw [empty, List.length_nil] at size
      have one := Bool.toNat_le (leavesOpen trailing lines)
      omega
    · rw [contents, cut, List.concat_eq_append, List.flatMap_append, List.flatMap_singleton]
      simp [Block.plainLine]
  · rw [contents]
    exact splitOn_flatMap_plainLine (lineFeed_not_mem_writtenLines trailing whole)

private def mappedLines : List Text := Banner.required ++ ["  // a".toList, "//b".toList, "x".toList, "// c".toList]

private def mappedDocument : Document :=
  ⟨(Banner.required ++ ["  /**".toList, "   * a".toList, "   *b".toList, "   */".toList, "x".toList, "/**".toList,
    " * c".toList]).flatMap Block.plainLine, 7, 2⟩

private def mappedRuns : List (List Line) :=
  [[⟨3, "  // a".toList⟩, ⟨4, "//b".toList⟩], [⟨5, "x".toList⟩], [⟨6, "// c".toList⟩]]

/-- Of the ten lines the sixth is the second comment, below an opening marker, and the
ninth is the opening marker of a block that nothing closes. -/
theorem fold_line_map_open_block :
    (∀ raw ∈ mappedLines, '\n' ∉ raw) ∧
      (fold ⟨[]⟩ .leave (mappedLines.map .ok)).result = .ok mappedDocument ∧
      ∃ out, mappedDocument.contents.splitOn '\n' = out ++ [[]] ∧ out.length = 10 ∧
        out[5]? = some "   *b".toList ∧ out[8]? = some "/**".toList ∧
        ∀ index < 7, writtenIndex mappedRuns index ≠ 8 := by
  have whole : ∀ raw ∈ mappedLines, '\n' ∉ raw := required_whole (by decide)
  have folded : (fold ⟨[]⟩ .leave (mappedLines.map .ok)).result = .ok mappedDocument := by decide +kernel
  obtain ⟨cut, _, out, split, size, map⟩ := fold_line_map whole folded
  have same : runs (numbered 3 (mappedLines.drop 3)) = mappedRuns := by decide +kernel
  rw [same] at map
  have open_end : leavesOpen .leave mappedLines = true := by decide +kernel
  rw [open_end] at size
  have length : out.length = 10 := Nat.add_right_cancel size
  have second := map.comment [⟨3, "  // a".toList⟩, ⟨4, "//b".toList⟩] (by decide) ⟨4, "//b".toList⟩ (by decide)
    "b".toList (by decide)
  obtain ⟨position, below, opening⟩ := map.opening [⟨6, "// c".toList⟩] (by decide) (by decide)
  have there : position = 8 := by
    have place : writtenIndex mappedRuns 6 = 9 := by decide
    exact Nat.succ.inj (below.trans place)
  rw [there] at opening
  refine ⟨whole, folded, out, split, length, second, opening, ?_⟩
  exact (map.inserted 8 (by omega)).mpr ⟨[⟨6, "// c".toList⟩], by decide, by decide, .inl (by decide)⟩

end Document

end CommentFold
