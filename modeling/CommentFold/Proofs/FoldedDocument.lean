import CommentFold.Proofs.BlockFolding
import CommentFold.Proofs.LineEndings
import CommentFold.Proofs.ReadingOrder
import Mathlib.Data.Set.List

/-! What a pass makes of a file whose lines can all be read and whose banner is
right: the banner as it stands, and after it the runs of the body, folded. -/

namespace CommentFold.Document

/-- Lines that can be read are pushed, and the pass goes on after them. -/
theorem foldBody_append (path : Path) (trailing : Trailing) (writer : BlockWriter) (index : Nat) (raws : List Text)
    (items : List ReadLine) :
    foldBody path trailing writer index (raws.map .ok ++ items) =
      foldBody path trailing ((numbered index raws).foldl BlockWriter.push writer) (index + raws.length) items := by
  induction raws generalizing writer index with
  | nil => rfl
  | cons raw rest ih =>
    have step := ih (writer.push ⟨index, raw⟩) (index + 1)
    rw [List.length_cons, Nat.add_comm rest.length, ← Nat.add_assoc]
    exact step

theorem foldBody_ok (path : Path) (trailing : Trailing) (writer : BlockWriter) (index : Nat) (raws : List Text) :
    foldBody path trailing writer index (raws.map .ok) =
      let finished := ((numbered index raws).foldl BlockWriter.push writer).finish trailing
      ⟨finished.events, .ok ⟨finished.out, index + raws.length, finished.blocks⟩⟩ := by
  have all := foldBody_append path trailing writer index raws []
  rwa [List.append_nil] at all

/-- The body is folded behind what is written already. -/
theorem foldBody_after (path : Path) (trailing : Trailing) (text : Text) (index : Nat) (raws : List Text) :
    (foldBody path trailing (.after text) index (raws.map .ok)).result = .ok
      { contents := text ++ foldRuns trailing (runs (numbered index raws))
        lines := index + raws.length
        blocks := (runs (numbered index raws)).countP Run.isComment } := by
  have tracks := (Tracks.after text).foldl_push (numbered index raws)
  rw [List.nil_append] at tracks
  rw [foldBody_ok]
  have out := tracks.out_finish trailing
  have blocks := tracks.blocks_finish trailing
  exact congrArg Except.ok (congr (congrArg (fun text => Document.mk text (index + raws.length)) out) blocks)

theorem three_le_length {lines : List Text}
    (starts : ∀ index < 3, ∃ raw, lines[index]? = some raw ∧ Banner.Matches index raw) : 3 ≤ lines.length := by
  obtain ⟨last, present, _⟩ := starts 2 (by omega)
  exact (List.getElem?_eq_some_iff.mp present).choose

/-- A right banner is split off, whatever follows the lines that were read. -/
theorem takeBanner_append {path : Path} {lines : List Text}
    (starts : ∀ index < 3, ∃ raw, lines[index]? = some raw ∧ Banner.Matches index raw) (items : List ReadLine) :
    takeBanner path 0 Banner.required.length (lines.map .ok ++ items) =
      .ok (lines.take 3, (lines.drop 3).map .ok ++ items) := by
  refine takeBanner_eq_ok_iff.mpr ⟨?_, ?_, ?_⟩
  · rw [← List.append_assoc, ← List.map_append, List.take_append_drop]
  · rw [List.length_take, Nat.min_eq_left (three_le_length starts), Banner.length_required]
  · intro index raw present
    have early : index < 3 := by
      have inside := (List.getElem?_eq_some_iff.mp present).choose
      rw [List.length_take] at inside
      omega
    rw [List.getElem?_take_of_lt early] at present
    obtain ⟨other, found, start⟩ := starts index early
    cases present.symm.trans found
    rw [Nat.zero_add]
    exact (Banner.accepts_iff_matches early).mpr start

theorem takeBanner_ok {path : Path} {lines : List Text}
    (starts : ∀ index < 3, ∃ raw, lines[index]? = some raw ∧ Banner.Matches index raw) :
    takeBanner path 0 Banner.required.length (lines.map .ok) =
      .ok (lines.take 3, (lines.drop 3).map .ok) := by
  simpa only [List.append_nil] using @takeBanner_append path lines starts []

/-- A pass that succeeds has read nothing but lines. -/
theorem fold_ok_lines {path : Path} {trailing : Trailing} {items : List ReadLine} {document : Document}
    (folded : (fold path trailing items).result = .ok document) :
    ∃ lines : List Text, items = lines.map .ok ∧
      ∀ index < 3, ∃ raw, lines[index]? = some raw ∧ Banner.Matches index raw := by
  obtain ⟨_, readable, starts⟩ := fold_succeeds_iff.mp ⟨document, folded⟩
  have covered : items ∈ Set.range (List.map (Except.ok : Text → ReadLine)) := by
    rw [Set.range_list_map]
    intro item member
    obtain ⟨raw, same⟩ := readable item member
    exact ⟨raw, same.symm⟩
  obtain ⟨lines, rfl⟩ := covered
  refine ⟨lines, rfl, ?_⟩
  intro index early
  obtain ⟨raw, present, start⟩ := starts index early
  rw [List.getElem?_map] at present
  obtain ⟨same, found, equal⟩ := Option.map_eq_some_iff.mp present
  cases equal
  exact ⟨raw, found, start⟩

/-- Whatever is folded keeps a banner at least. -/
theorem contents_ne_nil {path : Path} {trailing : Trailing} {items : List ReadLine} {document : Document}
    (folded : (fold path trailing items).result = .ok document) : document.contents ≠ [] := by
  obtain ⟨lines, rfl, starts⟩ := fold_ok_lines folded
  simp only [fold, takeBanner_ok starts, foldBody_after] at folded
  cases folded
  cases lines with
  | nil => exact absurd (three_le_length starts) (by simp)
  | cons first rest => simp [Block.plainLine]

/-- The banner is kept and the body folded behind it. -/
theorem fold_of_starts (path : Path) (trailing : Trailing) {lines : List Text}
    (starts : ∀ index < 3, ∃ raw, lines[index]? = some raw ∧ Banner.Matches index raw) :
    (fold path trailing (lines.map .ok)).result = .ok
      { contents := (lines.take 3).flatMap Block.plainLine ++ foldRuns trailing (runs (numbered 3 (lines.drop 3)))
        lines := lines.length
        blocks := countBlocks (numbered 3 (lines.drop 3)) } := by
  have total : 3 + (lines.drop 3).length = lines.length := by
    have enough := three_le_length starts
    rw [List.length_drop]
    omega
  have folded := foldBody_after path trailing ((lines.take 3).flatMap Block.plainLine) 3 (lines.drop 3)
  rw [total] at folded
  simp only [fold, takeBanner_ok starts]
  exact folded

/-- A file that can be read and has the banner becomes its banner, followed by the
folded runs of its body. -/
theorem fold_eq_folded_runs (path : Path) (trailing : Trailing) (lines : List Text)
    (starts : ∀ index < 3, ∃ raw, lines[index]? = some raw ∧ Banner.Matches index raw) :
    let body := numbered 3 (lines.drop 3)
    MaximalRuns body (runs body) ∧
      (fold path trailing (lines.map .ok)).result = .ok
        { contents := ((lines.take 3).flatMap fun raw => raw ++ ['\n']) ++ foldRuns trailing (runs body)
          lines := lines.length
          blocks := (runs body).countP Run.isComment } := by
  intro body
  exact ⟨maximalRuns_runs body, fold_of_starts path trailing starts⟩

theorem required_starts (body : List Text) :
    ∀ index < 3, ∃ raw, (Banner.required ++ body)[index]? = some raw ∧ Banner.Matches index raw := by
  intro index early
  have present := List.getElem?_eq_getElem (l := Banner.required) early
  exact ⟨Banner.required[index], (List.getElem?_append_left early).trans present, _, present, List.prefix_rfl⟩

/-- After the banner itself any lines can be folded. -/
theorem fold_required (path : Path) (trailing : Trailing) (body : List Text) :
    (fold path trailing ((Banner.required ++ body).map .ok)).result = .ok
      { contents := Banner.required.flatMap Block.plainLine ++ foldRuns trailing (runs (numbered 3 body))
        lines := 3 + body.length
        blocks := countBlocks (numbered 3 body) } := by
  simp only [fold, takeBanner_ok (required_starts body), ← Banner.length_required, List.take_left, List.drop_left]
  exact foldBody_after path trailing _ _ body

/-- A file that was written with the banner and a body can be folded. -/
theorem fold_written (path : Path) (trailing : Trailing) {body : List Text} (whole : ∀ raw ∈ body, '\n' ∉ raw) :
    (fold path trailing (readLines (Utf8.encode ((Banner.required ++ body).flatMap Block.plainLine)))).result =
      let read := numbered 3 (body.map withoutReturn)
      .ok
        { contents := Banner.required.flatMap Block.plainLine ++ foldRuns trailing (runs read)
          lines := 3 + body.length
          blocks := countBlocks read } := by
  have read := readLines_required whole []
  rw [List.append_nil, show readLines [] = [] from rfl, List.append_nil] at read
  rw [read, fold_required, List.length_map]

/-- Two blocks, of which the second reaches the end of the input. -/
theorem fold_two_runs :
    let lines := Banner.required ++ ["  // a".toList, "//b ".toList, "x".toList, "// c".toList]
    (∀ index < 3, ∃ raw, lines[index]? = some raw ∧ Banner.Matches index raw) ∧
    (fold ⟨[]⟩ .leave (lines.map .ok)).result = .ok
      { contents := (Banner.required.flatMap fun raw => raw ++ ['\n']) ++
          "  /**\n   * a\n   *b\n   */\nx\n/**\n * c\n".toList
        lines := 7
        blocks := 2 } := by
  have starts := required_starts ["  // a".toList, "//b ".toList, "x".toList, "// c".toList]
  exact ⟨starts, (fold_eq_folded_runs ⟨[]⟩ .leave _ starts).2⟩

end CommentFold.Document
