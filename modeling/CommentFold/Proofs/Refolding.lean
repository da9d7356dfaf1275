import CommentFold.Proofs.FoldedLines
import CommentFold.Proofs.LineEndings

/-! Folding what was folded. No comment line is left, so all that a second pass can
change is what it does to the lines as it reads them: a carriage return at the end
of one is taken for a part of the line end. -/

namespace CommentFold

theorem mem_numbered {first : Nat} {raws : List Text} {line : Line} (member : line ∈ numbered first raws) :
    line.raw ∈ raws := by
  obtain ⟨⟨raw, index⟩, inside, rfl⟩ := List.mem_map.mp member
  exact List.fst_mem_of_mem_zipIdx inside

theorem map_raw_numbered (first : Nat) (raws : List Text) : (numbered first raws).map Line.raw = raws := by
  simp only [numbered, List.map_map, Function.comp_def, List.zipIdx_map_fst]

private theorem exists_withoutReturn_append (raw : Text) :
    ∃ tail, raw = withoutReturn raw ++ tail ∧ ∀ c ∈ tail, isBlank c = true := by
  unfold withoutReturn
  split
  next ending => exact ⟨['\r'], (List.dropLast_append_getLast? _ ending).symm, List.forall_mem_singleton.mpr (by decide)⟩
  next => exact ⟨[], by simp, by simp⟩

theorem Line.kind_withoutReturn (index : Nat) (raw : Text) : kind ⟨index, withoutReturn raw⟩ = kind ⟨index, raw⟩ := by
  obtain ⟨tail, whole, blank⟩ := exists_withoutReturn_append raw
  have same := body?_append_tail blank index (withoutReturn raw)
  rw [← whole] at same
  simp only [kind, same]

theorem Banner.Matches.withoutReturn {index : Nat} {raw : Text} (starts : Banner.Matches index raw) :
    Banner.Matches index (withoutReturn raw) := by
  obtain ⟨start, required, rest, rfl⟩ := starts
  refine ⟨start, required, ?_⟩
  rcases List.eq_nil_or_concat rest with rfl | ⟨before, c, rfl⟩
  -- A line that is no longer than it must be has no carriage return to lose.
  · have solid : ∀ start ∈ Banner.required, start.getLast? ≠ some '\r' := by decide
    have kept := withoutReturn_eq_self_iff.mpr (solid start (List.mem_of_getElem? required))
    exact ⟨[], by simp only [List.append_nil, kept]⟩
  · unfold CommentFold.withoutReturn
    split
    · rw [List.concat_eq_append, ← List.append_assoc, List.dropLast_concat]
      exact List.prefix_append _ _
    · exact List.prefix_append _ _

/-- The lines of a folded document, the banner's included. -/
def writtenLines (trailing : Trailing) (lines : List Text) : List Text :=
  lines.take 3 ++ foldedLines trailing (runs (numbered 3 (lines.drop 3)))

section

variable (trailing : Trailing) {lines : List Text}

theorem lineFeed_not_mem_writtenLines (whole : ∀ raw ∈ lines, '\n' ∉ raw) :
    ∀ raw ∈ writtenLines trailing lines, '\n' ∉ raw := by
  intro raw written
  rcases List.mem_append.mp written with banner | body
  · exact whole raw (List.mem_of_mem_take banner)
  · refine lineFeed_not_mem_foldedLines ?_ raw body
    intro line member
    exact whole _ (List.mem_of_mem_drop (mem_numbered member))

/-- After the banner no comment line is written. -/
theorem kind_of_mem_foldedLines {body : List Line} {raw : Text} (written : raw ∈ foldedLines trailing (runs body))
    (index : Nat) : Line.kind ⟨index, raw⟩ = .other := by
  rcases mem_foldedLines_runs written with ⟨line, _, other, rfl⟩ | ⟨other, _⟩
  · exact other
  · exact other index

/-- A written line that ends in a carriage return was read, and is no comment line. -/
theorem forall_writtenLines_iff :
    (∀ raw ∈ writtenLines trailing lines, raw.getLast? ≠ some '\r') ↔
      (∀ raw ∈ lines.take 3, raw.getLast? ≠ some '\r') ∧
      ∀ line ∈ numbered 3 (lines.drop 3), line.kind = .other → line.raw.getLast? ≠ some '\r' := by
  rw [writtenLines, List.forall_mem_append]
  refine and_congr_right fun _ => ?_
  constructor
  · intro quiet line member other
    exact quiet _ (raw_mem_foldedLines trailing member other)
  · intro quiet raw written
    rcases mem_foldedLines_runs written with ⟨line, member, other, rfl⟩ | ⟨_, ending⟩
    · exact quiet line member other
    · exact ending

end

namespace Document

theorem fold_contents {path : Path} {trailing : Trailing} {lines : List Text} {document : Document}
    (folded : (fold path trailing (lines.map .ok)).result = .ok document) :
    document.contents = (writtenLines trailing lines).flatMap Block.plainLine ∧
      ∀ index < 3, ∃ raw, lines[index]? = some raw ∧ Banner.Matches index raw := by
  obtain ⟨others, same, starts⟩ := fold_ok_lines folded
  cases (List.map_inj_right fun _ _ equal => Except.ok.inj equal).mp same
  have whole := fold_of_starts path trailing starts
  rw [folded] at whole
  refine ⟨?_, starts⟩
  rw [Except.ok.inj whole, writtenLines, List.flatMap_append, ← foldRuns_eq_lines]

/-- Where no comment line follows the banner, the lines are written as they were read. -/
theorem fold_of_other (path : Path) (trailing : Trailing) {lines : List Text}
    (starts : ∀ index < 3, ∃ raw, lines[index]? = some raw ∧ Banner.Matches index raw)
    (other : ∀ line ∈ numbered 3 (lines.drop 3), line.kind = .other) :
    (fold path trailing (lines.map .ok)).result = .ok ⟨lines.flatMap Block.plainLine, lines.length, 0⟩ := by
  obtain ⟨body, none⟩ := foldRuns_of_other trailing other
  have joined : (lines.take 3).flatMap Block.plainLine ++
      (numbered 3 (lines.drop 3)).flatMap (fun line => Block.plainLine line.raw) = lines.flatMap Block.plainLine := by
    rw [← List.flatMap_map Line.raw, map_raw_numbered, ← List.flatMap_append, List.take_append_drop]
  rw [fold_of_starts path trailing starts, body, none, joined]

section

variable (trailing : Trailing) {lines : List Text}
  (starts : ∀ index < 3, ∃ raw, lines[index]? = some raw ∧ Banner.Matches index raw)
include starts

private theorem length_banner : ((lines.take 3).map withoutReturn).length = 3 := by
  obtain ⟨last, present, _⟩ := starts 2 (by omega)
  have enough : 2 < lines.length := (List.getElem?_eq_some_iff.mp present).choose
  rw [List.length_map, List.length_take]
  omega

private theorem banner_read_again :
    ∀ index < 3, ∃ raw, ((writtenLines trailing lines).map withoutReturn)[index]? = some raw ∧
      Banner.Matches index raw := by
  intro index early
  obtain ⟨raw, present, start⟩ := starts index early
  refine ⟨withoutReturn raw, ?_, start.withoutReturn⟩
  have size := length_banner starts
  rw [writtenLines, List.map_append, List.getElem?_append_left (by omega), List.getElem?_map,
    List.getElem?_take_of_lt early, present]
  rfl

private theorem kind_read_again :
    ∀ line ∈ numbered 3 (((writtenLines trailing lines).map withoutReturn).drop 3), line.kind = .other := by
  intro line member
  have inside := mem_numbered member
  rw [writtenLines, List.map_append, List.drop_left' (length_banner starts)] at inside
  obtain ⟨raw, written, same⟩ := List.mem_map.mp inside
  have shape : line = ⟨line.index, withoutReturn raw⟩ := by rw [same]
  rw [shape, Line.kind_withoutReturn]
  exact kind_of_mem_foldedLines trailing written line.index

/-- A second pass over a folded document, under whatever policy, reads its lines and
writes them again. -/
theorem fold_writtenLines (path : Path) (second : Trailing) :
    let read := (writtenLines trailing lines).map withoutReturn
    (fold path second (read.map .ok)).result = .ok ⟨read.flatMap Block.plainLine, read.length, 0⟩ :=
  fold_of_other path second (banner_read_again trailing starts) (kind_read_again trailing starts)

end

/-- What a second pass, under whatever policy, makes of the bytes of a folded document. -/
theorem fold_again {path : Path} {trailing : Trailing} {bytes : Bytes} {document : Document}
    (folded : (fold path trailing (readLines bytes)).result = .ok document) (second : Trailing) :
    let first := Utf8.encode document.contents
    ∃ (lines read : List Text) (contents : Text), readLines bytes = lines.map .ok ∧ readLines first = read.map .ok ∧
      (∀ line ∈ numbered 3 (read.drop 3), line.kind = .other) ∧
      (fold path second (readLines first)).result = .ok ⟨contents, first.count lineFeed, 0⟩ ∧
      Utf8.encode contents = withoutReturns first ∧
      (withoutReturns first = first ↔
        (∀ raw ∈ lines.take 3, raw.getLast? ≠ some '\r') ∧
        ∀ line ∈ numbered 3 (lines.drop 3), line.kind = .other → line.raw.getLast? ≠ some '\r') := by
  intro first
  obtain ⟨lines, same, _⟩ := fold_ok_lines folded
  rw [same] at folded
  obtain ⟨contents, starts⟩ := fold_contents folded
  have whole := lineFeed_not_mem_writtenLines trailing (lineFeed_not_mem_of_readLines same)
  have again := fold_writtenLines trailing starts path second
  have read := readLines_encode _ whole
  rw [← contents] at read
  have count := count_encode_lines _ whole
  rw [← contents] at count
  have changed := withoutReturns_encode _ whole
  rw [← contents] at changed
  have same_iff := withoutReturns_eq_self_iff _ whole
  rw [← contents, forall_writtenLines_iff] at same_iff
  refine ⟨lines, _, _, same, read, kind_read_again trailing starts, ?_, changed.symm, same_iff⟩
  rw [read, count]
  simpa only [List.length_map] using again

end Document

end CommentFold
