import CommentFold.Proofs.BlockEvents
import CommentFold.Proofs.FoldSuccess
import CommentFold.Proofs.LineEndings

/-! The events of a file. They are about the runs of the lines that were read before the
first that could not be and, where there is none, about the replacement as far as it got. -/

namespace CommentFold

def Event.isOpening : Event → Bool
  | opening _ => true
  | _ => false

/-- Each block is told to be opened once. -/
theorem countP_isOpening_tellRuns (trailing : Trailing) (cut : List (List Line)) :
    (tellRuns trailing.ending cut).countP Event.isOpening = cut.countP Run.isComment := by
  have single (ending : Trailing) (run : List Line) :
      (Run.events ending.ending run).countP Event.isOpening = if Run.isComment run then 1 else 0 := by
    cases ending <;> cases comment : Run.isComment run <;>
      simp [Run.events, comment, Trailing.ending, List.countP_cons, Event.isOpening]
  induction cut with
  | nil => rfl
  | cons run rest ih =>
    cases rest with
    | nil => simpa [tellRuns] using single trailing run
    | cons next rest =>
      have told : tellRuns trailing.ending (run :: next :: rest) =
          Run.events Trailing.close.ending run ++ tellRuns trailing.ending (next :: rest) := rfl
      rw [told, List.countP_append, single, ih, Nat.add_comm]
      exact List.countP_cons.symm

namespace Document

/-- The lines before the first that could not be read. -/
def readable : List ReadLine → List Text
  | .ok raw :: rest => raw :: readable rest
  | _ => []

theorem readable_append_unread (items : List ReadLine) :
    ∃ unread, items = (readable items).map .ok ++ unread ∧
      (unread = [] ∨ ∃ fault rest, unread = .error fault :: rest) := by
  induction items with
  | nil => exact ⟨[], rfl, .inl rfl⟩
  | cons item rest ih =>
    cases item with
    | error fault => exact ⟨_, rfl, .inr ⟨fault, rest, rfl⟩⟩
    | ok raw =>
      obtain ⟨unread, whole, first⟩ := ih
      refine ⟨unread, ?_, first⟩
      rw [readable, List.map_cons, List.cons_append, ← whole]

theorem readable_map_ok_append (lines : List Text) (items : List ReadLine) :
    readable (lines.map .ok ++ items) = lines ++ readable items := by
  induction lines with
  | nil => rfl
  | cons raw rest ih => exact congrArg (raw :: ·) ih

/-- The banner was read and is right. -/
def Begins (read : List Text) : Prop := ∀ index < 3, ∃ raw, read[index]? = some raw ∧ Banner.Matches index raw

section

variable (path : Path) (trailing : Trailing) {items : List ReadLine}

theorem fold_of_not_begins (refused : ¬Begins (readable items)) :
    ∃ failure, fold path trailing items = .failed failure := by
  cases taken : takeBanner path 0 Banner.required.length items with
  | error failure => exact ⟨failure, by simp only [fold, taken]⟩
  | ok parts =>
    obtain ⟨banner, body⟩ := parts
    obtain ⟨rfl, length, accepted⟩ := takeBanner_eq_ok_iff.mp taken
    refine absurd ?_ refused
    intro index early
    have inside : index < banner.length := by rwa [length, Banner.length_required]
    have present := List.getElem?_eq_getElem inside
    have start := accepted index _ present
    rw [Nat.zero_add, Banner.accepts_iff_matches early] at start
    refine ⟨banner[index], ?_, start⟩
    rw [readable_map_ok_append, List.getElem?_append_left inside, present]

private theorem fold_of_begins {lines : List Text} (begins : Begins lines) (unread : List ReadLine) :
    ∃ text writer, Tells text writer (numbered 3 (lines.drop 3)) ∧
      fold path trailing (lines.map .ok ++ unread) = foldBody path trailing writer lines.length unread := by
  have pushed := (Tells.after ((lines.take 3).flatMap Block.plainLine)).foldl_push (numbered 3 (lines.drop 3))
  rw [List.nil_append] at pushed
  refine ⟨_, _, pushed, ?_⟩
  have total : 3 + (lines.drop 3).length = lines.length := by
    have enough := three_le_length begins
    rw [List.length_drop]
    omega
  have goes := foldBody_append path trailing (.after ((lines.take 3).flatMap Block.plainLine)) 3 (lines.drop 3) unread
  rw [total] at goes
  simp only [fold, takeBanner_append begins]
  exact goes

/-- A line that cannot be read ends the pass, and nothing is told about the block it finds open. -/
theorem fold_of_unread (begins : Begins (readable items)) (unread : (readable items).length < items.length) :
    ∃ failure, fold path trailing items =
      ⟨tellRuns (fun _ => []) (runs (numbered 3 ((readable items).drop 3))), .error failure⟩ := by
  obtain ⟨rest, whole, first⟩ := readable_append_unread items
  obtain ⟨text, writer, tells, goes⟩ := fold_of_begins path trailing begins rest
  rw [← whole] at goes
  rcases first with rfl | ⟨fault, more, rfl⟩
  · rw [List.append_nil] at whole
    have size := congrArg List.length whole
    rw [List.length_map] at size
    omega
  · exact ⟨_, by rw [goes, foldBody, tells.told]⟩

theorem fold_of_read (begins : Begins (readable items)) (read : (readable items).length = items.length) :
    ∃ contents, fold path trailing items =
      ⟨tellRuns trailing.ending (runs (numbered 3 ((readable items).drop 3))),
        .ok ⟨contents, items.length, countBlocks (numbered 3 ((readable items).drop 3))⟩⟩ := by
  obtain ⟨rest, whole, _⟩ := readable_append_unread items
  obtain ⟨text, writer, tells, goes⟩ := fold_of_begins path trailing begins rest
  have none : rest = [] := by
    have size := congrArg List.length whole
    rw [List.length_append, List.length_map, read] at size
    exact List.eq_nil_of_length_eq_zero (by omega)
  subst rest
  rw [← whole] at goes
  exact ⟨_, by rw [goes, foldBody, tells.events_finish, tells.toTracks.blocks_finish, read]⟩

end

end Document

open Document Replacement

/-- What is told about a replacement, as far as it gets. -/
theorem replaceFile_told (path : Path) (source : Source) (document : Document) {mode : Nat}
    (known : source.mode = .ok mode) (host : MemoryHost) :
    let run := (replaceFile path source document : StateM MemoryHost _) host
    let name := Name.staged path.stagingStem host.serial
    let stages := ∃ after, host.disk.stage host.here path.stagingDirectory name mode = .ok after
    (¬stages → (∃ failure, run.1.result = .error failure) ∧ run.1.events = []) ∧
    (stages → ∀ failure, run.1.result = .error failure → run.1.events = [.staged path name.shown]) ∧
    ∀ report, run.1.result = .ok report →
      stages ∧ report = ⟨path, document.lines, document.blocks⟩ ∧
        run.1.events = [.staged path name.shown, .committed path, .folded document.lines document.blocks] := by
  intro run name stages
  have begins : (∃ replacement, ((begin path mode : StateM MemoryHost _) host).1.result = .ok replacement) ↔ stages :=
    begin_ok_iff host path mode
  rcases begin_cases path mode host with ⟨fault, refused⟩ | ⟨holder, reached, begun⟩
  · have ended : run = (.failed (.unwritable path fault), host) := by
      simp only [run, replaceFile, known, bind, StateT.bind, refused]
      rfl
    have idle : ¬stages := by
      rw [← begins, refused]
      rintro ⟨_, ⟨⟩⟩
    rw [ended]
    refine ⟨fun _ => ⟨⟨_, rfl⟩, rfl⟩, fun staged => absurd staged idle, ?_⟩
    rintro _ ⟨⟩
  · have staged : stages := begins.mp ⟨_, by rw [begun]⟩
    rcases commit_cases _ _ with ⟨fault, failed⟩ | ⟨_, _, _, _, _, _, _, done⟩
    · have ended : run = _ := replaceFile_of_error known begun ((complete_eq _ _ _).trans failed)
      rw [ended]
      refine ⟨fun idle => absurd staged idle, fun _ _ _ => rfl, ?_⟩
      rintro _ ⟨⟩
    · have ended : run = _ := replaceFile_of_ok known begun ((complete_eq _ _ _).trans done)
      rw [ended]
      refine ⟨fun idle => absurd staged idle, ?_, ?_⟩
      · rintro _ _ ⟨⟩
      · rintro _ ⟨⟩
        exact ⟨staged, rfl, rfl⟩

/-- The events of a file are those of the runs of the lines after the banner, as far as they
could be read, and then those of the replacement, as far as it got. A block is told to be
opened at the first line of its run. It is told to be closed if a line of another kind
follows; what is told about one that reaches the end of what was read depends on whether
that is the end of the file. A file that cannot be opened, or whose banner is not read or
not right, is not told about at all. -/
theorem foldFile_tells_runs (host : MemoryHost) (path : Path) (trailing : Trailing) :
    let run := (foldFile path trailing : StateM MemoryHost _) host
    (∀ fault, host.disk.fetch host.here path = .error fault → run.1.events = []) ∧
    ∀ source, host.disk.fetch host.here path = .ok source →
      let read := readable source.lines
      let body := numbered 3 (read.drop 3)
      MaximalRuns body (runs body) ∧
      (¬Begins read → run.1.events = []) ∧
      (Begins read → read.length < source.lines.length → run.1.events = tellRuns (fun _ => []) (runs body)) ∧
      (Begins read → read.length = source.lines.length →
        ∃ mode, source.mode = .ok mode ∧
          let told := tellRuns trailing.ending (runs body)
          let name := Name.staged path.stagingStem host.serial
          let stages := ∃ after, host.disk.stage host.here path.stagingDirectory name mode = .ok after
          (¬stages → (∃ failure, run.1.result = .error failure) ∧ run.1.events = told) ∧
          (stages → ∀ failure, run.1.result = .error failure → run.1.events = told ++ [.staged path name.shown]) ∧
          ∀ report, run.1.result = .ok report →
            let blocks := told.countP Event.isOpening
            stages ∧ report = ⟨path, source.lines.length, blocks⟩ ∧
              run.1.events =
                told ++ [.staged path name.shown, .committed path, .folded source.lines.length blocks]) := by
  intro run
  constructor
  · intro fault closed
    simp only [run, foldFile, bind, StateT.bind, MemoryHost.fetch_apply, closed]
    rfl
  · intro source opened read body
    have goes := foldFile_of_source trailing opened
    refine ⟨maximalRuns_runs body, ?_, ?_, ?_⟩
    · intro refused
      obtain ⟨failure, ended⟩ := fold_of_not_begins path trailing refused
      rw [ended] at goes
      simp only [run, goes]
      rfl
    · intro begins unread
      obtain ⟨failure, ended⟩ := fold_of_unread path trailing begins unread
      rw [ended] at goes
      simp only [run, goes]
      rfl
    · intro begins all
      obtain ⟨contents, ended⟩ := fold_of_read path trailing begins all
      obtain ⟨mode, known⟩ := Disk.mode_of_fetch opened
      let document : Document := ⟨contents, source.lines.length, countBlocks body⟩
      let replaced := (replaceFile path source document : StateM MemoryHost _) host
      have followed : run = (replaced.1.preceded (tellRuns trailing.ending (runs body)), replaced.2) := by
        rw [ended, Outcome.andThen_ok] at goes
        exact goes
      have blocks := countP_isOpening_tellRuns trailing (runs body)
      obtain ⟨unstaged, uncommitted, committed⟩ := replaceFile_told path source document known host
      refine ⟨mode, known, ?_, ?_, ?_⟩
      · intro idle
        obtain ⟨failed, quiet⟩ := unstaged idle
        rw [followed, Outcome.preceded, quiet, List.append_nil]
        exact ⟨failed, rfl⟩
      · intro stages failure failed
        rw [followed] at failed ⊢
        rw [Outcome.preceded, uncommitted stages failure failed]
      · intro report done
        rw [followed] at done ⊢
        obtain ⟨stages, same, told⟩ := committed report done
        rw [Outcome.preceded, told, blocks]
        exact ⟨stages, same, rfl⟩

private def toldAt : Location := ⟨[], .plain (Utf8.encode "a.js".toList)⟩

private def toldPath : Path := .ofText "a.js".toList

private def toldBody : List Text := ["// a".toList, "x".toList, "// b".toList]

/-- Two blocks, of which the second reaches the end or a line that is no text. -/
private def toldBytes (rest : Bytes) : Bytes :=
  Utf8.encode ((Banner.required ++ toldBody).flatMap Block.plainLine) ++ rest

private def toldHost (rest : Bytes) : MemoryHost := .ofDisk ⟨[(toldAt, .file (toldBytes rest) 0o644)]⟩ []

private theorem resolve_toldHost (rest : Bytes) :
    (toldHost rest).disk.resolve (toldHost rest).here toldPath = .ok [Utf8.encode "a.js".toList] := rfl

private theorem toldBody_whole : ∀ raw ∈ toldBody, '\n' ∉ raw := by decide

private theorem readLines_toldBytes (rest : Bytes) :
    readLines (toldBytes rest) = (Banner.required ++ toldBody).map .ok ++ readLines rest :=
  readLines_required toldBody_whole rest

private theorem toldHost_folds :
    ∃ report, ((foldFile toldPath .leave : StateM MemoryHost _) (toldHost [])).1.result = .ok report := by
  have below : (toldHost []).disk.StagedBelow (toldHost []).serial :=
    .of_isPlain (List.forall_mem_singleton.mpr rfl)
  have found : (toldHost []).disk.find? toldAt = some (.file (toldBytes []) 0o644) := rfl
  have able : (toldHost []).disk.Replaceable (toldHost []).here toldPath toldAt :=
    ⟨rfl, rfl, ⟨[], rfl⟩, rfl, rfl, rfl, by simp [found]⟩
  have folded := fold_written toldPath .leave toldBody_whole
  rw [← List.append_nil (Utf8.encode _)] at folded
  exact (foldFile_ok_iff below .leave).mpr ⟨_, _, _, _, toldAt, resolve_toldHost [], found, folded, able⟩

/-- What is told of the second block, of the staged file and of the end depends on how far
the file could be read. -/
theorem foldFile_tells_of_cut_run :
    ((foldFile toldPath .leave : StateM MemoryHost _) (toldHost [])).1.events =
        [.opening 3, .closing 3, .opening 5, .leftOpen 5, .staged toldPath ".a.js??????.tmp".toList,
          .committed toldPath, .folded 6 2] ∧
      ((foldFile toldPath .leave : StateM MemoryHost _) (toldHost [255])).1.events =
        [.opening 3, .closing 3, .opening 5] := by
  have begins : Begins (Banner.required ++ toldBody) := required_starts _
  obtain ⟨report, done⟩ := toldHost_folds
  constructor
  · obtain ⟨_, _, _, ends⟩ :=
      (foldFile_tells_runs (toldHost []) toldPath .leave).2 _ (Disk.fetch_of_file (resolve_toldHost []) rfl)
    simp only [Source.lines, readLines_toldBytes, readable_map_ok_append] at ends
    obtain ⟨_, _, _, _, succeeds⟩ := ends begins rfl
    obtain ⟨_, _, told⟩ := succeeds _ done
    exact told.trans (by decide +kernel)
  · obtain ⟨_, _, cut, _⟩ :=
      (foldFile_tells_runs (toldHost [255]) toldPath .leave).2 _ (Disk.fetch_of_file (resolve_toldHost [255]) rfl)
    simp only [Source.lines, readLines_toldBytes, readable_map_ok_append] at cut
    exact (cut begins (by decide +kernel)).trans (by decide +kernel)

end CommentFold
