import CommentFold.Proofs.ReadingOrder
import CommentFold.Proofs.ResolvedFiles

/-! What folding a file comes to, by the bytes of the file and the path that leads to
it. Bytes are text if all their lines are, so the first line that is no text is found
wherever the whole is none. -/

namespace CommentFold

/-! Text and its lines -/

theorem decode?_dropCarriageReturn (line : Bytes) :
    (∃ raw, Utf8.decode? (dropCarriageReturn line) = some raw) ↔ ∃ raw, Utf8.decode? line = some raw := by
  simp only [Utf8.decode?_eq_some_iff]
  constructor
  · rintro ⟨raw, same⟩
    unfold dropCarriageReturn at same
    split at same
    next ending =>
      refine ⟨raw ++ ['\r'], ?_⟩
      rw [Utf8.encode_append, ← same]
      exact (List.dropLast_append_getLast? _ ending).symm
    next => exact ⟨raw, same⟩
  · rintro ⟨raw, rfl⟩
    exact ⟨withoutReturn raw, dropCarriageReturn_encode raw⟩

theorem decode?_ended {line : Bytes} (whole : lineFeed ∉ line) (rest : Bytes) :
    (∃ text, Utf8.decode? (line ++ lineFeed :: rest) = some text) ↔
      (∃ raw, Utf8.decode? line = some raw) ∧ ∃ text, Utf8.decode? rest = some text := by
  have ended (raw text : Text) :
      Utf8.encode (raw ++ '\n' :: text) = Utf8.encode raw ++ lineFeed :: Utf8.encode text := by
    rw [Utf8.encode_append]
    rfl
  simp only [Utf8.decode?_eq_some_iff]
  constructor
  · rintro ⟨text, same⟩
    have member : '\n' ∈ text := by
      rw [← Utf8.lineFeed_mem_encode_iff, ← same]
      simp
    obtain ⟨raw, later, rfl, apart⟩ := List.eq_append_cons_of_mem member
    rw [ended] at same
    have pieces := congrArg (List.splitOn lineFeed) same
    rw [splitOn_cons whole, splitOn_cons (mt Utf8.lineFeed_mem_encode_iff.mp apart)] at pieces
    obtain ⟨rfl, _⟩ := List.cons.inj pieces
    exact ⟨⟨raw, rfl⟩, later, (List.cons.inj (List.append_cancel_left same)).2⟩
  · rintro ⟨⟨raw, rfl⟩, text, rfl⟩
    exact ⟨raw ++ '\n' :: text, (ended raw text).symm⟩

/-- Bytes are text if each of their lines is. -/
theorem decode?_iff_lines (bytes : Bytes) :
    (∃ text, Utf8.decode? bytes = some text) ↔ ∀ line ∈ splitLines bytes, ∃ raw, Utf8.decode? line = some raw := by
  induction bytes using lines_induction with
  | last line whole =>
    rw [splitLines_of_not_mem whole]
    split
    next empty =>
      rw [empty]
      exact iff_of_true ⟨[], Utf8.decode?_encode []⟩ (by simp)
    next => rw [List.forall_mem_singleton]
  | ended line rest whole ih =>
    rw [decode?_ended whole, ih, splitLines_cons whole, List.forall_mem_cons, decode?_dropCarriageReturn]

/-! What reading and folding the lines come to -/

/-- The line at an index is a text. -/
def ReadsAs (bytes : Bytes) (index : Nat) (raw : Text) : Prop :=
  ∃ line, (splitLines bytes)[index]? = some line ∧ Utf8.decode? line = some raw

/-- The line at an index is no text. -/
def Undecodable (bytes : Bytes) (index : Nat) : Prop :=
  ∃ line, (splitLines bytes)[index]? = some line ∧ Utf8.decode? line = none

/-- The line at an index is text, and of the banner if it stands there. -/
def Passes (bytes : Bytes) (index : Nat) : Prop :=
  ∃ raw, ReadsAs bytes index raw ∧ (index < 3 → Banner.Matches index raw)

/-- No line stands at an index of the banner, or another than it takes. -/
def Mismatched (bytes : Bytes) (index : Nat) : Prop :=
  index < 3 ∧ ((splitLines bytes)[index]? = none ∨ ∃ raw, ReadsAs bytes index raw ∧ ¬Banner.Matches index raw)

/-- Text that starts with the whole banner. -/
structure Bannered (bytes : Bytes) : Prop where
  text : ∃ text, Utf8.decode? bytes = some text
  enough : 3 ≤ (splitLines bytes).length
  banner : ∀ index < 3, ∃ raw, ReadsAs bytes index raw ∧ Banner.Matches index raw

theorem getElem?_readLines_eq_ok_iff {bytes : Bytes} {index : Nat} {raw : Text} :
    (readLines bytes)[index]? = some (.ok raw) ↔ ReadsAs bytes index raw := by
  simp only [readLines, List.getElem?_map, Option.map_eq_some_iff, readLine_eq_ok_iff, ReadsAs]

theorem getElem?_readLines_eq_error_iff {bytes : Bytes} {index : Nat} {fault : Fault} :
    (readLines bytes)[index]? = some (.error fault) ↔ Undecodable bytes index ∧ fault = .invalidText := by
  simp only [readLines, List.getElem?_map, Option.map_eq_some_iff, readLine_eq_error_iff, Undecodable]
  constructor
  · rintro ⟨line, present, none, same⟩
    exact ⟨⟨line, present, none⟩, same⟩
  · rintro ⟨⟨line, present, none⟩, same⟩
    exact ⟨line, present, none, same⟩

namespace Document

variable {path : Path} {trailing : Trailing} {bytes : Bytes} {index : Nat}

theorem fold_readLines_ok_iff (path : Path) (trailing : Trailing) (bytes : Bytes) :
    (∃ document, (fold path trailing (readLines bytes)).result = .ok document) ↔ Bannered bytes := by
  have size : (readLines bytes).length = (splitLines bytes).length := by rw [readLines, List.length_map]
  have text : (∀ item ∈ readLines bytes, ∃ raw, item = .ok raw) ↔ ∃ text, Utf8.decode? bytes = some text := by
    rw [decode?_iff_lines]
    simp only [readLines, List.forall_mem_map, readLine_eq_ok_iff]
  rw [fold_succeeds_iff, size, text]
  simp only [getElem?_readLines_eq_ok_iff]
  constructor
  · rintro ⟨enough, whole, starts⟩
    exact ⟨whole, enough, starts⟩
  · rintro ⟨whole, enough, starts⟩
    exact ⟨enough, whole, starts⟩

theorem passes_iff :
    Passes bytes index ↔ ∃ raw, (readLines bytes)[index]? = some (.ok raw) ∧ Banner.accepts index raw = true := by
  have accepts (raw : Text) : (index < 3 → Banner.Matches index raw) ↔ Banner.accepts index raw = true := by
    by_cases early : index < 3
    · simp [early, Banner.accepts_iff_matches early]
    · simp [early, Banner.accepts_of_length_le (Nat.not_lt.mp early) raw]
  simp only [Passes, getElem?_readLines_eq_ok_iff, accepts]

theorem mismatched_iff :
    Mismatched bytes index ↔ complaint? path index (readLines bytes)[index]? = some (.bannerMismatch path index) := by
  have absent : (readLines bytes)[index]? = none ↔ (splitLines bytes)[index]? = none := by
    rw [readLines, List.getElem?_map, Option.map_eq_none_iff]
  simp only [complaint?_eq_bannerMismatch_iff, absent, getElem?_readLines_eq_ok_iff, Mismatched, true_and]

/-- Folding the lines of a file fails at the first that does not pass. -/
theorem fold_readLines_error_iff {failure : Failure} :
    (fold path trailing (readLines bytes)).result = .error failure ↔
      ∃ index, (∀ earlier < index, Passes bytes earlier) ∧
        (Mismatched bytes index ∧ failure = .bannerMismatch path index ∨
          Undecodable bytes index ∧ failure = .unreadable path (some index) .invalidText) := by
  rw [fold_error_iff_at]
  simp only [← passes_iff]
  refine exists_congr fun index => and_comm.trans (and_congr_right fun _ => ?_)
  constructor
  · intro made
    rcases complaint?_shape made with rfl | ⟨fault, rfl⟩
    · exact .inl ⟨mismatched_iff.mpr made, rfl⟩
    · obtain ⟨_, found⟩ := complaint?_eq_unreadable_iff.mp made
      obtain ⟨bad, rfl⟩ := getElem?_readLines_eq_error_iff.mp found
      exact .inr ⟨bad, rfl⟩
  · rintro (⟨wrong, rfl⟩ | ⟨bad, rfl⟩)
    · exact mismatched_iff.mp wrong
    · exact complaint?_eq_unreadable_iff.mpr ⟨rfl, getElem?_readLines_eq_error_iff.mpr ⟨bad, rfl⟩⟩

end Document

/-! What folding the file comes to -/

section

variable {host : MemoryHost} {path : Path} {place : Place} {bytes : Bytes} {mode : Nat}

theorem foldFile_of_fold_error {trailing : Trailing} {failure : Failure}
    (led : host.disk.resolve host.here path = .ok place)
    (standing : host.disk.entryAt? place = some (.file bytes mode))
    (failed : (Document.fold path trailing (readLines bytes)).result = .error failure) :
    ((foldFile path trailing : StateM MemoryHost _) host).1.result = .error failure := by
  rw [foldFile_of_source trailing (Disk.fetch_of_file led standing)]
  rcases outcome : Document.fold path trailing (readLines bytes) with ⟨events, result⟩
  rw [outcome] at failed
  cases failed
  simp only [Source.lines, outcome, Outcome.andThen_error]
  rfl

theorem foldFile_of_no_room {trailing : Trailing} (works : host.disk.WorksIn host.here)
    (led : host.disk.resolve host.here path = .ok place)
    (standing : host.disk.entryAt? place = some (.file bytes mode)) (crowded : ¬Disk.Room host.here path)
    (able : Bannered bytes) :
    ((foldFile path trailing : StateM MemoryHost _) host).1.result = .error (.unwritable path .nameTooLong) := by
  obtain ⟨holder, name, ends⟩ := Disk.exists_endsIn works led standing
  have refused := Replacement.begin_of_refused (ends.stage_of_no_room works crowded host.serial mode)
  obtain ⟨document, folded⟩ := (Document.fold_readLines_ok_iff path trailing bytes).mpr able
  rw [foldFile_of_source trailing (Disk.fetch_of_file led standing)]
  rcases outcome : Document.fold path trailing (readLines bytes) with ⟨events, result⟩
  rw [outcome] at folded
  cases folded
  simp only [Source.lines, outcome, Outcome.andThen_ok, Functor.map, StateT.map, replaceFile, bind, StateT.bind, refused]
  rfl

theorem foldFile_ok_iff_bannered (below : host.disk.StagedBelow host.serial) (works : host.disk.WorksIn host.here)
    (led : host.disk.resolve host.here path = .ok place)
    (standing : host.disk.entryAt? place = some (.file bytes mode)) (trailing : Trailing) :
    (∃ report, ((foldFile path trailing : StateM MemoryHost _) host).1.result = .ok report) ↔
      Bannered bytes ∧ Disk.Room host.here path := by
  rw [foldFile_ok_iff below, ← Disk.replaceable_iff_room works led standing,
    ← Document.fold_readLines_ok_iff path trailing]
  constructor
  · rintro ⟨place', bytes', mode', document, location, led', standing', folded, able⟩
    cases led.symm.trans led'
    cases standing.symm.trans standing'
    exact ⟨⟨document, folded⟩, location, able⟩
  · rintro ⟨⟨document, folded⟩, location, able⟩
    exact ⟨place, bytes, mode, document, location, led, standing, folded, able⟩

/-- A file that cannot be folded fails as its lines do, and one that can fails with the write. -/
theorem foldFile_error_iff (below : host.disk.StagedBelow host.serial) (works : host.disk.WorksIn host.here)
    (led : host.disk.resolve host.here path = .ok place)
    (standing : host.disk.entryAt? place = some (.file bytes mode)) (trailing : Trailing) (failure : Failure) :
    ((foldFile path trailing : StateM MemoryHost _) host).1.result = .error failure ↔
      (Document.fold path trailing (readLines bytes)).result = .error failure ∨
        Bannered bytes ∧ ¬Disk.Room host.here path ∧ failure = .unwritable path .nameTooLong := by
  have bannered := Document.fold_readLines_ok_iff path trailing bytes
  cases folded : (Document.fold path trailing (readLines bytes)).result with
  | error first =>
    have unable : ¬Bannered bytes := by
      rw [← bannered, folded]
      simp
    simp [foldFile_of_fold_error led standing folded, unable]
  | ok document =>
    have able := bannered.mp ⟨document, folded⟩
    by_cases room : Disk.Room host.here path
    · obtain ⟨report, done⟩ := (foldFile_ok_iff_bannered below works led standing trailing).mpr ⟨able, room⟩
      simp [done, room]
    · simp [foldFile_of_no_room works led standing room able, able, room, eq_comm]

end

/-- What folding a file comes to. It succeeds on text that starts with the banner, if there is
room for the staged file. Otherwise it fails at the first line that is no text or not of the
banner, or with the write if there is no such line. -/
theorem foldFile_outcome (host : MemoryHost) (below : host.disk.StagedBelow host.serial)
    (works : host.disk.WorksIn host.here) (path : Path) (trailing : Trailing) {place : Place} {bytes : Bytes}
    {mode : Nat} (led : host.disk.resolve host.here path = .ok place)
    (standing : host.disk.entryAt? place = some (.file bytes mode)) :
    let run := (foldFile path trailing : StateM MemoryHost _) host
    ((∃ report, run.1.result = .ok report) ↔ Bannered bytes ∧ Disk.Room host.here path) ∧
    (∀ failure, run.1.result = .error failure ↔
      (Document.fold path trailing (readLines bytes)).result = .error failure ∨
        Bannered bytes ∧ ¬Disk.Room host.here path ∧ failure = .unwritable path .nameTooLong) ∧
    (∀ failure, (Document.fold path trailing (readLines bytes)).result = .error failure ↔
      ∃ index, (∀ earlier < index, Passes bytes earlier) ∧
        (Mismatched bytes index ∧ failure = .bannerMismatch path index ∨
          Undecodable bytes index ∧ failure = .unreadable path (some index) .invalidText)) ∧
    ∀ other fault, run.1.result ≠ .error (.modeUnknown other fault) ∧
      run.1.result ≠ .error (.uncommitted other fault) ∧ run.1.result ≠ .error (.unreadable other none fault) := by
  intro run
  have fails := foldFile_error_iff below works led standing trailing
  refine ⟨foldFile_ok_iff_bannered below works led standing trailing, fails,
    fun _ => Document.fold_readLines_error_iff, fun other fault => ?_⟩
  simp only [run, ne_eq, fails, Document.fold_readLines_error_iff]
  simp

private def longBytes : Bytes := Utf8.encode (Banner.required.flatMap Block.plainLine)

private def longHolder : Bytes := Utf8.encode "d".toList

private def longName : Bytes := Utf8.encode "a.js".toList

/-- A short name, and so many slashes before it that little more fits into a path. -/
private def longPath : Path := ⟨dot :: List.replicate 4080 slash ++ longHolder ++ slash :: longName⟩

private def longHost : MemoryHost :=
  .ofDisk ⟨[(⟨[], .plain longHolder⟩, .directory), (⟨[longHolder], .plain longName⟩, .file longBytes 0o644)]⟩ []

private theorem longHost_below : longHost.disk.StagedBelow longHost.serial :=
  .of_isPlain (List.forall_mem_cons.mpr ⟨rfl, List.forall_mem_singleton.mpr rfl⟩)

private theorem longHost_works : longHost.disk.WorksIn longHost.here := by
  have root : longHost.here = [] := rfl
  constructor
  · simp [root]
  · simp [root]

private theorem longPath_led : longHost.disk.resolve longHost.here longPath = .ok [longHolder, longName] := by
  decide +kernel

private theorem longHost_standing :
    longHost.disk.entryAt? [longHolder, longName] = some (.file longBytes 0o644) := by
  refine (longHost.disk.entryAt?_append [longHolder] longName).trans ?_
  have apart : (Location.mk [longHolder] (.plain longName) == Location.mk [] (.plain longHolder)) = false := by
    decide
  simp only [Disk.find?, longHost, MemoryHost.ofDisk, List.lookup_cons, apart, BEq.rfl]

private theorem longBytes_bannered : Bannered longBytes := by
  have folded : (Document.fold longPath .leave (readLines longBytes)).result =
      .ok ⟨Banner.required.flatMap Block.plainLine, 3, 0⟩ := by decide +kernel
  exact (Document.fold_readLines_ok_iff longPath .leave longBytes).mp ⟨_, folded⟩

private theorem longPath_crowded : ¬Disk.Room longHost.here longPath := by
  intro room
  exact absurd room.reached (by decide +kernel)

/-- A path that is short enough to be looked up can be too long for its staged file. -/
theorem foldFile_outcome_long_path :
    longHost.disk.StagedBelow longHost.serial ∧ longHost.disk.WorksIn longHost.here ∧
      ∃ place bytes mode, longHost.disk.resolve longHost.here longPath = .ok place ∧
        longHost.disk.entryAt? place = some (.file bytes mode) ∧
        ((foldFile longPath .leave : StateM MemoryHost _) longHost).1.result =
          .error (.unwritable longPath .nameTooLong) := by
  refine ⟨longHost_below, longHost_works, _, _, _, longPath_led, longHost_standing, ?_⟩
  obtain ⟨_, fails, _⟩ :=
    foldFile_outcome longHost longHost_below longHost_works longPath .leave longPath_led longHost_standing
  exact (fails _).mpr (.inr ⟨longBytes_bannered, longPath_crowded, rfl⟩)

/-- A short name is not enough for a replacement to be staged. -/
theorem foldFile_fails_on_long_path :
    ¬ ∀ (host : MemoryHost) (path : Path) (trailing : Trailing) (place : Place) (bytes : Bytes) (mode : Nat),
      host.disk.StagedBelow host.serial → host.disk.WorksIn host.here →
      host.disk.resolve host.here path = .ok place → host.disk.entryAt? place = some (.file bytes mode) →
      ((∃ report, ((foldFile path trailing : StateM MemoryHost _) host).1.result = .ok report) ↔
        Bannered bytes ∧ ∃ name, path.fileName? = some name ∧ (Utf8.decode? name = none ∨ name.length ≤ 244)) := by
  intro claimed
  have named : longPath.fileName? = some longName := by decide +kernel
  have able := (claimed longHost longPath .leave _ _ _ longHost_below longHost_works longPath_led longHost_standing).mpr
    ⟨longBytes_bannered, longName, named, .inr (by decide)⟩
  exact longPath_crowded
    ((foldFile_ok_iff_bannered longHost_below longHost_works longPath_led longHost_standing .leave).mp able).2

end CommentFold
