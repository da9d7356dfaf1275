import CommentFold.Proofs.AllOrNothing

/-! When folding a file succeeds. Besides a file that can be read and folded it takes
a directory for the staged file, names that are not too long, and a path that ends in
the name of what may be replaced. -/

namespace CommentFold

namespace Disk

/-- A replacement of what the path names can be staged and then put in its place. -/
structure Replaceable (disk : Disk) (here : Place) (path : Path) (location : Location) : Prop where
  spelled : (stagedPath here path.stagingDirectory (.staged path.stagingStem 0)).check = .ok ()
  fits : (Name.staged path.stagingStem 0).tooLong = false
  kept : ∃ holder, disk.resolveDirectory here path.stagingDirectory = .ok holder
  named : disk.named? here path = some location
  short : location.name.tooLong = false
  unslashed : path.endsInSlash = false
  free : disk.find? location ≠ some .directory

variable {disk : Disk} {here holder : Place} {path directory : Path} {name : Name} {location : Location} {mode : Nat}

theorem named?_inv (named : disk.named? here path = some location) :
    ∃ holder name, location = ⟨holder, .plain name⟩ ∧ disk.resolveHolder here path = .ok holder ∧
      path.lastStep? = some (.down name) := by
  unfold named? at named
  split at named
  next holder name reached last =>
    cases named
    exact ⟨holder, name, rfl, reached, last⟩
  next => cases named

theorem stage_ok_iff :
    (∃ after, disk.stage here directory name mode = .ok after) ↔
      (stagedPath here directory name).check = .ok () ∧ name.tooLong = false ∧
        ∃ holder, disk.resolveDirectory here directory = .ok holder := by
  constructor
  · rintro ⟨after, staged⟩
    obtain ⟨⟨⟩, spelled, staged⟩ := bind_eq_ok staged
    obtain ⟨holder, reached, staged⟩ := bind_eq_ok staged
    split at staged
    · cases staged
    next fits => exact ⟨spelled, Bool.eq_false_iff.mpr fits, holder, reached⟩
  · rintro ⟨spelled, fits, holder, reached⟩
    refine ⟨disk.insert ⟨holder, name⟩ (.file [] mode), ?_⟩
    simp only [stage, spelled, reached, fits, bind, Except.bind, Bool.false_eq_true, if_false]

/-- What was just staged can be published where its target names what is no directory. -/
theorem publish_ok_iff (path : Path) {staged : Staged} (hidden : staged.name.isPlain = false)
    (reached : disk.resolveDirectory here staged.directory = .ok holder) (entry : Entry) :
    (∃ after, (disk.insert ⟨holder, staged.name⟩ entry).publish here staged path = .ok after) ↔
      ∃ location, disk.named? here path = some location ∧ location.name.tooLong = false ∧
        path.endsInSlash = false ∧ disk.find? location ≠ some .directory := by
  -- No path leads through the staged file, so its directory and the target are found as before.
  have same : (disk.insert ⟨holder, staged.name⟩ entry).plain = disk.plain := disk.plain_insert_hidden hidden entry
  have again := (resolveDirectory_of_plain same here staged.directory).trans reached
  have holds := resolveHolder_of_plain same here path
  have found := find?_of_plain same
  have located : (disk.insert ⟨holder, staged.name⟩ entry).locate here staged =
      .ok (⟨holder, staged.name⟩, some entry) := by
    simp only [locate, again, bind, Except.bind, find?_insert, if_pos]
  constructor
  · rintro ⟨after, published⟩
    obtain ⟨_, target, name, _, ready, _⟩ := publish_inv published
    have named := named?_eq ready.aimed ready.last
    rw [named?_of_plain same] at named
    exact ⟨_, named, ready.short, ready.unslashed, found target name ▸ ready.free⟩
  · rintro ⟨location, named, short, unslashed, free⟩
    obtain ⟨target, name, rfl, aimed, last⟩ := named?_inv named
    obtain ⟨⟨⟩, spelled, _⟩ := bind_eq_ok aimed
    have whole : 0 ∉ path.bytes := by
      intro member
      simp only [Path.check, if_pos member] at spelled
      cases spelled
    refine ⟨((disk.insert ⟨holder, staged.name⟩ entry).erase ⟨holder, staged.name⟩).insert ⟨target, .plain name⟩ entry,
      ?_⟩
    simp only [publish, if_neg whole, located, holds, aimed, last, found, short, unslashed, free, bind, Except.bind,
      Bool.false_eq_true, if_false]

end Disk

namespace Replacement

variable (host : MemoryHost)

theorem begin_ok_iff (target : Path) (mode : Nat) :
    (∃ replacement, ((begin target mode : StateM MemoryHost _) host).1.result = .ok replacement) ↔
      ∃ after, host.disk.stage host.here target.stagingDirectory (.staged target.stagingStem host.serial) mode =
        .ok after := by
  simp only [begin, bind, StateT.bind, MemoryHost.stage_apply, MemoryHost.stage]
  split
  next disk staged =>
    exact ⟨fun _ => ⟨disk, staged⟩, fun _ => ⟨_, rfl⟩⟩
  next fault refused =>
    constructor
    · rintro ⟨_, ⟨⟩⟩
    · rintro ⟨after, staged⟩
      cases refused.symm.trans staged

theorem commit_ok_iff (replacement : Replacement Staged) :
    ((replacement.commit : StateM MemoryHost _) host).1.result = .ok () ↔
      ∃ after, host.disk.publish host.here replacement.staged replacement.target = .ok after := by
  simp only [commit, bind, StateT.bind, MemoryHost.publish_apply, MemoryHost.change]
  split
  next disk published =>
    exact ⟨fun _ => ⟨disk, published⟩, fun _ => rfl⟩
  next fault refused =>
    constructor
    · rintro ⟨⟩
    · rintro ⟨after, published⟩
      cases refused.symm.trans published

theorem complete_made_ok_iff (target : Path) (staged : Staged) {holder : Place}
    (fresh : host.disk.Fresh staged.name) (hidden : staged.name.isPlain = false)
    (reached : host.disk.resolveDirectory host.here staged.directory = .ok holder) (mode : Nat) {bytes : Bytes}
    (written : bytes ≠ []) :
    ((complete ⟨target, staged⟩ bytes : StateM MemoryHost _)
      { host with disk := host.disk.insert ⟨holder, staged.name⟩ (.file [] mode) }).1.result = .ok () ↔
      ∃ location, host.disk.named? host.here target = some location ∧ location.name.tooLong = false ∧
        target.endsInSlash = false ∧ host.disk.find? location ≠ some .directory := by
  rw [complete_eq, commit_ok_iff]
  dsimp only
  rw [fresh.append_made holder mode written]
  exact Disk.publish_ok_iff target hidden reached _

end Replacement

open Replacement

section

variable {host : MemoryHost} {path : Path}

private theorem stages_iff (mode serial : Nat) :
    (∃ after, host.disk.stage host.here path.stagingDirectory (.staged path.stagingStem serial) mode = .ok after) ↔
      (Disk.stagedPath host.here path.stagingDirectory (.staged path.stagingStem 0)).check = .ok () ∧
        (Name.staged path.stagingStem 0).tooLong = false ∧
        ∃ holder, host.disk.resolveDirectory host.here path.stagingDirectory = .ok holder :=
  -- The name is as long and shown the same whatever its serial number is.
  Disk.stage_ok_iff

private theorem replaceFile_ok_iff_complete {source : Source} {mode : Nat} {document : Document} {events : List Event}
    {replacement : Replacement Staged} {middle : MemoryHost} (known : source.mode = .ok mode)
    (begun : (begin path mode : StateM MemoryHost _) host = (⟨events, .ok replacement⟩, middle)) :
    (∃ report, ((replaceFile path source document : StateM MemoryHost _) host).1.result = .ok report) ↔
      ((replacement.complete (Utf8.encode document.contents) : StateM MemoryHost _) middle).1.result = .ok () := by
  rcases completed : (replacement.complete (Utf8.encode document.contents) : StateM MemoryHost _) middle with
    ⟨⟨told, failure | ⟨⟩⟩, after⟩
  · rw [replaceFile_of_error known begun completed]
    exact iff_of_false (by simp) (by simp)
  · rw [replaceFile_of_ok known begun completed]
    exact iff_of_true ⟨_, rfl⟩ rfl

theorem replaceFile_ok_iff (source : Source) {document : Document} {mode : Nat}
    (below : host.disk.StagedBelow host.serial) (known : source.mode = .ok mode) (written : document.contents ≠ []) :
    (∃ report, ((replaceFile path source document : StateM MemoryHost _) host).1.result = .ok report) ↔
      ∃ location, host.disk.Replaceable host.here path location := by
  have begins := (begin_ok_iff host path mode).trans (stages_iff mode host.serial)
  rcases begin_cases path mode host with ⟨fault, refused⟩ | ⟨holder, reached, begun⟩
  · refine iff_of_false ?_ ?_
    · rintro ⟨report, done⟩
      simp only [replaceFile, known, bind, StateT.bind, refused] at done
      cases done
    · rintro ⟨location, able⟩
      obtain ⟨replacement, done⟩ := begins.mpr ⟨able.spelled, able.fits, able.kept⟩
      rw [refused] at done
      cases done
  · obtain ⟨spelled, fits, kept⟩ := begins.mp ⟨_, by rw [begun]⟩
    have completes := complete_made_ok_iff { host with serial := host.serial + 1 } path
      ⟨path.stagingDirectory, .staged path.stagingStem host.serial⟩ (below.fresh path.stagingStem) rfl reached mode
      (Utf8.encode_ne_nil written)
    refine (replaceFile_ok_iff_complete known begun).trans (completes.trans ?_)
    constructor
    · rintro ⟨location, named, short, unslashed, free⟩
      exact ⟨location, spelled, fits, kept, named, short, unslashed, free⟩
    · rintro ⟨location, able⟩
      exact ⟨location, able.named, able.short, able.unslashed, able.free⟩

private theorem foldFile_ok_iff_of_folded {place : Place} {bytes : Bytes} {mode : Nat} {document : Document}
    (below : host.disk.StagedBelow host.serial) (led : host.disk.resolve host.here path = .ok place)
    (standing : host.disk.entryAt? place = some (.file bytes mode)) {trailing : Trailing}
    (folded : (Document.fold path trailing (readLines bytes)).result = .ok document) :
    (∃ report, ((foldFile path trailing : StateM MemoryHost _) host).1.result = .ok report) ↔
      ∃ location, host.disk.Replaceable host.here path location := by
  have opened := foldFile_of_source trailing (Disk.fetch_of_file led standing)
  simp only [Source.lines] at opened
  rw [opened, ← replaceFile_ok_iff ⟨.ok bytes, .ok mode⟩ below rfl (Document.contents_ne_nil folded)]
  rcases outcome : Document.fold path trailing (readLines bytes) with ⟨events, failure | other⟩
  · rw [outcome] at folded
    cases folded
  · rw [outcome] at folded
    cases folded
    rfl

/-- Folding succeeds on a file that can be folded, under a path that names what can be
replaced. -/
theorem foldFile_ok_iff (below : host.disk.StagedBelow host.serial) (trailing : Trailing) :
    (∃ report, ((foldFile path trailing : StateM MemoryHost _) host).1.result = .ok report) ↔
      ∃ place bytes mode document location,
        host.disk.resolve host.here path = .ok place ∧ host.disk.entryAt? place = some (.file bytes mode) ∧
        (Document.fold path trailing (readLines bytes)).result = .ok document ∧
        host.disk.Replaceable host.here path location := by
  constructor
  · intro succeeded
    rcases foldFile_cases below path trailing with
      ⟨events, failure, serial, _, _, failed⟩ | ⟨place, bytes, mode, document, _, events, led, standing, folded, _⟩
    · obtain ⟨report, done⟩ := succeeded
      rw [failed] at done
      cases done
    · obtain ⟨location, able⟩ := (foldFile_ok_iff_of_folded below led standing folded).mp succeeded
      exact ⟨place, bytes, mode, document, location, led, standing, folded, able⟩
  · rintro ⟨place, bytes, mode, document, location, led, standing, folded, able⟩
    exact (foldFile_ok_iff_of_folded below led standing folded).mpr ⟨location, able⟩

theorem foldFile_failed (below : host.disk.StagedBelow host.serial) {trailing : Trailing} {failure : Failure}
    (failed : ((foldFile path trailing : StateM MemoryHost _) host).1.result = .error failure) :
    failure.path = path ∧ ∃ serial, host.serial ≤ serial ∧
      ((foldFile path trailing : StateM MemoryHost _) host).2 = { host with serial := serial } := by
  rcases foldFile_cases below path trailing with
    ⟨_, _, serial, about, grown, run⟩ | ⟨_, _, _, _, _, _, _, _, _, _, run⟩
  · rw [run] at failed ⊢
    cases failed
    exact ⟨about, serial, grown, rfl⟩
  · rw [run] at failed
    cases failed

/-- What a success has read, and the host that it leaves. -/
theorem foldFile_inv (below : host.disk.StagedBelow host.serial) {trailing : Trailing} {report : Report}
    (done : ((foldFile path trailing : StateM MemoryHost _) host).1.result = .ok report) :
    ∃ place bytes mode document location,
      host.disk.resolve host.here path = .ok place ∧ host.disk.entryAt? place = some (.file bytes mode) ∧
      (Document.fold path trailing (readLines bytes)).result = .ok document ∧
      host.disk.Replaceable host.here path location ∧ report = ⟨path, document.lines, document.blocks⟩ ∧
      ((foldFile path trailing : StateM MemoryHost _) host).2 = { host with
        disk := host.disk.insert location (.file (Utf8.encode document.contents) (Disk.modeAfterWrite mode))
        serial := host.serial + 1 } := by
  rcases foldFile_cases below path trailing with
    ⟨events, failure, serial, _, _, failed⟩ |
    ⟨place, bytes, mode, document, location, events, led, standing, folded, named, run⟩
  · rw [failed] at done
    cases done
  · obtain ⟨other, able⟩ := (foldFile_ok_iff_of_folded below led standing folded).mp ⟨report, done⟩
    cases Option.some.inj (able.named.symm.trans named)
    rw [run] at done ⊢
    cases done
    exact ⟨place, bytes, mode, document, location, led, standing, folded, able, rfl, rfl⟩

/-- What a success leaves, if it is known what it will read. -/
theorem foldFile_of_replaceable {place : Place} {bytes : Bytes} {mode : Nat} {document : Document} {location : Location}
    (below : host.disk.StagedBelow host.serial) (led : host.disk.resolve host.here path = .ok place)
    (standing : host.disk.entryAt? place = some (.file bytes mode)) {trailing : Trailing}
    (folded : (Document.fold path trailing (readLines bytes)).result = .ok document)
    (able : host.disk.Replaceable host.here path location) :
    let run := (foldFile path trailing : StateM MemoryHost _) host
    run.1.result = .ok ⟨path, document.lines, document.blocks⟩ ∧
      run.2 = { host with
        disk := host.disk.insert location (.file (Utf8.encode document.contents) (Disk.modeAfterWrite mode))
        serial := host.serial + 1 } := by
  intro run
  obtain ⟨report, done⟩ := (foldFile_ok_iff_of_folded below led standing folded).mpr ⟨location, able⟩
  obtain ⟨_, _, _, _, _, led', standing', folded', able', rfl, after⟩ := foldFile_inv below done
  cases led.symm.trans led'
  cases standing.symm.trans standing'
  cases folded.symm.trans folded'
  cases able.named.symm.trans able'.named
  exact ⟨done, after⟩

end

end CommentFold
