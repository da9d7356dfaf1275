import CommentFold.FileFold
import CommentFold.Proofs.FoldedDocument
import CommentFold.Proofs.Replacements

/-! Folding a file changes one entry of the disk or none at all. A run that fails
after it has staged something discards it from the directory that it was made in. -/

namespace CommentFold

open Replacement

theorem Disk.fetch_of_file {disk : Disk} {here place : Place} {path : Path} {bytes : Bytes} {mode : Nat}
    (led : disk.resolve here path = .ok place) (standing : disk.entryAt? place = some (.file bytes mode)) :
    disk.fetch here path = .ok ⟨.ok bytes, .ok mode⟩ := by
  simp only [fetch, led, standing, bind, Except.bind]

theorem Disk.fetch_cases (disk : Disk) (here : Place) (path : Path) :
    (∃ fault, disk.fetch here path = .error fault) ∨
    disk.fetch here path = .ok ⟨.error .isADirectory, .ok directoryMode⟩ ∨
    ∃ place bytes mode, disk.resolve here path = .ok place ∧ disk.entryAt? place = some (.file bytes mode) ∧
      disk.fetch here path = .ok ⟨.ok bytes, .ok mode⟩ := by
  cases reached : disk.resolve here path with
  | error fault => exact .inl ⟨fault, by simp only [fetch, reached, bind, Except.bind]⟩
  | ok place =>
    cases standing : disk.entryAt? place with
    | none => exact .inl ⟨.noSuchEntry, by simp only [fetch, reached, standing, bind, Except.bind]⟩
    | some entry =>
      cases entry with
      | file bytes mode =>
        exact .inr (.inr ⟨place, bytes, mode, rfl, standing, fetch_of_file reached standing⟩)
      | directory => exact .inr (.inl (by simp only [fetch, reached, standing, bind, Except.bind]))
      | link target => exact .inl ⟨.noSuchEntry, by simp only [fetch, reached, standing, bind, Except.bind]⟩

theorem Disk.mode_of_fetch {disk : Disk} {here : Place} {path : Path} {source : Source}
    (opened : disk.fetch here path = .ok source) : ∃ mode, source.mode = .ok mode := by
  rcases disk.fetch_cases here path with ⟨fault, closed⟩ | directory | ⟨_, _, mode, _, _, file⟩
  · cases opened.symm.trans closed
  · cases opened.symm.trans directory
    exact ⟨_, rfl⟩
  · cases opened.symm.trans file
    exact ⟨mode, rfl⟩

/-- A replacement that has just begun and is committed at once becomes the entry that
its target names, or leaves nothing behind. -/
theorem commit_begun {disk : Disk} (host : MemoryHost) (replacement : Replacement Staged) {holder : Place}
    (fresh : disk.Fresh replacement.staged.name) (hidden : replacement.staged.name.isPlain = false)
    (reached : disk.resolveDirectory host.here replacement.staged.directory = .ok holder) (entry : Entry) :
    let run := (replacement.commit : StateM MemoryHost _)
      { host with disk := disk.insert ⟨holder, replacement.staged.name⟩ entry }
    (∃ fault, run = (.failed (.uncommitted replacement.target fault), { host with disk := disk })) ∨
    ∃ location, disk.named? host.here replacement.target = some location ∧
      run = (⟨[.committed replacement.target], .ok ()⟩, { host with disk := disk.insert location entry }) := by
  intro run
  rcases replacement.commit_cases { host with disk := disk.insert ⟨holder, replacement.staged.name⟩ entry } with
    ⟨fault, failed⟩ | ⟨source, location, held, named, found, aimed, _, done⟩
  · left
    refine ⟨fault, failed.trans ?_⟩
    simp only [MemoryHost.without, fresh.discard_insert hidden reached, MemoryHost.change]
  · right
    obtain ⟨rfl, rfl⟩ := fresh.eq_of_find?_insert named found
    rw [Disk.named?_of_plain (disk.plain_insert_hidden hidden _)] at aimed
    refine ⟨location, aimed, done.trans ?_⟩
    simp only [fresh.erase_insert]

section

variable {host middle after : MemoryHost} {path : Path} {source : Source} {mode : Nat} {document : Document}
  {replacement : Replacement Staged} {events told : List Event}

theorem replaceFile_of_error {failure : Failure} (known : source.mode = .ok mode)
    (begun : (begin path mode : StateM MemoryHost _) host = (⟨events, .ok replacement⟩, middle))
    (completed : (replacement.complete (Utf8.encode document.contents) : StateM MemoryHost _) middle =
      (⟨told, .error failure⟩, after)) :
    (replaceFile path source document : StateM MemoryHost _) host = (⟨events ++ told, .error failure⟩, after) := by
  simp only [replaceFile, known, bind, StateT.bind, begun, Outcome.andThen_ok, Functor.map, StateT.map, completed,
    Outcome.andThen_error]
  rfl

theorem replaceFile_of_ok (known : source.mode = .ok mode)
    (begun : (begin path mode : StateM MemoryHost _) host = (⟨events, .ok replacement⟩, middle))
    (completed : (replacement.complete (Utf8.encode document.contents) : StateM MemoryHost _) middle =
      (⟨told, .ok ()⟩, after)) :
    (replaceFile path source document : StateM MemoryHost _) host =
      (⟨events ++ (told ++ [.folded document.lines document.blocks]),
        .ok ⟨path, document.lines, document.blocks⟩⟩, after) := by
  simp only [replaceFile, known, bind, StateT.bind, begun, Outcome.andThen_ok, Functor.map, StateT.map, completed]
  rfl

/-- A folded document becomes the entry that the path names, or leaves nothing behind. -/
theorem replaceFile_cases (path : Path) (source : Source) (below : host.disk.StagedBelow host.serial)
    (known : source.mode = .ok mode) (written : document.contents ≠ []) :
    let run := (replaceFile path source document : StateM MemoryHost _) host
    (∃ events failure serial, failure.path = path ∧ host.serial ≤ serial ∧
      run = (⟨events, .error failure⟩, { host with serial := serial })) ∨
    ∃ events location, host.disk.named? host.here path = some location ∧
      run = (⟨events, .ok ⟨path, document.lines, document.blocks⟩⟩,
        { host with
          disk := host.disk.insert location (.file (Utf8.encode document.contents) (Disk.modeAfterWrite mode))
          serial := host.serial + 1 }) := by
  rcases begin_cases path mode host with ⟨fault, refused⟩ | ⟨holder, reached, begun⟩
  · left
    refine ⟨[], .unwritable path fault, host.serial, rfl, Nat.le_refl _, ?_⟩
    simp only [replaceFile, known, bind, StateT.bind, refused]
    rfl
  · have fresh := below.fresh path.stagingStem
    let name := Name.staged path.stagingStem host.serial
    have completed := commit_begun { host with serial := host.serial + 1 } ⟨path, ⟨path.stagingDirectory, name⟩⟩
      fresh rfl reached (.file (Utf8.encode document.contents) (Disk.modeAfterWrite mode))
    rw [← fresh.append_made holder mode (Utf8.encode_ne_nil written)] at completed
    rcases completed with ⟨fault, failed⟩ | ⟨location, aimed, done⟩
    · exact .inl ⟨_, _, _, rfl, Nat.le_succ _, replaceFile_of_error known begun ((complete_eq _ _ _).trans failed)⟩
    · exact .inr ⟨_, location, aimed, replaceFile_of_ok known begun ((complete_eq _ _ _).trans done)⟩

end

theorem foldFile_of_source {host : MemoryHost} {path : Path} {source : Source} (trailing : Trailing)
    (opened : host.disk.fetch host.here path = .ok source) :
    (foldFile path trailing : StateM MemoryHost _) host =
      ((Document.fold path trailing source.lines).andThen (replaceFile path source) : StateM MemoryHost _) host := by
  simp only [foldFile, bind, StateT.bind, MemoryHost.fetch_apply, opened]

/-- Folding a file either fails, names the file and leaves the disk as it was, or makes
one entry of what it read. -/
theorem foldFile_cases {host : MemoryHost} (below : host.disk.StagedBelow host.serial) (path : Path)
    (trailing : Trailing) :
    let run := (foldFile path trailing : StateM MemoryHost _) host
    (∃ events failure serial, failure.path = path ∧ host.serial ≤ serial ∧
      run = (⟨events, .error failure⟩, { host with serial := serial })) ∨
    ∃ place bytes mode document location events,
      host.disk.resolve host.here path = .ok place ∧ host.disk.entryAt? place = some (.file bytes mode) ∧
      (Document.fold path trailing (readLines bytes)).result = .ok document ∧
      host.disk.named? host.here path = some location ∧
      run = (⟨events, .ok ⟨path, document.lines, document.blocks⟩⟩,
        { host with
          disk := host.disk.insert location (.file (Utf8.encode document.contents) (Disk.modeAfterWrite mode))
          serial := host.serial + 1 }) := by
  intro run
  rcases host.disk.fetch_cases host.here path with
    ⟨fault, closed⟩ | directory | ⟨place, bytes, mode, led, standing, file⟩
  · left
    refine ⟨[], .unreadable path none fault, host.serial, rfl, Nat.le_refl _, ?_⟩
    simp only [run, foldFile, bind, StateT.bind, MemoryHost.fetch_apply, closed]
    rfl
  · left
    exact ⟨[], .unreadable path (some 0) .isADirectory, host.serial, rfl, Nat.le_refl _,
      foldFile_of_source trailing directory⟩
  · have opened := foldFile_of_source trailing file
    simp only [Source.lines] at opened
    match outcome : Document.fold path trailing (readLines bytes) with
    | ⟨events, .error failure⟩ =>
      left
      rw [outcome] at opened
      have named : failure.path = path := Document.path_of_fold_error (congrArg Outcome.result outcome)
      exact ⟨events, failure, host.serial, named, Nat.le_refl _, opened⟩
    | ⟨events, .ok document⟩ =>
      rw [outcome, Outcome.andThen_ok] at opened
      have folded : (Document.fold path trailing (readLines bytes)).result = .ok document := by rw [outcome]
      have replaced := replaceFile_cases path ⟨.ok bytes, .ok mode⟩ below rfl (Document.contents_ne_nil folded)
      rcases replaced with ⟨told, failure, serial, about, grown, failed⟩ | ⟨told, location, named, done⟩
      · left
        refine ⟨events ++ told, failure, serial, about, grown, opened.trans ?_⟩
        simp only [Functor.map, StateT.map, failed]
        rfl
      · right
        refine ⟨place, bytes, mode, document, location, events ++ told, led, standing, folded, named, opened.trans ?_⟩
        simp only [Functor.map, StateT.map, done]
        rfl

/-- Where something else stands than at a place, an insertion does not reach the place. -/
theorem Disk.entryAt?_insert_of_ne {disk : Disk} {location : Location} {place : Place} {standing held : Entry}
    (there : disk.find? location = some standing) (here : disk.entryAt? place = some held) (apart : held ≠ standing)
    (entry : Entry) : (disk.insert location entry).entryAt? place = some held := by
  unfold entryAt? at here ⊢
  split at here
  case h_1 name last =>
    have elsewhere : (⟨place.dropLast, .plain name⟩ : Location) ≠ location := by
      intro same
      rw [same, there] at here
      exact apart (Option.some.inj here).symm
    rw [find?_insert, if_neg elsewhere, here]
  case h_2 => exact here

/-- Folding a file is all or nothing. After a failure the disk is as it was. After a
success one entry is another, the one that the path names: it has what was folded of
the lines that were read, and the mode of the file that was read, as a write leaves
it. A link that stood there is gone, and what it led to is still the same. -/
theorem foldFile_all_or_nothing (host : MemoryHost) (below : host.disk.StagedBelow host.serial) (path : Path)
    (trailing : Trailing) :
    let run := (foldFile path trailing : StateM MemoryHost _) host
    (∀ failure, run.1.result = .error failure → run.2.disk = host.disk) ∧
    ∀ report, run.1.result = .ok report →
      ∃ place bytes mode document location,
        host.disk.resolve host.here path = .ok place ∧ host.disk.entryAt? place = some (.file bytes mode) ∧
        (Document.fold path trailing (readLines bytes)).result = .ok document ∧
        report = ⟨path, document.lines, document.blocks⟩ ∧
        host.disk.named? host.here path = some location ∧
        run.2.disk.find? location = some (.file (Utf8.encode document.contents) (Disk.modeAfterWrite mode)) ∧
        (Disk.modeAfterWrite mode = mode ↔ Disk.writeKeeps mode = true) ∧
        (∀ other ≠ location, run.2.disk.find? other = host.disk.find? other) ∧
        ∀ target, host.disk.find? location = some (.link target) →
          run.2.disk.entryAt? place = some (.file bytes mode) := by
  intro run
  rcases foldFile_cases below path trailing with
    ⟨events, failed, serial, _, _, outcome⟩ |
    ⟨place, bytes, mode, document, location, events, led, standing, folded, named, outcome⟩
  · refine ⟨fun failure _ => by simp only [run, outcome], ?_⟩
    intro report done
    simp only [run, outcome] at done
    cases done
  · constructor
    · intro failure failed
      simp only [run, outcome] at failed
      cases failed
    · intro report done
      simp only [run, outcome] at done ⊢
      cases done
      refine ⟨place, bytes, mode, document, location, led, standing, folded, rfl, named, ?_,
        Disk.modeAfterWrite_eq_self_iff mode, ?_, ?_⟩
      · rw [Disk.find?_insert, if_pos rfl]
      · intro other apart
        rw [Disk.find?_insert, if_neg apart]
      · intro target link
        exact Disk.entryAt?_insert_of_ne link standing (by simp) _

private def fileBytes : Bytes := Utf8.encode ((Banner.required ++ ["// c".toList]).flatMap Block.plainLine)

private def fileAt : Location := ⟨[], .plain (Utf8.encode "a.js".toList)⟩

private def linkAt : Location := ⟨[], .plain (Utf8.encode "l.js".toList)⟩

private def linkPath : Path := .ofText "l.js".toList

/-- A file that runs as its owner, and a link to it. -/
private def linkedHost : MemoryHost :=
  .ofDisk ⟨[(linkAt, .link (.ofText "a.js".toList)), (fileAt, .file fileBytes 0o4755)]⟩ []

private theorem linkedHost_below : linkedHost.disk.StagedBelow linkedHost.serial :=
  .of_isPlain (List.forall_mem_cons.mpr ⟨rfl, List.forall_mem_singleton.mpr rfl⟩)

private theorem linkedHost_standing : linkedHost.disk.find? fileAt = some (.file fileBytes 0o4755) := by
  have apart : (fileAt == linkAt) = false := by decide +kernel
  simp only [Disk.find?, linkedHost, MemoryHost.ofDisk, List.lookup_cons, apart, BEq.rfl]

private theorem linkedHost_named : linkedHost.disk.named? linkedHost.here linkPath = some linkAt := by decide +kernel

/-- The link has become a file, without the right to run as its owner. -/
private theorem fold_linkedHost :
    ((foldFile linkPath .leave : StateM MemoryHost _) linkedHost).1.result = .ok ⟨linkPath, 4, 1⟩ ∧
      ((foldFile linkPath .leave : StateM MemoryHost _) linkedHost).2.disk.find? linkAt =
        some (.file
          (Utf8.encode ((Banner.required ++ ["/**".toList, " * c".toList]).flatMap Block.plainLine)) 0o755) := by
  decide +kernel

/-- The link is replaced and the file that it led to stays. -/
theorem foldFile_through_link :
    linkedHost.disk.StagedBelow linkedHost.serial ∧
      ((foldFile linkPath .leave : StateM MemoryHost _) linkedHost).1.result = .ok ⟨linkPath, 4, 1⟩ ∧
      (∃ bytes, ((foldFile linkPath .leave : StateM MemoryHost _) linkedHost).2.disk.find? linkAt =
        some (.file bytes 0o755)) ∧
      ((foldFile linkPath .leave : StateM MemoryHost _) linkedHost).2.disk.find? fileAt =
        some (.file fileBytes 0o4755) := by
  obtain ⟨done, written⟩ := fold_linkedHost
  obtain ⟨_, _, _, _, location, _, _, _, _, named, _, _, others, _⟩ :=
    (foldFile_all_or_nothing linkedHost linkedHost_below linkPath .leave).2 _ done
  have same : location = linkAt := Option.some.inj (named.symm.trans linkedHost_named)
  have apart : fileAt ≠ location := by
    rw [same]
    decide +kernel
  exact ⟨linkedHost_below, done, ⟨_, written⟩, (others fileAt apart).trans linkedHost_standing⟩

/-- A file need not keep its mode when it is folded: a write takes rights away. -/
theorem foldFile_loses_mode :
    ¬ ∀ (host : MemoryHost) (path : Path) (trailing : Trailing), host.disk.StagedBelow host.serial →
      let run := (foldFile path trailing : StateM MemoryHost _) host
      ∀ report place bytes mode location, run.1.result = .ok report →
        host.disk.resolve host.here path = .ok place → host.disk.entryAt? place = some (.file bytes mode) →
        host.disk.named? host.here path = some location →
        ∃ contents, run.2.disk.find? location = some (.file contents mode) := by
  intro kept
  obtain ⟨done, written⟩ := fold_linkedHost
  have led : linkedHost.disk.resolve linkedHost.here linkPath = .ok [Utf8.encode "a.js".toList] := by decide +kernel
  have standing : linkedHost.disk.entryAt? [Utf8.encode "a.js".toList] = some (.file fileBytes 0o4755) :=
    (linkedHost.disk.entryAt?_append [] _).trans linkedHost_standing
  obtain ⟨contents, found⟩ :=
    kept linkedHost linkPath .leave linkedHost_below _ _ _ _ _ done led standing linkedHost_named
  have same := Entry.file.inj (Option.some.inj (written.symm.trans found))
  exact absurd same.2 (by decide)

end CommentFold
