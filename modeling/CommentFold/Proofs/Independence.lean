import CommentFold.Proofs.Processing
import CommentFold.Proofs.SecondFold

/-! Files that do not depend on each other. Paths that name different files can be
folded in any order: what is put in the place of one file changes no look-up, and of
the other files neither the contents nor the mode. -/

namespace CommentFold

open CommandLine

namespace Disk

variable {disk after : Disk} {here : Place} {path other : Path} {location : Location} {entry : Entry}
  {trailing : Trailing}

theorem SameShape.named? (alike : after.SameShape disk) (here : Place) (path : Path) :
    after.named? here path = disk.named? here path := by
  simp only [Disk.named?, alike.resolveHolder]

theorem SameShape.replaceable (alike : after.SameShape disk) (able : disk.Replaceable here path location) :
    after.Replaceable here path location := by
  refine ⟨able.spelled, able.fits, ?_, (alike.named? here path).trans able.named, able.short, able.unslashed, ?_⟩
  · obtain ⟨holder, reached⟩ := able.kept
    exact ⟨holder, (alike.resolveDirectory here _).trans reached⟩
  · obtain ⟨holder, name, rfl, _, _⟩ := named?_inv able.named
    have standing := alike.entryAt?_iff (holder ++ [name])
    rw [entryAt?_append, entryAt?_append] at standing
    exact mt standing.mp able.free

/-- The path names a file that can be folded and replaced, and the entry is what the
file becomes. -/
structure Foldable (disk : Disk) (here : Place) (trailing : Trailing) (path : Path) (location : Location)
    (entry : Entry) : Prop where
  able : disk.Replaceable here path location
  read : ∃ bytes mode document, disk.find? location = some (.file bytes mode) ∧
    (Document.fold path trailing (readLines bytes)).result = .ok document ∧
    entry = .file (Utf8.encode document.contents) (modeAfterWrite mode)

namespace Foldable

theorem unique (first : disk.Foldable here trailing path location entry) {location' : Location} {entry' : Entry}
    (second : disk.Foldable here trailing path location' entry') : location' = location ∧ entry' = entry := by
  cases Option.some.inj (first.able.named.symm.trans second.able.named)
  obtain ⟨bytes, mode, document, found, folded, rfl⟩ := first.read
  obtain ⟨_, _, _, again, folded', rfl⟩ := second.read
  cases found.symm.trans again
  cases folded.symm.trans folded'
  exact ⟨rfl, rfl⟩

theorem sameShape (foldable : disk.Foldable here trailing path location entry) :
    (disk.insert location entry).SameShape disk := by
  obtain ⟨_, _, _, found, _, rfl⟩ := foldable.read
  exact .insert found _ _

theorem of_sameShape (foldable : disk.Foldable here trailing path location entry) (alike : after.SameShape disk)
    (untouched : after.find? location = disk.find? location) : after.Foldable here trailing path location entry := by
  refine ⟨alike.replaceable foldable.able, ?_⟩
  rw [untouched]
  exact foldable.read

end Foldable

/-- Each path that names an entry names a file, and no two name the same. -/
structure Independent (disk : Disk) (here : Place) (paths : List Path) : Prop where
  regular : ∀ path ∈ paths, ∀ location, disk.named? here path = some location →
    ∃ bytes mode, disk.find? location = some (.file bytes mode)
  apart : paths.Pairwise fun path other => ∀ location, disk.named? here path = some location →
    disk.named? here other ≠ some location

namespace Independent

variable {paths permuted rest : List Path}

theorem perm (independent : disk.Independent here paths) (perm : paths.Perm permuted) :
    disk.Independent here permuted := by
  refine ⟨fun path member => independent.regular path (perm.mem_iff.mpr member), ?_⟩
  refine independent.apart.perm perm fun {_ _} apart location named named' => ?_
  exact apart location named' named

/-- What is put in the place of the first file leaves the others as they are. -/
theorem tail (independent : disk.Independent here (path :: rest))
    (foldable : disk.Foldable here trailing path location entry) :
    (disk.insert location entry).Independent here rest ∧
      ∀ other ∈ rest, ∀ location' entry', (disk.insert location entry).Foldable here trailing other location' entry' ↔
        disk.Foldable here trailing other location' entry' := by
  have alike := foldable.sameShape
  obtain ⟨apart, later⟩ := List.pairwise_cons.mp independent.apart
  have untouched : ∀ other ∈ rest, ∀ location', disk.named? here other = some location' →
      (disk.insert location entry).find? location' = disk.find? location' := by
    intro other member location' named
    rw [find?_insert, if_neg]
    rintro rfl
    exact apart other member location' foldable.able.named named
  refine ⟨⟨?_, ?_⟩, ?_⟩
  · intro other member location' named
    rw [alike.named?] at named
    rw [untouched other member location' named]
    exact independent.regular other (List.mem_cons_of_mem _ member) location' named
  · simpa only [alike.named?] using later
  · intro other member location' entry'
    constructor
    · intro foldable'
      have named := (alike.named? here other).symm.trans foldable'.able.named
      refine foldable'.of_sameShape (fun holder name => (alike holder name).symm) ?_
      exact (untouched other member location' named).symm
    · intro foldable'
      exact foldable'.of_sameShape alike (untouched other member location' foldable'.able.named)

end Independent

end Disk

section

variable {host : MemoryHost} {path : Path} {paths rest : List Path} {trailing : Trailing} {location : Location}
  {entry : Entry}

theorem foldFile_ok_iff_foldable (below : host.disk.StagedBelow host.serial)
    (regular : ∀ location, host.disk.named? host.here path = some location →
      ∃ bytes mode, host.disk.find? location = some (.file bytes mode)) :
    (∃ report, ((foldFile path trailing : StateM MemoryHost _) host).1.result = .ok report) ↔
      ∃ location entry, host.disk.Foldable host.here trailing path location entry := by
  rw [foldFile_ok_iff below]
  constructor
  · rintro ⟨place, bytes, mode, document, location, led, standing, folded, able⟩
    obtain ⟨_, _, found⟩ := regular location able.named
    obtain ⟨_, led', standing'⟩ := able.resolve_file found
    cases led.symm.trans led'
    cases standing.symm.trans standing'
    exact ⟨location, _, able, _, _, document, found, folded, rfl⟩
  · rintro ⟨location, entry, able, bytes, mode, document, found, folded, rfl⟩
    obtain ⟨place, led, standing⟩ := able.resolve_file found
    exact ⟨place, bytes, mode, document, location, led, standing, folded, able⟩

theorem foldFile_of_foldable (below : host.disk.StagedBelow host.serial)
    (foldable : host.disk.Foldable host.here trailing path location entry) :
    let run := (foldFile path trailing : StateM MemoryHost _) host
    (∃ report, run.1.result = .ok report) ∧
      run.2 = { host with disk := host.disk.insert location entry, serial := host.serial + 1 } := by
  intro run
  obtain ⟨able, bytes, mode, document, found, folded, rfl⟩ := foldable
  obtain ⟨place, led, standing⟩ := able.resolve_file found
  obtain ⟨done, after⟩ := foldFile_of_replaceable below led standing folded able
  exact ⟨⟨_, done⟩, after⟩

/-- The host after a file was folded and confirmed. -/
def MemoryHost.confirmed (host : MemoryHost) (path : Path) (location : Location) (entry : Entry) : MemoryHost :=
  { host with
    disk := host.disk.insert location entry
    serial := host.serial + 1
    output := { host.output with written := host.output.written ++ Utf8.encode (confirmation path) } }

theorem foldInOrder_cons_of_foldable (below : host.disk.StagedBelow host.serial)
    (unlimited : host.output.capacity? = none)
    (foldable : host.disk.Foldable host.here trailing path location entry) (rest : List Path) :
    foldInOrder trailing (path :: rest) host = foldInOrder trailing rest (host.confirmed path location entry) := by
  obtain ⟨⟨report, done⟩, after⟩ := foldFile_of_foldable below foldable
  have taken : host.output.write (Utf8.encode (confirmation path)) =
      (.ok (), { host.output with written := host.output.written ++ Utf8.encode (confirmation path) }) := by
    simp [Sink.write, unlimited]
  rcases folded : (foldFile path trailing : StateM MemoryHost _) host with ⟨outcome, left⟩
  rw [folded] at done after
  dsimp only at done after
  subst left
  simp only [foldInOrder, folded, done, taken, MemoryHost.confirmed]

theorem foldInOrder_cons_of_failed
    (failed : ¬∃ report, ((foldFile path trailing : StateM MemoryHost _) host).1.result = .ok report) (rest : List Path) :
    (foldInOrder trailing (path :: rest) host).1 ≠ .ok () := by
  rcases folded : (foldFile path trailing : StateM MemoryHost _) host with ⟨⟨events, failure | report⟩, left⟩
  · simp [foldInOrder, folded]
  · exact absurd ⟨report, by rw [folded]⟩ failed

/-- The files are all folded if each of them can be folded at the beginning, and what
becomes of each is settled then. -/
theorem foldInOrder_independent (below : host.disk.StagedBelow host.serial)
    (unlimited : host.output.capacity? = none) (independent : host.disk.Independent host.here paths) :
    ((foldInOrder trailing paths host).1 = .ok () ↔
      ∀ path ∈ paths, ∃ location entry, host.disk.Foldable host.here trailing path location entry) ∧
    ((foldInOrder trailing paths host).1 = .ok () →
      let after := (foldInOrder trailing paths host).2
      (∀ path ∈ paths, ∀ location entry, host.disk.Foldable host.here trailing path location entry →
        after.disk.find? location = some entry) ∧
      (∀ location, (∀ path ∈ paths, host.disk.named? host.here path ≠ some location) →
        after.disk.find? location = host.disk.find? location) ∧
      after.output.written = host.output.written ++ confirmations paths) := by
  induction paths generalizing host with
  | nil => simp [foldInOrder, confirmations]
  | cons path rest ih =>
    by_cases able : ∃ location entry, host.disk.Foldable host.here trailing path location entry
    · obtain ⟨location, entry, foldable⟩ := able
      obtain ⟨remain, same⟩ := independent.tail foldable
      have alike := foldable.sameShape
      have below_after : (host.confirmed path location entry).disk.StagedBelow (host.serial + 1) :=
        (below.insert_plain (Disk.named?_isPlain foldable.able.named) entry).mono (Nat.le_succ _)
      obtain ⟨succeeds, effect⟩ := ih below_after unlimited remain
      rw [foldInOrder_cons_of_foldable below unlimited foldable]
      constructor
      · rw [succeeds, List.forall_mem_cons]
        constructor
        · intro all
          refine ⟨⟨location, entry, foldable⟩, fun other member => ?_⟩
          obtain ⟨location', entry', foldable'⟩ := all other member
          exact ⟨location', entry', (same other member location' entry').mp foldable'⟩
        · rintro ⟨_, all⟩ other member
          obtain ⟨location', entry', foldable'⟩ := all other member
          exact ⟨location', entry', (same other member location' entry').mpr foldable'⟩
      · intro done
        obtain ⟨folded, kept, said⟩ := effect done
        refine ⟨?_, ?_, ?_⟩
        · intro other member location' entry' foldable'
          rcases List.mem_cons.mp member with rfl | later
          · obtain ⟨rfl, rfl⟩ := foldable.unique foldable'
            refine (kept location' fun next inside => ?_).trans ?_
            · rw [MemoryHost.confirmed, alike.named?]
              exact (List.pairwise_cons.mp independent.apart).1 next inside location' foldable.able.named
            · rw [MemoryHost.confirmed, Disk.find?_insert, if_pos rfl]
          · exact folded other later location' entry' ((same other later location' entry').mpr foldable')
        · intro location' unnamed
          obtain ⟨first, others⟩ := List.forall_mem_cons.mp unnamed
          refine (kept location' fun next inside => ?_).trans ?_
          · rw [MemoryHost.confirmed, alike.named?]
            exact others next inside
          · rw [MemoryHost.confirmed, Disk.find?_insert, if_neg]
            rintro rfl
            exact first foldable.able.named
        · rw [said, confirmations_cons, ← List.append_assoc]
          rfl
    · have failed := mt (foldFile_ok_iff_foldable below (independent.regular path List.mem_cons_self)).mp able
      have stopped := foldInOrder_cons_of_failed failed rest
      refine ⟨iff_of_false stopped fun all => ?_, fun done => absurd done stopped⟩
      exact able (all path List.mem_cons_self)

end

section

variable {arguments others : List Bytes} {settings : Settings} {permuted : List Path} {host : MemoryHost}

/-- A run over independent files succeeds if each of them can be folded at the
beginning, and then each becomes what it would become alone. -/
theorem run_independent {filter : Log.Filter} (read : readArguments arguments = .ok (.fold settings))
    (parsed : Log.Filter.parse settings.filter = .ok filter) (below : host.disk.StagedBelow host.serial)
    (unlimited : host.output.capacity? = none) (independent : host.disk.Independent host.here settings.paths) :
    let run := (run arguments : StateM MemoryHost ExitStatus) host
    (run.1 = .success ↔
      ∀ path ∈ settings.paths, ∃ location entry,
        host.disk.Foldable host.here settings.trailing path location entry) ∧
    (run.1 = .success →
      (∀ path ∈ settings.paths, ∀ location entry,
        host.disk.Foldable host.here settings.trailing path location entry →
          run.2.disk.find? location = some entry) ∧
      (∀ location, (∀ path ∈ settings.paths, host.disk.named? host.here path ≠ some location) →
        run.2.disk.find? location = host.disk.find? location) ∧
      run.2.output.written = host.output.written ++ confirmations settings.paths) := by
  intro run
  obtain ⟨status, left⟩ : run.1 = _ ∧ run.2.unlogged = _ := run_of_settings read parsed host
  constructor
  · rw [status, process_success_iff]
    exact (foldInOrder_independent below unlimited independent).1
  · intro done
    rw [status, process_success_iff] at done
    rw [process_of_ok done] at left
    have disk : run.2.disk = _ := congrArg (fun host => host.disk) left
    have output : run.2.output = _ := congrArg (fun host => host.output) left
    rw [disk, output]
    exact (foldInOrder_independent below unlimited independent).2 done

/-- The order of independent files does not matter. Whatever the order, the run succeeds
or fails, and if it succeeds every entry of the disk is the same afterwards, and the
confirmations come in the order of the files. -/
theorem run_of_perm (read : readArguments arguments = .ok (.fold settings))
    (read' : readArguments others = .ok (.fold { settings with paths := permuted }))
    (perm : settings.paths.Perm permuted) (below : host.disk.StagedBelow host.serial)
    (unlimited : host.output.capacity? = none) (independent : host.disk.Independent host.here settings.paths) :
    let one := (run arguments : StateM MemoryHost ExitStatus) host
    let other := (run others : StateM MemoryHost ExitStatus) host
    (other.1 = .success ↔ one.1 = .success) ∧
    (one.1 = .success →
      (∀ location, other.2.disk.find? location = one.2.disk.find? location) ∧
      one.2.output.written = host.output.written ++ confirmations settings.paths ∧
      other.2.output.written = host.output.written ++ confirmations permuted) := by
  intro one other
  cases parsed : Log.Filter.parse settings.filter with
  | error unread =>
    cases unread with
    | refused fault =>
      have failed : one = _ := runWith_of_watched (runWith_of_refused [] read parsed)
      have failed' : other = _ := runWith_of_watched (runWith_of_refused [] read' parsed)
      rw [failed, failed']
      exact ⟨Iff.rfl, nofun⟩
    | brokenOff =>
      have broken : one = _ := runWith_of_watched (runWith_of_brokenOff [] read parsed)
      have broken' : other = _ := runWith_of_watched (runWith_of_brokenOff [] read' parsed)
      rw [broken, broken']
      exact ⟨Iff.rfl, nofun⟩
  | ok filter =>
    obtain ⟨succeeds, effect⟩ := run_independent read parsed below unlimited independent
    obtain ⟨succeeds', effect'⟩ := run_independent read' parsed below unlimited (independent.perm perm)
    have both : other.1 = .success ↔ one.1 = .success := by
      refine succeeds'.trans (Iff.trans ?_ succeeds.symm)
      exact forall_congr' fun path => imp_congr_left perm.mem_iff.symm
    refine ⟨both, fun done => ?_⟩
    obtain ⟨folded, kept, said⟩ := effect done
    obtain ⟨folded', kept', said'⟩ := effect' (both.mpr done)
    refine ⟨fun location => ?_, said, said'⟩
    by_cases named : ∃ path ∈ settings.paths, host.disk.named? host.here path = some location
    · obtain ⟨path, member, aimed⟩ := named
      obtain ⟨place, entry, foldable⟩ := succeeds.mp done path member
      cases Option.some.inj (foldable.able.named.symm.trans aimed)
      exact (folded' path (perm.mem_iff.mp member) _ entry foldable).trans (folded path member _ entry foldable).symm
    · have unnamed : ∀ path ∈ settings.paths, host.disk.named? host.here path ≠ some location :=
        fun path member aimed => named ⟨path, member, aimed⟩
      exact (kept' location fun path member => unnamed path (perm.mem_iff.mpr member)).trans (kept location unnamed).symm

end

private def aloneAt : Location := ⟨[], .plain (Utf8.encode "a.js".toList)⟩

private def heldAt : Location := ⟨[Utf8.encode "d".toList], .plain (Utf8.encode "b.js".toList)⟩

private def alonePath : Path := .ofText "a.js".toList

private def heldPath : Path := .ofText "l/b.js".toList

private def mixedBytes : Bytes := Utf8.encode ((Banner.required ++ ["// c".toList]).flatMap Block.plainLine)

/-- Two files, of which one is in a directory that a link leads to. -/
private def mixedHost : MemoryHost :=
  .ofDisk ⟨[(⟨[], .plain (Utf8.encode "l".toList)⟩, .link (.ofText "d".toList)),
    (⟨[], .plain (Utf8.encode "d".toList)⟩, .directory), (aloneAt, .file mixedBytes 0o644),
    (heldAt, .file mixedBytes 0o600)]⟩ []

private def mixedSettings : Settings := ⟨true, none, none, [alonePath, heldPath]⟩

private def mixedArguments (paths : List Path) : List Bytes :=
  Utf8.encode "--close-trailing-block".toList :: paths.map Path.bytes

private theorem mixedHost_below : mixedHost.disk.StagedBelow mixedHost.serial := by
  refine .of_isPlain fun item member => ?_
  simp only [mixedHost, MemoryHost.ofDisk, List.mem_cons, List.not_mem_nil, or_false] at member
  rcases member with rfl | rfl | rfl | rfl <;> rfl

private theorem alone_found : mixedHost.disk.find? aloneAt = some (.file mixedBytes 0o644) := rfl

private theorem held_found : mixedHost.disk.find? heldAt = some (.file mixedBytes 0o600) := rfl

private theorem alone_able : mixedHost.disk.Replaceable mixedHost.here alonePath aloneAt :=
  ⟨rfl, rfl, ⟨_, rfl⟩, rfl, rfl, rfl, by simp [alone_found]⟩

private theorem held_able : mixedHost.disk.Replaceable mixedHost.here heldPath heldAt :=
  ⟨rfl, rfl, ⟨_, rfl⟩, rfl, rfl, rfl, by simp [held_found]⟩

private theorem mixed_independent : mixedHost.disk.Independent mixedHost.here [alonePath, heldPath] := by
  constructor
  · intro path member location named
    rcases List.mem_pair.mp member with rfl | rfl
    · cases Option.some.inj (alone_able.named.symm.trans named)
      exact ⟨_, _, alone_found⟩
    · cases Option.some.inj (held_able.named.symm.trans named)
      exact ⟨_, _, held_found⟩
  · refine List.pairwise_pair.mpr fun location named named' => ?_
    have same := (alone_able.named.symm.trans named).trans (named'.symm.trans held_able.named)
    exact absurd (congrArg Location.holder (Option.some.inj same)) (by decide)

private theorem mixed_foldable {path : Path} {location : Location} {mode : Nat} (trailing : Trailing)
    (able : mixedHost.disk.Replaceable mixedHost.here path location)
    (found : mixedHost.disk.find? location = some (.file mixedBytes mode)) :
    ∃ location entry, mixedHost.disk.Foldable mixedHost.here trailing path location entry := by
  have folded := Document.fold_written path trailing (show ∀ raw ∈ ["// c".toList], '\n' ∉ raw by decide)
  exact ⟨location, _, able, _, _, _, found, folded, rfl⟩

/-- The file behind the link can come first. -/
theorem run_mixed_reversed :
    ((run (mixedArguments [heldPath, alonePath]) : StateM MemoryHost ExitStatus) mixedHost).1 = .success ∧
      ((run (mixedArguments [heldPath, alonePath]) : StateM MemoryHost ExitStatus) mixedHost).2.output.written =
        confirmations [heldPath, alonePath] := by
  have read : readArguments (mixedArguments [alonePath, heldPath]) = .ok (.fold mixedSettings) := rfl
  have read' : readArguments (mixedArguments [heldPath, alonePath]) =
      .ok (.fold { mixedSettings with paths := [heldPath, alonePath] }) := rfl
  obtain ⟨both, effect⟩ :=
    run_of_perm read read' (.swap heldPath alonePath []) mixedHost_below rfl mixed_independent
  obtain ⟨filter, parsed⟩ := parses_of_unset (show mixedSettings.filter? = none from rfl)
  have done := (run_independent read parsed mixedHost_below rfl mixed_independent).1.mpr (by
    intro path member
    rcases List.mem_pair.mp member with rfl | rfl
    · exact mixed_foldable _ alone_able alone_found
    · exact mixed_foldable _ held_able held_found)
  exact ⟨both.mpr done, (effect done).2.2⟩

end CommentFold
