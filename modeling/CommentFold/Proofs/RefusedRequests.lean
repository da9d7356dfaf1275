import CommentFold.Proofs.FoldSuccess

/-! Hosts that refuse requests. A host in memory grants what the shape of its disk allows.
Here it may refuse anything else that it is asked about files: to open one, to read it, to
tell its mode, to stage, to append, to publish or to discard. Whatever it refuses, a fold
leaves each file as it was or as it would have become. -/

namespace CommentFold

/-- What a host can be asked about files. To publish a staged file takes in to make sure
of what was appended. -/
inductive FileRequest where
  | openFile (path : Path)
  | readFile (path : Path)
  | askMode (path : Path)
  | stage (directory : Path) (stem : Bytes)
  | append (staged : Staged)
  | publish (staged : Staged) (target : Path)
  | discard (staged : Staged)
  deriving DecidableEq, Repr

/-- What a host refuses, and with which fault. Of what it refuses to append it may have
written so many bytes. -/
structure Refusals where
  refused? : FileRequest → Option Fault
  written : Nat

/-- The answer to a request, or the fault with which it is refused. -/
def Refusals.unlessRefused {α : Type} (refusals : Refusals) (request : FileRequest) (answer : Except Fault α) :
    Except Fault α :=
  match refusals.refused? request with
  | some fault => .error fault
  | none => answer

/-- A file that was opened, as far as the host lets it be read. -/
def Refusals.hinder (refusals : Refusals) (path : Path) (source : Source) : Source :=
  ⟨refusals.unlessRefused (.readFile path) source.contents, refusals.unlessRefused (.askMode path) source.mode⟩

/-- A host in memory that refuses requests. -/
abbrev Refusing := ReaderT Refusals (StateM MemoryHost)

namespace Refusing

/-- A refused request changes nothing. -/
def ask {α : Type} (request : FileRequest) (granted : StateM MemoryHost (Except Fault α)) :
    Refusing (Except Fault α) :=
  fun refusals host =>
    match refusals.refused? request with
    | some fault => (.error fault, host)
    | none => granted host

instance : Storage Refusing Staged where
  fetch path := fun refusals host =>
    (refusals.unlessRefused (.openFile path) ((host.disk.fetch host.here path).map (refusals.hinder path)), host)
  stage directory stem mode := ask (.stage directory stem) (Storage.stage directory stem mode)
  append staged bytes := fun refusals host =>
    match refusals.refused? (.append staged) with
    | some fault =>
      (.error fault, { host with disk := host.disk.append staged.name (bytes.take refusals.written) })
    | none => (Storage.append staged bytes : StateM MemoryHost _) host
  publish staged target := ask (.publish staged target) (Storage.publish staged target)
  discard staged := ask (.discard staged) (Storage.discard staged)

variable {α β : Type} (refusals : Refusals) (host : MemoryHost)

theorem bind_apply (action : Refusing α) (next : α → Refusing β) :
    (action >>= next) refusals host = next (action refusals host).1 refusals (action refusals host).2 := rfl

theorem pure_apply (value : α) : (pure value : Refusing α) refusals host = (value, host) := rfl

theorem map_apply (change : α → β) (action : Refusing α) :
    (change <$> action) refusals host = (change (action refusals host).1, (action refusals host).2) := rfl

end Refusing

/-- The host after it was asked to discard a staged file. -/
def Refusals.without (refusals : Refusals) (host : MemoryHost) (staged : Staged) : MemoryHost :=
  match refusals.refused? (.discard staged) with
  | some _ => host
  | none => host.without staged

namespace Replacement

variable {refusals : Refusals} {host : MemoryHost} {target : Path} {staged : Staged} {mode : Nat} {bytes : Bytes}
  {fault : Fault}

theorem begin_refused (refused : refusals.refused? (.stage target.stagingDirectory target.stagingStem) = some fault) :
    (begin target mode : Refusing _) refusals host = (.failed (.unwritable target fault), host) := by
  have asked : (Storage.stage target.stagingDirectory target.stagingStem mode : Refusing _) refusals host =
      (.error fault, host) := by
    simp only [Storage.stage, Refusing.ask, refused]
  simp only [begin, Refusing.bind_apply, asked]
  rfl

theorem begin_granted (granted : refusals.refused? (.stage target.stagingDirectory target.stagingStem) = none) :
    (begin target mode : Refusing _) refusals host = (begin target mode : StateM MemoryHost _) host := by
  have asked : (Storage.stage target.stagingDirectory target.stagingStem mode : Refusing _) refusals host =
      (Storage.stage target.stagingDirectory target.stagingStem mode : StateM MemoryHost _) host := by
    simp only [Storage.stage, Refusing.ask, granted]
  simp only [begin, Refusing.bind_apply, asked]
  rcases answered : (Storage.stage target.stagingDirectory target.stagingStem mode : StateM MemoryHost _) host with
    ⟨fault | ⟨staged, name⟩, after⟩
  · simp only [bind, StateT.bind, answered]
    rfl
  · simp only [bind, StateT.bind, answered]
    rfl

theorem drop_refusing (replacement : Replacement Staged) :
    (replacement.drop : Refusing Unit) refusals host = ((), refusals.without host replacement.staged) := by
  simp only [drop, Refusing.bind_apply, Storage.discard, Refusing.ask, Refusals.without]
  split
  · rfl
  · rfl

theorem complete_unwritten (refused : refusals.refused? (.append staged) = some fault) :
    (complete ⟨target, staged⟩ bytes : Refusing _) refusals host =
      (.failed (.unwritable target fault), refusals.without
        { host with disk := host.disk.append staged.name (bytes.take refusals.written) } staged) := by
  simp only [complete, append, Refusing.bind_apply, Storage.append, refused, Refusing.pure_apply, Outcome.failed,
    drop_refusing]

/-- On a full host that discards nothing, what could be written of a replacement stays. -/
example :
    let staged : Staged := ⟨.ofText ".".toList, .staged [] 0⟩
    let spot : Location := ⟨[], staged.name⟩
    let full : Refusals :=
      ⟨fun | .append _ => some (.system 28) | .discard _ => some .permissionDenied | _ => none, 2⟩
    let ran := (complete ⟨.ofText "a".toList, staged⟩ [47, 42, 42] : Refusing _) full
      (.ofDisk ⟨[(spot, .file [] 0o644)]⟩ [])
    ran.1.result = .error (.unwritable (.ofText "a".toList) (.system 28)) ∧
      ran.2.disk.find? spot = some (.file [47, 42] 0o644) := by
  decide +kernel

theorem complete_taken (taken : refusals.refused? (.append staged) = none) :
    (complete ⟨target, staged⟩ bytes : Refusing _) refusals host =
      (commit ⟨target, staged⟩ : Refusing _) refusals { host with disk := host.disk.append staged.name bytes } := by
  simp only [complete, append, Refusing.bind_apply, Storage.append, taken, MemoryHost.change]
  rfl

theorem complete_unpublished (taken : refusals.refused? (.append staged) = none)
    (refused : refusals.refused? (.publish staged target) = some fault) :
    (complete ⟨target, staged⟩ bytes : Refusing _) refusals host =
      (.failed (.uncommitted target fault), refusals.without
        { host with disk := host.disk.append staged.name bytes } staged) := by
  rw [complete_taken taken]
  simp only [commit, Refusing.bind_apply, Storage.publish, Refusing.ask, refused, drop_refusing]
  rfl

/-- A commit that is not refused differs at most in what it leaves behind. -/
theorem commit_granted (host : MemoryHost) (granted : refusals.refused? (.publish staged target) = none) :
    (∃ fault, (commit ⟨target, staged⟩ : StateM MemoryHost _) host =
        (.failed (.uncommitted target fault), host.without staged) ∧
      (commit ⟨target, staged⟩ : Refusing _) refusals host =
        (.failed (.uncommitted target fault), refusals.without host staged)) ∨
    ((commit ⟨target, staged⟩ : StateM MemoryHost _) host).1.result = .ok () ∧
      (commit ⟨target, staged⟩ : Refusing _) refusals host =
        (commit ⟨target, staged⟩ : StateM MemoryHost _) host := by
  have asked : (Storage.publish staged target : Refusing _) refusals host =
      host.change (host.disk.publish host.here staged target) := by
    simp only [Storage.publish, Refusing.ask, granted]
  cases published : host.disk.publish host.here staged target with
  | error fault =>
    left
    rw [published] at asked
    refine ⟨fault, ?_, ?_⟩
    · simp only [commit, bind, StateT.bind, MemoryHost.publish_apply, published, MemoryHost.change]
      rfl
    · simp only [commit, Refusing.bind_apply, asked, MemoryHost.change, drop_refusing]
      rfl
  | ok disk =>
    right
    rw [published] at asked
    rw [commit_of_published published]
    refine ⟨rfl, ?_⟩
    simp only [commit, Refusing.bind_apply, asked, MemoryHost.change]
    rfl

end Replacement

/-! What becomes of a fold -/

/-- A request, and the failure in which a fold ends where it is refused. -/
abbrev Ask := FileRequest × (Fault → Failure)

/-- The failure by the first request that is refused. -/
def Refusals.firstFailure? (refusals : Refusals) (asks : List Ask) : Option Failure :=
  asks.findSome? fun ask => (refusals.refused? ask.1).map ask.2

theorem Refusals.firstFailure?_of_refused {refusals : Refusals} {request : FileRequest} {fault : Fault}
    (refused : refusals.refused? request = some fault) (failure : Fault → Failure) (asks : List Ask) :
    refusals.firstFailure? ((request, failure) :: asks) = some (failure fault) := by
  simp [firstFailure?, refused]

theorem Refusals.firstFailure?_of_granted {refusals : Refusals} {request : FileRequest}
    (granted : refusals.refused? request = none) (failure : Fault → Failure) (asks : List Ask) :
    refusals.firstFailure? ((request, failure) :: asks) = refusals.firstFailure? asks := by
  simp [firstFailure?, granted]

/-- What is asked for, in order, to write a replacement and put it in its place. -/
def completeAsks (staged : Staged) (path : Path) : List Ask :=
  [(.append staged, .unwritable path), (.publish staged path, .uncommitted path)]

/-- What is asked for to replace a file. -/
def replaceAsks (path : Path) (host : MemoryHost) : List Ask :=
  (.askMode path, .modeUnknown path) :: (.stage path.stagingDirectory path.stagingStem, .unwritable path) ::
    completeAsks ⟨path.stagingDirectory, .staged path.stagingStem host.serial⟩ path

/-- What is asked for to fold a file. -/
def foldAsks (path : Path) (host : MemoryHost) : List Ask :=
  (.openFile path, .unreadable path none) :: (.readFile path, .unreadable path (some 0)) :: replaceAsks path host

/-- Every file is as it was on a host, and if staged files can be discarded none more is
left. -/
structure KeepsFiles (refusals : Refusals) (host after : MemoryHost) : Prop where
  seen : after.disk.plain = host.disk.plain
  clean : (∀ staged, refusals.refused? (.discard staged) = none) → after.disk = host.disk

theorem KeepsFiles.refl (refusals : Refusals) (host : MemoryHost) : KeepsFiles refusals host host :=
  ⟨rfl, fun _ => rfl⟩

/-- A staged file that was just made, whatever has been written to it, is given up. -/
theorem KeepsFiles.of_made (refusals : Refusals) {host : MemoryHost} {holder : Place} {staged : Staged}
    (fresh : host.disk.Fresh staged.name) (hidden : staged.name.isPlain = false)
    (reached : host.disk.resolveDirectory host.here staged.directory = .ok holder) (entry : Entry) (bytes : Bytes)
    (serial : Nat) :
    let made := host.disk.insert ⟨holder, staged.name⟩ entry
    KeepsFiles refusals host
      (refusals.without { host with disk := made.append staged.name bytes, serial := serial } staged) := by
  intro made
  have written : made.append staged.name bytes = host.disk.insert ⟨holder, staged.name⟩ (Disk.appendTo bytes entry) :=
    fresh.append_insert holder entry bytes
  rw [written]
  unfold Refusals.without
  split
  next fault refused =>
    refine ⟨host.disk.plain_insert_hidden hidden _, fun granted => ?_⟩
    rw [granted staged] at refused
    cases refused
  next =>
    simp only [MemoryHost.without, fresh.discard_insert hidden reached, MemoryHost.change]
    exact ⟨rfl, fun _ => rfl⟩

/-- What a host that refuses some requests makes of an action on a file, beside what a
host makes of it that refuses none. Only the first request that is refused counts, and
the action has told no more than it would have told. -/
structure Hindered {α : Type} (refusals : Refusals) (asks : List Ask) (host : MemoryHost)
    (free ran : Outcome α × MemoryHost) : Prop where
  told : ran.1.events <+: free.1.events
  done : ∀ value, ran.1.result = .ok value → refusals.firstFailure? asks = none ∧ ran = free
  failed : ∀ failure, ran.1.result = .error failure →
    (refusals.firstFailure? asks = some failure ∨ free.1.result = .error failure) ∧ KeepsFiles refusals host ran.2

namespace Hindered

variable {α : Type} {refusals : Refusals} {asks : List Ask} {host after : MemoryHost} {free : Outcome α × MemoryHost}
  {events : List Event} {failure : Failure}

theorem skip {ran : Outcome α × MemoryHost} {request : FileRequest} (granted : refusals.refused? request = none)
    (hindered : Hindered refusals asks host free ran) (failure : Fault → Failure) :
    Hindered refusals ((request, failure) :: asks) host free ran := by
  have same := Refusals.firstFailure?_of_granted granted failure asks
  refine ⟨hindered.told, ?_, ?_⟩
  · rw [same]
    exact hindered.done
  · rw [same]
    exact hindered.failed

theorem of_refused (first : refusals.firstFailure? asks = some failure) (told : events <+: free.1.events)
    (kept : KeepsFiles refusals host after) : Hindered refusals asks host free (⟨events, .error failure⟩, after) := by
  refine ⟨told, nofun, ?_⟩
  rintro _ ⟨⟩
  exact ⟨.inl first, kept⟩

theorem of_failed (same : free.1 = ⟨events, .error failure⟩) (kept : KeepsFiles refusals host after) :
    Hindered refusals asks host free (⟨events, .error failure⟩, after) := by
  have told : events = free.1.events := by rw [same]
  refine ⟨told ▸ List.prefix_rfl, nofun, ?_⟩
  rintro _ ⟨⟩
  exact ⟨.inr (by rw [same]), kept⟩

theorem of_done (granted : refusals.firstFailure? asks = none) {value : α} (done : free.1.result = .ok value) :
    Hindered refusals asks host free free := by
  refine ⟨List.prefix_rfl, fun _ _ => ⟨granted, rfl⟩, ?_⟩
  intro failure failed
  cases done.symm.trans failed

theorem preceded {ran : Outcome α × MemoryHost} (hindered : Hindered refusals asks host free ran)
    (earlier : List Event) :
    Hindered refusals asks host (free.1.preceded earlier, free.2) (ran.1.preceded earlier, ran.2) := by
  refine ⟨List.prefix_append_right_inj _ |>.mpr hindered.told, ?_, hindered.failed⟩
  intro value done
  obtain ⟨granted, same⟩ := hindered.done value done
  exact ⟨granted, by rw [same]⟩

end Hindered

open Replacement

section

variable {refusals : Refusals} {host middle after : MemoryHost} {path : Path} {source : Source} {mode : Nat}
  {document : Document} {replacement : Replacement Staged} {events told : List Event}

theorem replaceFile_refusing_of_error {failure : Failure} (known : source.mode = .ok mode)
    (begun : (begin path mode : Refusing _) refusals host = (⟨events, .ok replacement⟩, middle))
    (completed : (replacement.complete (Utf8.encode document.contents) : Refusing _) refusals middle =
      (⟨told, .error failure⟩, after)) :
    (replaceFile path source document : Refusing _) refusals host = (⟨events ++ told, .error failure⟩, after) := by
  simp only [replaceFile, known, Refusing.bind_apply, begun, Outcome.andThen_ok, Refusing.map_apply, completed,
    Outcome.andThen_error, Refusing.pure_apply, Outcome.preceded]

theorem replaceFile_refusing_of_ok (known : source.mode = .ok mode)
    (begun : (begin path mode : Refusing _) refusals host = (⟨events, .ok replacement⟩, middle))
    (completed : (replacement.complete (Utf8.encode document.contents) : Refusing _) refusals middle =
      (⟨told, .ok ()⟩, after)) :
    (replaceFile path source document : Refusing _) refusals host =
      (⟨events ++ (told ++ [.folded document.lines document.blocks]),
        .ok ⟨path, document.lines, document.blocks⟩⟩, after) := by
  simp only [replaceFile, known, Refusing.bind_apply, begun, Outcome.andThen_ok, Refusing.map_apply, completed,
    Refusing.pure_apply, Outcome.preceded]

/-- What was told before the contents were complete is told first. -/
theorem begun_told (known : source.mode = .ok mode)
    (begun : (begin path mode : StateM MemoryHost _) host = (⟨events, .ok replacement⟩, middle)) :
    events <+: ((replaceFile path source document : StateM MemoryHost _) host).1.events := by
  rcases completed : (replacement.complete (Utf8.encode document.contents) : StateM MemoryHost _) middle with
    ⟨⟨told, failure | ⟨⟩⟩, after⟩
  · rw [replaceFile_of_error known begun completed]
    exact List.prefix_append events told
  · rw [replaceFile_of_ok known begun completed]
    exact List.prefix_append events _

/-- What remains to be done once the staged file is made. -/
private theorem complete_hindered (refusals : Refusals) {other : Source} {staged : Staged} {holder : Place}
    {entry : Entry} {serial : Nat} (known : source.mode = .ok mode) (told_mode : other.mode = .ok mode)
    (fresh : host.disk.Fresh staged.name) (hidden : staged.name.isPlain = false)
    (reached : host.disk.resolveDirectory host.here staged.directory = .ok holder)
    (made : middle = { host with disk := host.disk.insert ⟨holder, staged.name⟩ entry, serial := serial })
    (begun : (begin path mode : StateM MemoryHost _) host = (⟨events, .ok ⟨path, staged⟩⟩, middle))
    (begins : (begin path mode : Refusing _) refusals host = (⟨events, .ok ⟨path, staged⟩⟩, middle)) :
    Hindered refusals (completeAsks staged path) host
      ((replaceFile path source document : StateM MemoryHost _) host)
      ((replaceFile path other document : Refusing _) refusals host) := by
  subst made
  have told : events <+: ((replaceFile path source document : StateM MemoryHost _) host).1.events :=
    begun_told known begun
  rw [← events.append_nil] at told
  have kept := KeepsFiles.of_made refusals fresh hidden reached entry
  cases appending : refusals.refused? (.append staged) with
  | some fault =>
    rw [replaceFile_refusing_of_error told_mode begins (complete_unwritten appending)]
    exact .of_refused (Refusals.firstFailure?_of_refused appending _ _) told (kept _ _)
  | none =>
    refine .skip appending ?_ _
    cases publishing : refusals.refused? (.publish staged path) with
    | some fault =>
      rw [replaceFile_refusing_of_error told_mode begins (complete_unpublished appending publishing)]
      exact .of_refused (Refusals.firstFailure?_of_refused publishing _ _) told (kept _ _)
    | none =>
      refine .skip publishing ?_ _
      let bytes := Utf8.encode document.contents
      let made : MemoryHost :=
        { host with disk := host.disk.insert ⟨holder, staged.name⟩ entry, serial := serial }
      let appended : MemoryHost := { made with disk := made.disk.append staged.name bytes }
      have taken : (complete ⟨path, staged⟩ bytes : Refusing _) refusals made =
          (commit ⟨path, staged⟩ : Refusing _) refusals appended := complete_taken appending
      rcases commit_granted appended publishing with ⟨fault, free, ran⟩ | ⟨done, same⟩
      · rw [replaceFile_refusing_of_error told_mode begins (taken.trans ran)]
        have failed : (replaceFile path source document : StateM MemoryHost _) host = _ :=
          replaceFile_of_error known begun ((complete_eq _ _ _).trans free)
        exact .of_failed (congrArg Prod.fst failed) (kept _ _)
      · rcases committed : (commit ⟨path, staged⟩ : StateM MemoryHost _) appended with
          ⟨⟨told, failure | ⟨⟩⟩, after⟩
        · rw [committed] at done
          cases done
        · have free : (replaceFile path source document : StateM MemoryHost _) host = _ :=
            replaceFile_of_ok known begun ((complete_eq _ _ _).trans committed)
          rw [replaceFile_refusing_of_ok told_mode begins (taken.trans (same.trans committed)), ← free]
          exact .of_done rfl (congrArg (fun run => run.1.result) free)

theorem replaceFile_hindered (refusals : Refusals) (below : host.disk.StagedBelow host.serial)
    (known : source.mode = .ok mode) :
    Hindered refusals (replaceAsks path host) host
      ((replaceFile path source document : StateM MemoryHost _) host)
      ((replaceFile path (refusals.hinder path source) document : Refusing _) refusals host) := by
  let other := refusals.hinder path source
  change Hindered refusals (replaceAsks path host) host _ ((replaceFile path other document : Refusing _) refusals host)
  cases asking : refusals.refused? (.askMode path) with
  | some fault =>
    have untold : other.mode = .error fault := by
      simp only [other, Refusals.hinder, Refusals.unlessRefused, asking]
    have ran : (replaceFile path other document : Refusing _) refusals host =
        (.failed (.modeUnknown path fault), host) := by
      simp only [replaceFile, untold]
      rfl
    rw [ran]
    exact .of_refused (Refusals.firstFailure?_of_refused asking _ _) List.nil_prefix (.refl refusals host)
  | none =>
    refine .skip asking ?_ _
    have told_mode : other.mode = .ok mode := by
      simp only [other, Refusals.hinder, Refusals.unlessRefused, asking, known]
    have of_unstaged {fault : Fault} (unstaged : (begin path mode : Refusing _) refusals host =
        (.failed (.unwritable path fault), host)) :
        (replaceFile path other document : Refusing _) refusals host = (.failed (.unwritable path fault), host) := by
      simp only [replaceFile, told_mode, Refusing.bind_apply, unstaged]
      rfl
    cases staging : refusals.refused? (.stage path.stagingDirectory path.stagingStem) with
    | some fault =>
      rw [of_unstaged (begin_refused staging)]
      exact .of_refused (Refusals.firstFailure?_of_refused staging _ _) List.nil_prefix (.refl refusals host)
    | none =>
      refine .skip staging ?_ _
      have begins : (begin path mode : Refusing _) refusals host = (begin path mode : StateM MemoryHost _) host :=
        begin_granted staging
      rcases begin_cases path mode host with ⟨fault, unstaged⟩ | ⟨holder, reached, begun⟩
      · have free : (replaceFile path source document : StateM MemoryHost _) host =
            (.failed (.unwritable path fault), host) := by
          simp only [replaceFile, known, bind, StateT.bind, unstaged]
          rfl
        rw [of_unstaged (begins.trans unstaged)]
        exact .of_failed (congrArg Prod.fst free) (.refl refusals host)
      · exact complete_hindered refusals known told_mode (below.fresh path.stagingStem) rfl reached rfl begun
          (begins.trans begun)

theorem foldFile_hindered (refusals : Refusals) (below : host.disk.StagedBelow host.serial) (trailing : Trailing) :
    Hindered refusals (foldAsks path host) host ((foldFile path trailing : StateM MemoryHost _) host)
      ((foldFile path trailing : Refusing _) refusals host) := by
  have opened : (Storage.fetch path : Refusing _) refusals host = (refusals.unlessRefused (.openFile path)
      ((host.disk.fetch host.here path).map (refusals.hinder path)), host) := rfl
  cases opening : refusals.refused? (.openFile path) with
  | some fault =>
    have ran : (foldFile path trailing : Refusing _) refusals host = (.failed (.unreadable path none fault), host) := by
      simp only [foldFile, Refusing.bind_apply, opened, Refusals.unlessRefused, opening]
      rfl
    rw [ran]
    exact .of_refused (Refusals.firstFailure?_of_refused opening _ _) List.nil_prefix (.refl refusals host)
  | none =>
    refine .skip opening ?_ _
    simp only [Refusals.unlessRefused, opening] at opened
    cases fetched : host.disk.fetch host.here path with
    | error fault =>
      rw [fetched] at opened
      have ran : (foldFile path trailing : Refusing _) refusals host =
          (.failed (.unreadable path none fault), host) := by
        simp only [foldFile, Refusing.bind_apply, opened]
        rfl
      have free : (foldFile path trailing : StateM MemoryHost _) host =
          (.failed (.unreadable path none fault), host) := by
        simp only [foldFile, bind, StateT.bind, MemoryHost.fetch_apply, fetched]
        rfl
      rw [ran]
      exact .of_failed (congrArg Prod.fst free) (.refl refusals host)
    | ok source =>
      rw [fetched] at opened
      obtain ⟨mode, known⟩ := Disk.mode_of_fetch fetched
      have ran : (foldFile path trailing : Refusing _) refusals host =
          ((Document.fold path trailing (refusals.hinder path source).lines).andThen
            (replaceFile path (refusals.hinder path source)) : Refusing _) refusals host := by
        simp only [foldFile, Refusing.bind_apply, opened]
        rfl
      rw [ran, foldFile_of_source trailing fetched]
      cases reading : refusals.refused? (.readFile path) with
      | some fault =>
        have unread : Document.fold path trailing (refusals.hinder path source).lines =
            .failed (.unreadable path (some 0) fault) := by
          simp only [Source.lines, Refusals.hinder, Refusals.unlessRefused, reading]
          rfl
        rw [unread]
        exact .of_refused (Refusals.firstFailure?_of_refused reading _ _) List.nil_prefix (.refl refusals host)
      | none =>
        refine .skip reading ?_ _
        have same : (refusals.hinder path source).lines = source.lines := by
          simp only [Source.lines, Refusals.hinder, Refusals.unlessRefused, reading]
        rw [same]
        rcases Document.fold path trailing source.lines with ⟨events, failure | document⟩
        · exact .of_failed rfl (.refl refusals host)
        · exact (replaceFile_hindered refusals below known).preceded events

end

/-- Every request that can be refused names the file if it fails. -/
theorem path_of_firstFailure? {refusals : Refusals} {path : Path} {host : MemoryHost} {failure : Failure}
    (first : refusals.firstFailure? (foldAsks path host) = some failure) : failure.path = path := by
  obtain ⟨ask, member, refused⟩ := List.exists_of_findSome?_eq_some first
  obtain ⟨fault, _, rfl⟩ := Option.map_eq_some_iff.mp refused
  simp only [foldAsks, replaceAsks, completeAsks, List.mem_cons, List.not_mem_nil, or_false] at member
  rcases member with rfl | rfl | rfl | rfl | rfl | rfl <;> rfl

/-- Folding a file is all or nothing on a host that may refuse any request. It succeeds if
it would succeed with nothing refused, and no request on the way is refused; then nothing
is different. It fails with the first request that is refused, if it does not fail before.
A failure names the file. After it every file is as it was, and a staged file is left behind only
where the host refuses to discard it. -/
theorem foldFile_under_refusals (refusals : Refusals) (host : MemoryHost) (below : host.disk.StagedBelow host.serial)
    (path : Path) (trailing : Trailing) :
    let free := (foldFile path trailing : StateM MemoryHost _) host
    let ran := (foldFile path trailing : Refusing _) refusals host
    let first? := refusals.firstFailure? (foldAsks path host)
    (∀ report, ran.1.result = .ok report ↔ first? = none ∧ free.1.result = .ok report) ∧
    (∀ report, ran.1.result = .ok report → ran = free) ∧
    (∀ failure, ran.1.result = .error failure →
      (first? = some failure ∨ free.1.result = .error failure) ∧ failure.path = path ∧
      ran.2.disk.plain = host.disk.plain ∧
      ((∀ staged, refusals.refused? (.discard staged) = none) → ran.2.disk = host.disk)) ∧
    ran.1.events <+: free.1.events := by
  intro free ran first?
  have hindered : Hindered refusals (foldAsks path host) host free ran := foldFile_hindered refusals below trailing
  refine ⟨?_, fun report done => (hindered.done report done).2, ?_, hindered.told⟩
  · intro report
    constructor
    · intro done
      obtain ⟨granted, same⟩ := hindered.done report done
      exact ⟨granted, same ▸ done⟩
    · intro ⟨granted, done⟩
      cases ended : ran.1.result with
      | ok other =>
        rw [(hindered.done other ended).2, done] at ended
        rw [ended]
      | error failure =>
        rcases (hindered.failed failure ended).1 with refused | failed
        · cases granted.symm.trans refused
        · cases done.symm.trans failed
  · intro failure ended
    obtain ⟨cause, kept⟩ := hindered.failed failure ended
    refine ⟨cause, ?_, kept.seen, kept.clean⟩
    rcases cause with refused | failed
    · exact path_of_firstFailure? refused
    · exact (foldFile_failed below failed).1

end CommentFold
