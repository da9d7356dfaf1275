import CommentFold.Proofs.OneByOne

/-! Whole runs. What a run leaves on the disk, what it says and how it ends are those of
its files one after the other, and no file after the last is opened. -/

namespace CommentFold

open CommandLine

namespace MemoryHost

/-- The host after a line was complained on it. -/
def heard (host : MemoryHost) (line : Text) : MemoryHost :=
  { host with errors := (host.errors.write (Utf8.encode (line ++ ['\n']))).2 }

/-- The host after a fault was complained about. -/
def complained (host : MemoryHost) (fault : RunFault) : MemoryHost := host.heard fault.message

end MemoryHost

section

variable {reader : Log.FilterReader} {arguments : List Bytes} {opened noted : List Path} {host after : MemoryHost}

theorem runWith_of_watched {status : ExitStatus}
    (watched : (runWith reader arguments : Watched _) opened host = ((status, noted), after)) :
    (runWith reader arguments : StateM MemoryHost _) host = (status, after) := by
  obtain ⟨more, same⟩ := Watched.running.runWith reader arguments opened host
  rw [watched] at same
  obtain ⟨first, rfl⟩ := Prod.mk.inj same
  rw [(Prod.mk.inj first).1]
  rfl

section

variable {action : Watched (Except RunFault Unit)} (asked : answer? reader arguments = some action)

include asked

theorem runWith_of_ok (answered : action opened host = ((.ok (), noted), after)) :
    (runWith reader arguments : Watched _) opened host = ((.success, noted), after) := by
  simp only [runWith, asked, conclude, bind, StateT.bind, answered]
  rfl

theorem runWith_of_error {fault : RunFault} (answered : action opened host = ((.error fault, noted), after)) :
    (runWith reader arguments : Watched _) opened host = ((.failure, noted), after.complained fault) := by
  simp only [runWith, asked, conclude, bind, StateT.bind, answered]
  rfl

end

section

variable (opened) {settings : Settings} (read : readArguments arguments = .ok (.fold settings))

include read

theorem runWith_of_refused {fault : Log.FilterFault} (refused : reader settings.filter = .error (.refused fault)) :
    (runWith reader arguments : Watched _) opened host =
      ((.failure, opened), host.complained (.badFilter settings.filter fault)) := by
  have asked : (answer? reader arguments : Option (Watched _)) =
      some (pure (.error (.badFilter settings.filter fault))) := by
    simp only [answer?, read, refused]
  exact runWith_of_error asked rfl

theorem runWith_of_brokenOff (broken : reader settings.filter = .error .brokenOff) :
    (runWith reader arguments : Watched _) opened host = ((.brokenOff, opened), host) := by
  simp only [runWith, answer?, read, broken]
  rfl

end

section

variable {settings : Settings} {filter : Log.Filter}

theorem answer?_of_accepted (read : readArguments arguments = .ok (.fold settings))
    (accepted : reader settings.filter = .ok filter) :
    (answer? reader arguments : Option (Watched _)) = some (execute filter settings) := by
  simp only [answer?, read, accepted]

theorem execute_files (filter : Log.Filter) (settings : Settings) (opened : List Path) (host : MemoryHost) :
    ∃ plan log, (execute filter settings : Watched _) opened host =
      (foldEach plan settings.trailing settings.paths : Watched _) opened (host.saying host.output.written log) := by
  let plan : LogPlan := ⟨filter, settings.format⟩
  obtain ⟨log, recorded⟩ := Watched.record_apply plan none [.started settings.paths.length] opened host
  refine ⟨plan, log, ?_⟩
  simp only [execute, bind, StateT.bind]
  exact congrArg (fun step => (foldEach plan settings.trailing settings.paths : Watched _) step.1.2 step.2) recorded

variable (asked : (answer? reader arguments : Option (Watched _)) = some (execute filter settings))
  (below : host.disk.StagedBelow host.serial) (quiet : host.output.written = [])

include asked below quiet

end

end

end CommentFold
