import CommentFold.Proofs.EventLog
import CommentFold.Proofs.SequentialRun

/-! What of a run does not depend on its log. Files are folded and confirmed one after
the other, and the first fault ends that. A run does this with the files of its
settings, and what it logs besides leaves everything else as it is. -/

namespace CommentFold

open CommandLine

namespace MemoryHost

/-- The host without what was logged on it. -/
def unlogged (host : MemoryHost) : MemoryHost := { host with log := #[] }

variable {host other : MemoryHost}

theorem unlogged_eq_iff : host.unlogged = other.unlogged ↔ host = { other with log := host.log } := by
  cases host
  cases other
  simp [unlogged]

theorem foldFile_unlogged (path : Path) (trailing : Trailing) (same : host.unlogged = other.unlogged) :
    ((foldFile path trailing : StateM MemoryHost _) host).1 = ((foldFile path trailing : StateM MemoryHost _) other).1 ∧
      ((foldFile path trailing : StateM MemoryHost _) host).2.unlogged =
        ((foldFile path trailing : StateM MemoryHost _) other).2.unlogged := by
  have logged := mute_foldFile path trailing other other.output other.errors host.log
  rw [unlogged_eq_iff] at same
  have folded : (foldFile path trailing : StateM MemoryHost _) host = _ := (congrArg _ same).trans logged
  obtain ⟨output, errors⟩ := foldFile_silent path trailing other
  rw [folded]
  refine ⟨rfl, ?_⟩
  simp only [unlogged, ← output, ← errors]

end MemoryHost

/-- A report is about the file that was folded. -/
theorem foldFile_path {host : MemoryHost} {path : Path} {trailing : Trailing} {report : Report}
    (done : ((foldFile path trailing : StateM MemoryHost _) host).1.result = .ok report) : report.path = path := by
  cases opened : host.disk.fetch host.here path with
  | error fault =>
    simp only [foldFile, bind, StateT.bind, MemoryHost.fetch_apply, opened] at done
    cases done
  | ok source =>
    rw [foldFile_of_source trailing opened] at done
    obtain ⟨mode, known⟩ := Disk.mode_of_fetch opened
    rcases folded : Document.fold path trailing source.lines with ⟨events, failure | document⟩
    · rw [folded] at done
      cases done
    · rw [folded, Outcome.andThen_ok] at done
      obtain ⟨_, rfl, _⟩ := (replaceFile_told path source document known host).2.2 report done
      rfl

/-- Files are folded and confirmed in their order, up to the first fault. -/
def foldInOrder (trailing : Trailing) : List Path → MemoryHost → Except RunFault Unit × MemoryHost
  | [], host => (.ok (), host)
  | path :: rest, host =>
    let (outcome, after) := (foldFile path trailing : StateM MemoryHost _) host
    match outcome.result with
    | .error failure => (.error (.file failure), after)
    | .ok _ =>
      let (answer, output) := after.output.write (Utf8.encode (confirmation path))
      match answer with
      | .error fault => (.error (.output fault), { after with output := output })
      | .ok () => foldInOrder trailing rest { after with output := output }

/-- The fault that ended the files is complained about. -/
def process (trailing : Trailing) (paths : List Path) (host : MemoryHost) : ExitStatus × MemoryHost :=
  match foldInOrder trailing paths host with
  | (.ok (), after) => (.success, after)
  | (.error fault, after) => (.failure, after.complained fault)

theorem process_success_iff {trailing : Trailing} {paths : List Path} {host : MemoryHost} :
    (process trailing paths host).1 = .success ↔ (foldInOrder trailing paths host).1 = .ok () := by
  unfold process
  split
  next _ folded => simp [folded]
  next _ _ folded => simp [folded]

theorem process_of_ok {trailing : Trailing} {paths : List Path} {host : MemoryHost}
    (done : (foldInOrder trailing paths host).1 = .ok ()) :
    (process trailing paths host).2 = (foldInOrder trailing paths host).2 := by
  unfold process
  split
  next _ folded => rw [folded]
  next _ _ folded =>
    rw [folded] at done
    cases done

theorem foldEach_inOrder (plan : LogPlan) (trailing : Trailing) (paths opened : List Path) {host other : MemoryHost}
    (same : host.unlogged = other.unlogged) :
    let run := (foldEach plan trailing paths : Watched _) opened host
    run.1.1 = (foldInOrder trailing paths other).1 ∧
      run.2.unlogged = (foldInOrder trailing paths other).2.unlogged := by
  induction paths generalizing opened host other with
  | nil => exact ⟨rfl, same⟩
  | cons path rest ih =>
    intro run
    obtain ⟨outcomes, after⟩ := MemoryHost.foldFile_unlogged path trailing same
    rcases first : (foldFile path trailing : StateM MemoryHost _) host with ⟨outcome, left⟩
    rcases second : (foldFile path trailing : StateM MemoryHost _) other with ⟨_, right⟩
    rw [first, second] at outcomes after
    cases outcomes
    obtain ⟨log, recorded⟩ := Watched.record_apply plan (some ⟨path⟩) outcome.events (opened ++ [path]) left
    cases ended : outcome.result with
    | error failure =>
      simp only [run, foldEach, bind, StateT.bind, Watched.foldFile_apply, first, recorded, ended, foldInOrder, second]
      exact ⟨rfl, after⟩
    | ok report =>
      have named : report.path = path := foldFile_path (by rw [first]; exact ended)
      have sinks : left.output = right.output := congrArg (fun host => host.output) after
      have spoken (output : Sink) (log : Array Text) : { left with output := output, log := log }.unlogged =
          { right with output := output }.unlogged := congrArg (fun host => { host with output := output }) after
      simp only [run, foldEach, bind, StateT.bind, Watched.foldFile_apply, first, recorded, ended, foldInOrder, second,
        Watched.print_apply, named, sinks]
      rcases right.output.write (Utf8.encode (confirmation path)) with ⟨fault | ⟨⟩, output⟩
      · exact ⟨rfl, spoken output log⟩
      · exact ih (opened ++ [path]) (spoken output log)

theorem parses_of_isOk {text : Text} (sound : (Log.Filter.parse text).isOk = true) :
    ∃ filter, Log.Filter.parse text = .ok filter := by
  cases parsed : Log.Filter.parse text with
  | ok filter => exact ⟨filter, rfl⟩
  | error unread =>
    rw [parsed] at sound
    cases sound

/-- The filter that stands where none is set can be read. -/
theorem parses_of_unset {settings : Settings} (unset : settings.filter? = none) :
    ∃ filter, Log.Filter.parse settings.filter = .ok filter := by
  rw [Settings.filter, unset]
  exact parses_of_isOk rfl

/-- A run is what becomes of its files, whatever it logs. -/
theorem run_of_settings {arguments : List Bytes} {settings : Settings} {filter : Log.Filter}
    (read : readArguments arguments = .ok (.fold settings)) (parsed : Log.Filter.parse settings.filter = .ok filter)
    (host : MemoryHost) :
    let run := (run arguments : StateM MemoryHost ExitStatus) host
    let ended := process settings.trailing settings.paths host
    run.1 = ended.1 ∧ run.2.unlogged = ended.2.unlogged := by
  intro ran ended
  have asked := answer?_of_accepted read parsed
  obtain ⟨plan, log, answered⟩ := execute_files filter settings [] host
  obtain ⟨result, left⟩ := foldEach_inOrder plan settings.trailing settings.paths []
    (show (host.saying host.output.written log).unlogged = host.unlogged from rfl)
  rw [← answered] at result left
  rcases told : (execute filter settings : Watched _) [] host with ⟨⟨came, noted⟩, after⟩
  rcases expected : foldInOrder settings.trailing settings.paths host with ⟨wanted, right⟩
  rw [told, expected] at result left
  cases result
  simp only [ran, run, ended, process, expected]
  cases came with
  | ok =>
    rw [runWith_of_watched (runWith_of_ok asked told)]
    exact ⟨rfl, left⟩
  | error fault =>
    rw [runWith_of_watched (runWith_of_error asked told)]
    exact ⟨rfl, congrArg (fun host => host.complained fault) left⟩

end CommentFold
