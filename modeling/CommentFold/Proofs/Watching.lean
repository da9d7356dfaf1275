import CommentFold.MemoryHost
import CommentFold.Proofs.Alike
import CommentFold.Proofs.FoldSuccess

/-! Looking on. A host can be watched for the paths that are opened on it, and that makes
no difference to what it does. What is said on it makes no difference to files. -/

namespace CommentFold

/-- A host that also notes, in order, which paths are opened. -/
abbrev Watched := StateT (List Path) (StateM MemoryHost)

namespace Watched

/-- What the host does without anybody noting it. -/
def unnoted {α : Type} (action : StateM MemoryHost α) : Watched α := StateT.lift action

instance : Storage Watched Staged where
  fetch path := fun opened => unnoted (Storage.fetch path) (opened ++ [path])
  stage directory stem mode := unnoted (Storage.stage directory stem mode)
  append staged bytes := unnoted (Storage.append staged bytes)
  publish staged target := unnoted (Storage.publish staged target)
  discard staged := unnoted (Storage.discard staged)

instance : Console Watched where
  print bytes := unnoted (Console.print bytes)
  complain bytes := unnoted (Console.complain bytes)
  log line := unnoted (Console.log line)

/-- The host does the same, and the watch has nothing to note. -/
def Unseen ⦃α : Type⦄ (plain : StateM MemoryHost α) (watched : Watched α) : Prop := watched = unnoted plain

/-- The host does the same, whatever is noted. -/
def Follows ⦃α : Type⦄ (plain : StateM MemoryHost α) (watched : Watched α) : Prop :=
  ∀ opened host, ∃ more, watched opened host = (((plain host).1, opened ++ more), (plain host).2)

theorem unnoted_apply {α : Type} (action : StateM MemoryHost α) (opened : List Path) (host : MemoryHost) :
    unnoted action opened host = (((action host).1, opened), (action host).2) := rfl

theorem Unseen.follows {α : Type} {plain : StateM MemoryHost α} {watched : Watched α}
    (unseen : Unseen plain watched) : Follows plain watched := by
  intro opened host
  exact ⟨[], by rw [unseen, unnoted_apply, List.append_nil]⟩

theorem staging : Staging Unseen where
  pure _ := rfl
  bind first later := by
    rw [Unseen, first, funext later]
    rfl
  stage _ _ _ := rfl
  append _ _ := rfl
  publish _ _ := rfl
  discard _ := rfl

theorem running : Running Follows where
  pure value := Unseen.follows (staging.pure value)
  bind {_ _ first second next later} alike after := by
    intro opened host
    obtain ⟨early, same⟩ := alike opened host
    obtain ⟨late, rest⟩ := after (first host).1 (opened ++ early) (first host).2
    refine ⟨early ++ late, ?_⟩
    rw [← List.append_assoc]
    refine Eq.trans ?_ rest
    exact congrArg (fun run => later run.1.1 run.1.2 run.2) same
  stage directory stem mode := Unseen.follows (staging.stage directory stem mode)
  append staged bytes := Unseen.follows (staging.append staged bytes)
  publish staged target := Unseen.follows (staging.publish staged target)
  discard staged := Unseen.follows (staging.discard staged)
  fetch path opened host := ⟨[path], rfl⟩
  print bytes := Unseen.follows rfl
  complain bytes := Unseen.follows rfl
  log line := Unseen.follows rfl

private theorem fetch_bind {α : Type} {next : Except Fault Source → StateM MemoryHost α}
    {later : Except Fault Source → Watched α} (unseen : ∀ fetched, Unseen (next fetched) (later fetched)) (path : Path)
    (opened : List Path) (host : MemoryHost) :
    (Storage.fetch path >>= later : Watched α) opened host =
      ((((Storage.fetch path >>= next : StateM MemoryHost α) host).1, opened ++ [path]),
        ((Storage.fetch path >>= next : StateM MemoryHost α) host).2) := by
  change later (host.disk.fetch host.here path) (opened ++ [path]) host = _
  rw [unseen]
  rfl

theorem foldFile_apply (path : Path) (trailing : Trailing) (opened : List Path) (host : MemoryHost) :
    (foldFile path trailing : Watched _) opened host =
      ((((foldFile path trailing : StateM MemoryHost _) host).1, opened ++ [path]),
        ((foldFile path trailing : StateM MemoryHost _) host).2) := by
  refine fetch_bind ?_ path opened host
  rintro (fault | source)
  · rfl
  · exact staging.andThen _ fun document => staging.replaceFile path source document

open CommandLine

theorem record_apply (plan : LogPlan) (scope? : Option Scope) (events : List Event) (opened : List Path)
    (host : MemoryHost) :
    ∃ log, (plan.record scope? events : Watched Unit) opened host = (((), opened), { host with log := log }) := by
  induction events generalizing host with
  | nil => exact ⟨host.log, rfl⟩
  | cons event rest ih =>
    unfold LogPlan.record
    cases Log.line? plan.filter plan.format scope? event with
    | none => exact ih host
    | some line => exact ih { host with log := host.log.push line }

theorem print_apply (text : Text) (opened : List Path) (host : MemoryHost) :
    (CommandLine.print text : Watched _) opened host =
      (((host.output.write (Utf8.encode text)).1.mapError .output, opened),
        { host with output := (host.output.write (Utf8.encode text)).2 }) := by
  have printed : (Console.print (Utf8.encode text) : Watched _) opened host =
      (((host.output.write (Utf8.encode text)).1, opened),
        { host with output := (host.output.write (Utf8.encode text)).2 }) := rfl
  simp only [CommandLine.print, bind, StateT.bind, printed]
  cases (host.output.write (Utf8.encode text)).1 <;> rfl

end Watched

/-! Speech makes no difference to files -/

namespace MemoryHost

/-- The host when something else was said on it. -/
def saying (host : MemoryHost) (written : Bytes) (log : Array Text) : MemoryHost :=
  { host with output := { host.output with written := written }, log := log }

theorem saying_below (host : MemoryHost) (below : host.disk.StagedBelow host.serial) (written : Bytes)
    (log : Array Text) : (host.saying written log).disk.StagedBelow (host.saying written log).serial := below

/-- A host does the same whatever was said on it, and says nothing. -/
def Mute ⦃α : Type⦄ (action again : StateM MemoryHost α) : Prop :=
  ∀ host output errors log, again { host with output := output, errors := errors, log := log } =
    ((action host).1, { (action host).2 with output := output, errors := errors, log := log })

private theorem mute_change (next : MemoryHost → Except Fault Disk)
    (blind : ∀ host output errors log,
      next { host with output := output, errors := errors, log := log } = next host) :
    Mute (fun host => host.change (next host)) (fun host => host.change (next host)) := by
  intro host output errors log
  simp only [blind]
  cases next host <;> rfl

theorem mute : Staging Mute where
  pure _ _ _ _ _ := rfl
  bind {_ _ first second next later} alike after := by
    intro host output errors log
    exact (congrArg (fun run => later run.1 run.2) (alike host output errors log)).trans
      (after (first host).1 (first host).2 output errors log)
  stage directory stem mode host output errors log := by
    simp only [stage_apply, stage]
    split <;> rfl
  append staged bytes := mute_change _ fun _ _ _ _ => rfl
  publish staged target := mute_change _ fun _ _ _ _ => rfl
  discard staged := mute_change _ fun _ _ _ _ => rfl

theorem mute_foldFile (path : Path) (trailing : Trailing) :
    Mute (foldFile path trailing : StateM MemoryHost _) (foldFile path trailing) :=
  mute.foldFile path trailing fun _ _ _ _ => rfl

section

variable (path : Path) (trailing : Trailing) (host : MemoryHost)

theorem foldFile_silent :
    ((foldFile path trailing : StateM MemoryHost _) host).2.output = host.output ∧
      ((foldFile path trailing : StateM MemoryHost _) host).2.errors = host.errors := by
  have same := mute_foldFile path trailing host host.output host.errors host.log
  exact ⟨congrArg (fun run => run.2.output) same, congrArg (fun run => run.2.errors) same⟩

theorem foldFile_saying (written : Bytes) (log : Array Text) :
    (foldFile path trailing : StateM MemoryHost _) (host.saying written log) =
      (((foldFile path trailing : StateM MemoryHost _) host).1,
        ((foldFile path trailing : StateM MemoryHost _) host).2.saying written log) := by
  obtain ⟨output, errors⟩ := foldFile_silent path trailing host
  rw [saying, saying, output]
  refine (mute_foldFile path trailing host _ host.errors log).trans ?_
  rw [← errors]

theorem foldFile_below (below : host.disk.StagedBelow host.serial) :
    ((foldFile path trailing : StateM MemoryHost _) host).2.disk.StagedBelow
      ((foldFile path trailing : StateM MemoryHost _) host).2.serial := by
  rcases foldFile_cases below path trailing with
    ⟨_, _, serial, _, grown, failed⟩ | ⟨_, _, _, _, location, _, _, _, _, named, done⟩
  · rw [failed]
    exact below.mono grown
  · rw [done]
    exact (below.insert_plain (Disk.named?_isPlain named) _).mono (Nat.le_succ _)

end

end MemoryHost

end CommentFold
