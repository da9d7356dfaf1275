import CommentFold.Proofs.SequentialRun
import CommentFold.Proofs.RefusedRequests

/-! Whole runs on a host that refuses requests. A run goes on after a file only if nothing
was refused there, so a refusal can hinder it at its last file alone. -/

namespace CommentFold

open CommandLine

namespace Refusing

/-- The host is heard as ever. -/
def spoken {α : Type} (action : StateM MemoryHost α) : Refusing α := fun _ => action

instance : Console Refusing where
  print bytes := spoken (Console.print bytes)
  complain bytes := spoken (Console.complain bytes)
  log line := spoken (Console.log line)

variable (refusals : Refusals) (host : MemoryHost)

theorem record_apply (plan : LogPlan) (scope? : Option Scope) (events : List Event) :
    ∃ log, (plan.record scope? events : Refusing Unit) refusals host = ((), { host with log := log }) := by
  induction events generalizing host with
  | nil => exact ⟨host.log, rfl⟩
  | cons event rest ih =>
    unfold LogPlan.record
    cases Log.line? plan.filter plan.format scope? event with
    | none => exact ih host
    | some line => exact ih { host with log := host.log.push line }

theorem print_apply (text : Text) :
    ∃ written, (CommandLine.print text : Refusing _) refusals host =
      ((host.output.write (Utf8.encode text)).1.mapError .output, host.saying written host.log) := by
  have printed : (Console.print (Utf8.encode text) : Refusing _) refusals host =
      ((host.output.write (Utf8.encode text)).1,
        { host with output := (host.output.write (Utf8.encode text)).2 }) := rfl
  refine ⟨(host.output.write (Utf8.encode text)).2.written, ?_⟩
  simp only [CommandLine.print, bind_apply, printed]
  cases (host.output.write (Utf8.encode text)).1 <;> rfl

end Refusing

/-- Some of the first files are folded as on a host that refuses nothing, and all of them
if the run is done. -/
def FoldsFirst (refusals : Refusals) (trailing : Trailing) (host : MemoryHost) (paths : List Path) (done : Prop)
    (after : MemoryHost) : Prop :=
  ∃ count ≤ paths.length, (done → count = paths.length) ∧
    KeepsFiles refusals (foldAll trailing host (paths.take count)) after

namespace FoldsFirst

variable {refusals : Refusals} {trailing : Trailing} {host after : MemoryHost} {path : Path} {paths : List Path}
  {done : Prop}

theorem of_undone (undone : ¬done) (kept : KeepsFiles refusals host after) :
    FoldsFirst refusals trailing host paths done after :=
  ⟨0, Nat.zero_le _, fun ended => absurd ended undone, kept⟩

theorem of_saying {written : Bytes} {log : Array Text}
    (folds : FoldsFirst refusals trailing (host.saying written log) paths done after) :
    FoldsFirst refusals trailing host paths done after := by
  obtain ⟨count, within, whole, kept⟩ := folds
  rw [foldAll_saying] at kept
  exact ⟨count, within, whole, kept.seen, kept.clean⟩

theorem cons (folds : FoldsFirst refusals trailing ((foldFile path trailing : StateM MemoryHost _) host).2 paths
    done after) : FoldsFirst refusals trailing host (path :: paths) done after := by
  obtain ⟨count, within, whole, kept⟩ := folds
  exact ⟨count + 1, Nat.succ_le_succ within, fun ended => congrArg (· + 1) (whole ended), kept⟩

end FoldsFirst

section

variable {host : MemoryHost}

theorem foldEach_refusing (refusals : Refusals) (trailing : Trailing) (plan : LogPlan) (paths : List Path)
    (below : host.disk.StagedBelow host.serial) :
    let ran := (foldEach plan trailing paths : Refusing _) refusals host
    FoldsFirst refusals trailing host paths (ran.1 = .ok ()) ran.2 := by
  induction paths generalizing host with
  | nil => exact ⟨0, Nat.le_refl 0, fun _ => rfl, .refl refusals host⟩
  | cons path rest ih =>
    intro ran
    obtain ⟨_, same, failed, _⟩ := foldFile_under_refusals refusals host below path trailing
    rcases folded : (foldFile path trailing : Refusing _) refusals host with ⟨outcome, after⟩
    rw [folded] at same failed
    obtain ⟨log, recorded⟩ := Refusing.record_apply refusals after plan (some ⟨path⟩) outcome.events
    cases ended : outcome.result with
    | error failure =>
      have last : ran = (.error (.file failure), { after with log := log }) := by
        simp only [ran, foldEach, Refusing.bind_apply, folded, recorded, ended]
        rfl
      obtain ⟨_, _, seen, clean⟩ := failed failure ended
      rw [last]
      exact .of_undone (by simp) ⟨seen, clean⟩
    | ok report =>
      obtain ⟨written, printed⟩ := Refusing.print_apply refusals { after with log := log } (confirmation report.path)
      have here : after = ((foldFile path trailing : StateM MemoryHost _) host).2 :=
        congrArg Prod.snd (same report ended)
      apply FoldsFirst.cons
      rw [← here]
      cases taken : (after.output.write (Utf8.encode (confirmation report.path))).1 with
      | error fault =>
        have last : ran = (.error (.output fault), after.saying written log) := by
          simp only [ran, foldEach, Refusing.bind_apply, folded, recorded, ended, printed, taken]
          rfl
        rw [last]
        exact .of_undone (by simp) ⟨rfl, fun _ => rfl⟩
      | ok =>
        have on : ran = (foldEach plan trailing rest : Refusing _) refusals (after.saying written log) := by
          simp only [ran, foldEach, Refusing.bind_apply, folded, recorded, ended, printed, taken]
          rfl
        have below_after : after.disk.StagedBelow after.serial := by
          rw [here]
          exact MemoryHost.foldFile_below path trailing host below
        rw [on]
        exact .of_saying (ih (after.saying_below below_after written log))

private theorem answer?_refusing (refusals : Refusals) {reader : Log.FilterReader} {arguments : List Bytes}
    {settings : Settings} (read : readArguments arguments = .ok (.fold settings))
    (below : host.disk.StagedBelow host.serial)
    {action : Refusing (Except RunFault Unit)} (asked : answer? reader arguments = some action) :
    FoldsFirst refusals settings.trailing host settings.paths ((action refusals host).1 = .ok ())
      (action refusals host).2 := by
  simp only [answer?, read] at asked
  split at asked
  next filter _ =>
    cases asked
    let plan : LogPlan := ⟨filter, settings.format⟩
    obtain ⟨log, recorded⟩ := Refusing.record_apply refusals host plan none [.started settings.paths.length]
    have started : (execute filter settings : Refusing _) refusals host =
        (foldEach plan settings.trailing settings.paths : Refusing _) refusals
          (host.saying host.output.written log) := by
      simp only [execute, Refusing.bind_apply, recorded, plan]
      rfl
    rw [started]
    exact .of_saying (foldEach_refusing refusals settings.trailing plan settings.paths
      (host.saying_below below host.output.written log))
  next fault _ =>
    cases asked
    rw [Refusing.pure_apply]
    exact .of_undone (by simp) (.refl refusals host)
  next => cases asked

/-- However a host refuses requests, a run leaves the files as folding some of its first
paths one after the other leaves them on a host that refuses none, and all of its paths if it
succeeds. No file is ever left half written. -/
theorem runWith_under_refusals (reader : Log.FilterReader) (refusals : Refusals) (host : MemoryHost)
    (below : host.disk.StagedBelow host.serial) {arguments : List Bytes} {settings : Settings}
    (read : readArguments arguments = .ok (.fold settings)) :
    let ran := (runWith reader arguments : Refusing ExitStatus) refusals host
    ∃ count ≤ settings.paths.length, (ran.1 = .success → count = settings.paths.length) ∧
      let left := foldAll settings.trailing host (settings.paths.take count)
      ran.2.disk.plain = left.disk.plain ∧
      ((∀ staged, refusals.refused? (.discard staged) = none) → ran.2.disk = left.disk) := by
  intro ran
  have folds : FoldsFirst refusals settings.trailing host settings.paths (ran.1 = .success) ran.2 := by
    cases asked : (answer? reader arguments : Option (Refusing _)) with
    | none =>
      have broken : ran = (.brokenOff, host) := by
        simp only [ran, runWith, asked]
        rfl
      rw [broken]
      exact .of_undone (by simp) (.refl refusals host)
    | some action =>
      obtain ⟨count, within, whole, kept⟩ := answer?_refusing refusals read below asked
      have concluded : ran = (conclude action : Refusing _) refusals host := by
        simp only [ran, runWith, asked]
      rcases answered : action refusals host with ⟨fault | ⟨⟩, after⟩
      · rw [answered] at kept
        have ended : ran = (.failure, after.complained fault) := by
          simp only [concluded, conclude, Refusing.bind_apply, answered]
          rfl
        rw [ended]
        exact ⟨count, within, fun done => absurd done (by simp), kept.seen, kept.clean⟩
      · rw [answered] at whole kept
        have ended : ran = (.success, after) := by
          simp only [concluded, conclude, Refusing.bind_apply, answered]
          rfl
        rw [ended]
        exact ⟨count, within, fun _ => whole rfl, kept⟩
  obtain ⟨count, within, whole, kept⟩ := folds
  exact ⟨count, within, whole, kept.seen, kept.clean⟩

end

end CommentFold
