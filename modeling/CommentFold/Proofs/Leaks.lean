import CommentFold.Proofs.Accounting

/-! Runs of a session in which nobody else changes the disk. No staged file is left
behind: at every point there are as many as there are pending replacements. -/

namespace CommentFold

namespace Accounted

theorem run {session : Session} {ledger : Ledger} (accounted : Accounted session) (mirrors : Mirrors session ledger)
    {actions : List Action} (undisturbed : session.undisturbed actions = true) :
    Accounted (session.run actions).2 := by
  induction actions generalizing session ledger with
  | nil => exact accounted
  | cons action rest ih =>
    obtain ⟨permitted, later⟩ := Bool.and_eq_true_iff.mp undisturbed
    exact ih (accounted.act mirrors permitted) (mirrors.act action) later

theorem opening {host : MemoryHost} (bare : host.disk.StagedBelow 0) : Accounted ⟨host, []⟩ where
  held id known := absurd rfl known
  claimed location hidden present := by
    obtain ⟨entry, found⟩ := Option.ne_none_iff_exists'.mp present
    cases named : location.name with
    | plain bytes =>
      rw [named] at hidden
      cases hidden
    | staged stem serial => exact absurd (bare _ (Disk.mem_of_find? found) stem serial named) (Nat.not_lt_zero _)

end Accounted

/-- In every run without changes from outside, at every point, the pending replacements
and the staged files on the disk belong together, one to one. Each staged file lies
beside what it will replace and holds all that was written through its replacement, in
order, with the mode that was asked for, as a write leaves it. A replacement can always
be aborted, and however it ends, its staged file goes and every other one stays. So
once none is pending nothing is left. -/
theorem staged_files_accounted (host : MemoryHost) (bare : host.disk.StagedBelow 0) (actions : List Action)
    (undisturbed : (Session.mk host []).undisturbed actions = true) :
    let session := ((Session.mk host []).run actions).2
    let ledger := (Ledger.opening host).replay ((Session.mk host []).run actions).1
    (∀ id pending, ledger.pending id = some pending →
      ∃ location, (∀ other, session.Stages id other ↔ other = location) ∧
        session.host.disk.resolveDirectory session.host.here pending.target.stagingDirectory = .ok location.holder ∧
        session.host.disk.find? location = some (.file pending.written
          (if pending.written = [] then pending.mode else Disk.modeAfterWrite pending.mode)) ∧
        (Disk.modeAfterWrite pending.mode = pending.mode ↔ Disk.writeKeeps pending.mode = true) ∧
        (session.act (.abort id)).1.succeeded = true ∧
        ∀ action ∈ [Action.commit id, .abort id, .drop id], ∀ other, other.name.isPlain = false →
          (session.act action).2.host.disk.find? other =
            if other = location then none else session.host.disk.find? other) ∧
    (∀ location, location.name.isPlain = false → session.host.disk.find? location ≠ none →
      ∃ id, (ledger.pending id).isSome ∧ ∀ other, session.Stages other location ↔ other = id) ∧
    ((∀ id, ledger.pending id = none) →
      ∀ location, location.name.isPlain = false → session.host.disk.find? location = none) := by
  intro session ledger
  have below := bare.mono (Nat.zero_le host.serial)
  have mirrors : Mirrors session ledger := (Mirrors.opening below).run actions
  have accounted : Accounted session := (Accounted.opening bare).run (Mirrors.opening below) undisturbed
  have claim : ∀ location, location.name.isPlain = false → session.host.disk.find? location ≠ none →
      ∃ id, (ledger.pending id).isSome ∧ ∀ other, session.Stages other location ↔ other = id := by
    intro location hidden present
    obtain ⟨id, stages⟩ := accounted.claimed location hidden present
    obtain ⟨replacement, live, _⟩ := stages.owned
    obtain ⟨pending, noted, _⟩ := mirrors.pending_of_live live
    refine ⟨id, by rw [noted]; rfl, fun other => ⟨fun another => another.id_eq mirrors stages rfl, ?_⟩⟩
    rintro rfl
    exact stages
  refine ⟨?_, claim, ?_⟩
  · intro id pending noted
    obtain ⟨replacement, live, backs⟩ := mirrors.live_of_pending noted
    obtain ⟨location, stages⟩ := accounted.stages_of_live live
    have named := stages.name_eq live
    refine ⟨location, fun other => ⟨fun another => another.unique stages, ?_⟩, ?_, ?_,
      Disk.modeAfterWrite_eq_self_iff pending.mode, ?_, ?_⟩
    · rintro rfl
      exact stages
    · obtain ⟨_, _, known, _, beside, led⟩ := stages
      cases known.symm.trans live
      rw [← backs.target, ← beside]
      exact led.resolveDirectory
    · obtain ⟨entry, found⟩ := Option.ne_none_iff_exists'.mp stages.present
      have held := backs.holds _ (Disk.mem_of_find? found) named
      rw [found, show entry = pending.entry from held]
      rfl
    · obtain ⟨after, discarded⟩ := (accounted.discards live mirrors).1
      rw [Session.act_abort_of_discard live discarded]
      rfl
    · intro action ending other hidden
      exact accounted.ends live mirrors stages ending other hidden
  · intro none location hidden
    by_contra present
    obtain ⟨id, some, _⟩ := claim location hidden present
    rw [none] at some
    cases some

/-- Two replacements. The first may run as its owner. The second cannot be committed. -/
private def doomed : List Action :=
  [.begin ['x'] (.ofText "a.js".toList) 0o4755, .begin ['y'] (.ofText "..".toList) 0o600, .append ['x'] [49],
    .commit ['y']]

private def doomedHost : MemoryHost := .ofDisk .empty []

private def doomedSession : Session := ((Session.mk doomedHost []).run doomed).2

private def doomedLedger : Ledger := (Ledger.opening doomedHost).replay ((Session.mk doomedHost []).run doomed).1

private theorem doomedHost_bare : doomedHost.disk.StagedBelow 0 := fun _ member => nomatch member

private theorem doomed_undisturbed : (Session.mk doomedHost []).undisturbed doomed = true := by decide +kernel

private theorem doomedLedger_pending : doomedLedger.pending ['x'] = some ⟨.ofText "a.js".toList, 0o4755, [49]⟩ := by
  decide +kernel

private def doomedAt : Location := ⟨[], .staged (Utf8.encode ".a.js".toList) 0⟩

private theorem doomedSession_entries : doomedSession.host.disk.entries = [(doomedAt, .file [49] 0o755)] := by
  decide +kernel

/-- The one that is left is alone on the disk, and goes when it is aborted. -/
theorem abort_after_failed_commit :
    doomedHost.disk.StagedBelow 0 ∧ (Session.mk doomedHost []).undisturbed doomed = true ∧
      doomedSession.host.disk.entries = [(doomedAt, .file [49] 0o755)] ∧
      (doomedSession.act (.abort ['x'])).1.succeeded = true ∧
      (doomedSession.act (.abort ['x'])).2.host.disk.find? doomedAt = none := by
  obtain ⟨all, _, _⟩ := staged_files_accounted doomedHost doomedHost_bare doomed doomed_undisturbed
  obtain ⟨location, _, _, found, _, aborted, gone⟩ := all ['x'] _ doomedLedger_pending
  have member : (location, _) ∈ doomedSession.host.disk.entries := Disk.mem_of_find? found
  rw [doomedSession_entries, List.mem_singleton] at member
  have there := (Prod.mk.inj member).1
  have removed := gone (.abort ['x']) (by simp) doomedAt rfl
  rw [if_pos there.symm] at removed
  exact ⟨doomedHost_bare, doomed_undisturbed, doomedSession_entries, aborted, removed⟩

/-- A staged file need not have the mode that was asked for: a write takes rights away. -/
theorem staged_file_loses_mode :
    ¬ ∀ (host : MemoryHost) (actions : List Action), host.disk.StagedBelow 0 →
      (Session.mk host []).undisturbed actions = true →
      let session := ((Session.mk host []).run actions).2
      let ledger := (Ledger.opening host).replay ((Session.mk host []).run actions).1
      ∀ id pending, ledger.pending id = some pending →
        ∃ location, session.Stages id location ∧
          session.host.disk.find? location = some (.file pending.written pending.mode) := by
  intro kept
  obtain ⟨location, _, found⟩ := kept doomedHost doomed doomedHost_bare doomed_undisturbed _ _ doomedLedger_pending
  have lost : ∀ item ∈ doomedSession.host.disk.entries, item.2 ≠ .file [49] 0o4755 := by decide +kernel
  exact lost _ (Disk.mem_of_find? found) rfl

end CommentFold
