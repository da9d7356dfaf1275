import CommentFold.Proofs.Mirroring

/-! Runs of a session: any number of replacements, their steps mixed with each other
and with changes from outside. After each step the disk shows what the ledger of
the run has, so nothing is seen half written and nothing of one replacement in
another's target. -/

namespace CommentFold

/-- In every run, at every point, what is seen on the disk is what the ledger has:
for each entry what was last put there, from outside or by a commit, and all of it.
What comes next, if it works on staged files, changes nothing of that, and neither
does a commit that fails. A commit that succeeds changes the entry that its target
names, which becomes all that was written through the replacement, in order, with
the mode that was asked for, as a write leaves it. Its staged file is gone. -/
theorem interleaved_commits_whole (host : MemoryHost) (below : host.disk.StagedBelow host.serial)
    (actions : List Action) :
    let session := ((Session.mk host []).run actions).2
    let ledger := (Ledger.opening host).replay ((Session.mk host []).run actions).1
    session.host.disk.plain = ledger.disk ∧
    (∀ action, action.isStaging = true → (session.act action).2.host.disk.plain = session.host.disk.plain) ∧
    ∀ id, let committed := session.act (.commit id)
      (committed.1.succeeded = false → committed.2.host.disk.plain = session.host.disk.plain) ∧
      (committed.1.succeeded = true →
        ∃ replacement pending source location, session.find? id = some replacement ∧
          ledger.pending id = some pending ∧ replacement.target = pending.target ∧
          session.host.disk.named? session.host.here pending.target = some location ∧
          source.name = replacement.staged.name ∧
          committed.2.host.disk.find? location = some (.file pending.written
            (if pending.written = [] then pending.mode else Disk.modeAfterWrite pending.mode)) ∧
          (Disk.modeAfterWrite pending.mode = pending.mode ↔ Disk.writeKeeps pending.mode = true) ∧
          committed.2.host.disk.find? source = none ∧
          ∀ other, other ≠ location → other ≠ source →
            committed.2.host.disk.find? other = session.host.disk.find? other) := by
  intro session ledger
  have mirrors : Mirrors session ledger := (Mirrors.opening below).run actions
  refine ⟨mirrors.seen, ?_, ?_⟩
  · intro action staging
    rw [(mirrors.act action).seen, ledger.record_disk_of_isStaging _ staging, mirrors.seen]
  · intro id committed
    constructor
    · intro failed
      have after := (mirrors.act (.commit id)).seen
      rw [show (session.act (.commit id)).1.succeeded = false from failed] at after
      exact after.trans mirrors.seen.symm
    · intro succeeded
      obtain ⟨replacement, pending, source, location, live, noted, backs, named, aimed, after⟩ :=
        mirrors.commit_inv succeeded
      have apart : source ≠ location := by
        intro same
        have spelled := Disk.named?_isPlain aimed
        rw [← same, named, backs.hidden] at spelled
        cases spelled
      refine ⟨replacement, pending, source, location, live, noted, backs.target, aimed, named, ?_,
        Disk.modeAfterWrite_eq_self_iff pending.mode, ?_, ?_⟩
      · simp only [committed, after, Disk.find?_insert, if_pos]
        rfl
      · simp only [committed, after, Disk.find?_insert, if_neg apart, Disk.find?_erase, if_pos]
      · intro other elsewhere unstaged
        simp only [committed, after, Disk.find?_insert, if_neg elsewhere, Disk.find?_erase, if_neg unstaged]

private def targetAt : Location := ⟨[], .plain (Utf8.encode "a.js".toList)⟩

private def rivalHost : MemoryHost := .ofDisk ⟨[(targetAt, .file [48] 0o644)]⟩ []

/-- Two replacements of one target, whose steps are mixed. The first may run as its owner. -/
private def rivals : List Action :=
  let target := Path.ofText "a.js".toList
  [.begin ['x'] target 0o4755, .begin ['y'] target 0o600, .append ['x'] [49], .append ['y'] [50], .append ['x'] [51]]

private theorem rivalHost_below : rivalHost.disk.StagedBelow rivalHost.serial :=
  .of_isPlain (List.forall_mem_singleton.mpr rfl)

private def rivalSession : Session := ((Session.mk rivalHost []).run rivals).2

private def rivalLedger : Ledger := (Ledger.opening rivalHost).replay ((Session.mk rivalHost []).run rivals).1

private theorem rivalSession_commit : (rivalSession.act (.commit ['x'])).1.succeeded = true := by decide +kernel

private theorem rivalLedger_pending :
    rivalLedger.pending ['x'] = some ⟨.ofText "a.js".toList, 0o4755, [49, 51]⟩ := by decide +kernel

private theorem rivalSession_named :
    rivalSession.host.disk.named? rivalSession.host.here (.ofText "a.js".toList) = some targetAt := by decide +kernel

/-- The one that is committed first has what was written through it, and nothing of the other. -/
theorem commit_beside_rival :
    rivalHost.disk.StagedBelow rivalHost.serial ∧ (rivalSession.act (.commit ['x'])).1.succeeded = true ∧
      (rivalSession.act (.commit ['x'])).2.host.disk.find? targetAt = some (.file [49, 51] 0o755) := by
  obtain ⟨_, _, commits⟩ := interleaved_commits_whole rivalHost rivalHost_below rivals
  obtain ⟨_, pending, _, location, _, noted, _, aimed, _, found, _⟩ := (commits ['x']).2 rivalSession_commit
  have asked : pending = ⟨.ofText "a.js".toList, 0o4755, [49, 51]⟩ :=
    Option.some.inj (noted.symm.trans rivalLedger_pending)
  subst pending
  have there : location = targetAt := Option.some.inj (aimed.symm.trans rivalSession_named)
  subst location
  exact ⟨rivalHost_below, rivalSession_commit, found⟩

/-- What is committed need not have the mode that was asked for: a write takes rights away. -/
theorem commit_loses_mode :
    ¬ ∀ (host : MemoryHost) (actions : List Action) (id : Text), host.disk.StagedBelow host.serial →
      let session := ((Session.mk host []).run actions).2
      let ledger := (Ledger.opening host).replay ((Session.mk host []).run actions).1
      let committed := session.act (.commit id)
      ∀ pending location, committed.1.succeeded = true → ledger.pending id = some pending →
        session.host.disk.named? session.host.here pending.target = some location →
        committed.2.host.disk.find? location = some (.file pending.written pending.mode) := by
  intro kept
  have found :=
    kept rivalHost rivals ['x'] rivalHost_below _ _ rivalSession_commit rivalLedger_pending rivalSession_named
  have lost : (rivalSession.act (.commit ['x'])).2.host.disk.find? targetAt ≠ some (.file [49, 51] 0o4755) := by
    decide +kernel
  exact lost found

end CommentFold
