import CommentFold.Proofs.Replacements
import CommentFold.Session

/-! What each action on a pending replacement does to a session. An action under a
name that nothing is pending under does nothing. -/

namespace CommentFold

/-- The name under which an action needs something to be pending. -/
def Action.pending? : Action → Option Text
  | .append id _ | .commit id | .abort id | .drop id => some id
  | .fold .. | .begin .. | .put .. | .remove _ => none

namespace Session

theorem act_begin_cases (session : Session) (id : Text) (target : Path) (mode : Nat) :
    (∃ failure, session.act (.begin id target mode) = (.acted (.failed failure), session)) ∨
    ∃ holder, session.host.disk.resolveDirectory session.host.here target.stagingDirectory = .ok holder ∧
      let name := Name.staged target.stagingStem session.host.serial
      let begun := { session.host with
        disk := session.host.disk.insert ⟨holder, name⟩ (.file [] mode), serial := session.host.serial + 1 }
      session.act (.begin id target mode) =
        (.acted ⟨[.staged target name.shown], .ok ()⟩,
          { session with host := begun }.keep id ⟨target, ⟨target.stagingDirectory, name⟩⟩) := by
  rcases Replacement.begin_cases target mode session.host with ⟨fault, refused⟩ | ⟨holder, reached, begun⟩
  · left
    refine ⟨.unwritable target fault, ?_⟩
    simp only [act, begin, refused]
    rfl
  · right
    refine ⟨holder, reached, ?_⟩
    simp only [act, begin, begun]

variable {session : Session} {id : Text}

theorem act_of_unknown {action : Action} (needs : action.pending? = some id) (unknown : session.find? id = none) :
    session.act action = (.unknown, session) := by
  cases action with
  | append | commit | abort | drop =>
    cases needs
    simp only [act, append, finish, unknown]
  | fold | begin | put | remove => cases needs

section

variable {replacement : Replacement Staged} (live : session.find? id = some replacement)
include live

theorem act_append (bytes : Bytes) :
    session.act (.append id bytes) =
      (.acted (.done ()),
        { session with host :=
          { session.host with disk := session.host.disk.append replacement.staged.name bytes } }) := by
  simp only [act, append, live, Replacement.append_eq]

theorem act_commit_cases :
    (∃ failure, session.act (.commit id) =
      (.acted (.failed failure), { session.release id with host := session.host.without replacement.staged })) ∨
    ∃ source location entry, source.name = replacement.staged.name ∧
      session.host.disk.find? source = some entry ∧
      session.host.disk.named? session.host.here replacement.target = some location ∧
      session.host.disk.find? location ≠ some .directory ∧
      session.act (.commit id) =
        (.acted ⟨[.committed replacement.target], .ok ()⟩,
          { session.release id with host :=
            { session.host with disk := (session.host.disk.erase source).insert location entry } }) := by
  rcases replacement.commit_cases session.host with
    ⟨fault, failed⟩ | ⟨source, location, entry, named, found, aimed, free, done⟩
  · left
    refine ⟨.uncommitted replacement.target fault, ?_⟩
    simp only [act, finish, live, failed]
  · right
    refine ⟨source, location, entry, named, found, aimed, free, ?_⟩
    simp only [act, finish, live, done]

theorem act_abort :
    (session.act (.abort id)).2 = { session.release id with host := session.host.without replacement.staged } := by
  simp only [act, finish, live]
  exact congrArg (fun host => { session.release id with host := host }) (replacement.abort_eq session.host)

theorem act_abort_of_discard {disk : Disk}
    (discarded : session.host.disk.discard session.host.here replacement.staged = .ok disk) :
    (session.act (.abort id)).1 = .ended (.ok ()) := by
  simp only [act, finish, live, Replacement.abort, MemoryHost.discard_apply, discarded, MemoryHost.change]

theorem act_drop :
    session.act (.drop id) =
      (.ended (.ok ()), { session.release id with host := session.host.without replacement.staged }) := by
  simp only [act, finish, live, Replacement.drop_eq]

end

end Session

end CommentFold
