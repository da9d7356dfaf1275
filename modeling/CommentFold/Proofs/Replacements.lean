import CommentFold.Proofs.StagedFiles
import CommentFold.Replacement

/-! What each operation on a replacement does to a host in memory. Only its disk is
touched, and of the disk only a staged file, until a commit succeeds. -/

namespace CommentFold

namespace MemoryHost

/-- The host after it was asked to discard a staged file. -/
def without (host : MemoryHost) (staged : Staged) : MemoryHost :=
  (host.change (host.disk.discard host.here staged)).2

variable (host : MemoryHost) (staged : Staged)

theorem without_cases :
    host.without staged = host ∨
    ∃ source, source.name = staged.name ∧ host.without staged = { host with disk := host.disk.erase source } := by
  cases discarded : host.disk.discard host.here staged with
  | error fault =>
    left
    simp only [without, discarded, change]
  | ok disk =>
    right
    obtain ⟨source, named, rfl⟩ := Disk.discard_inv discarded
    exact ⟨source, named, by simp only [without, discarded, change]⟩

@[simp] theorem without_here : (host.without staged).here = host.here := by
  rcases host.without_cases staged with same | ⟨source, _, same⟩ <;> rw [same]

@[simp] theorem without_serial : (host.without staged).serial = host.serial := by
  rcases host.without_cases staged with same | ⟨source, _, same⟩ <;> rw [same]

theorem without_within : (host.without staged).disk.StagedWithin host.disk := by
  rcases host.without_cases staged with same | ⟨source, _, same⟩ <;> rw [same]
  · exact .refl host.disk
  · exact .erase host.disk source

theorem without_plain (hidden : staged.name.isPlain = false) :
    (host.without staged).disk.plain = host.disk.plain := by
  rcases host.without_cases staged with same | ⟨source, named, same⟩ <;> rw [same]
  exact Disk.plain_erase_hidden host.disk (by rw [named]; exact hidden)

end MemoryHost

namespace Replacement

theorem begin_of_refused {target : Path} {mode : Nat} {host : MemoryHost} {fault : Fault}
    (refused : host.disk.stage host.here target.stagingDirectory (.staged target.stagingStem host.serial) mode =
      .error fault) :
    (begin target mode : StateM MemoryHost _) host = (.failed (.unwritable target fault), host) := by
  simp only [begin, bind, StateT.bind, MemoryHost.stage_apply, MemoryHost.stage, refused]
  rfl

theorem begin_cases (target : Path) (mode : Nat) (host : MemoryHost) :
    (∃ fault, (begin target mode : StateM MemoryHost _) host = (.failed (.unwritable target fault), host)) ∨
    ∃ holder, host.disk.resolveDirectory host.here target.stagingDirectory = .ok holder ∧
      let name := Name.staged target.stagingStem host.serial
      (begin target mode : StateM MemoryHost _) host =
        (⟨[.staged target name.shown], .ok ⟨target, ⟨target.stagingDirectory, name⟩⟩⟩,
          { host with disk := host.disk.insert ⟨holder, name⟩ (.file [] mode), serial := host.serial + 1 }) := by
  cases staged : host.disk.stage host.here target.stagingDirectory (.staged target.stagingStem host.serial) mode with
  | error fault =>
    exact .inl ⟨fault, begin_of_refused staged⟩
  | ok disk =>
    right
    obtain ⟨holder, reached, rfl⟩ := Disk.stage_inv staged
    refine ⟨holder, reached, ?_⟩
    simp only [begin, bind, StateT.bind, MemoryHost.stage_apply, MemoryHost.stage, staged]
    rfl

theorem append_eq (replacement : Replacement Staged) (bytes : Bytes) (host : MemoryHost) :
    (replacement.append bytes : StateM MemoryHost _) host =
      (.done (), { host with disk := host.disk.append replacement.staged.name bytes }) := rfl

theorem drop_eq (replacement : Replacement Staged) (host : MemoryHost) :
    (replacement.drop : StateM MemoryHost Unit) host = ((), host.without replacement.staged) := rfl

theorem abort_eq (replacement : Replacement Staged) (host : MemoryHost) :
    ((replacement.abort : StateM MemoryHost _) host).2 = host.without replacement.staged := rfl

theorem commit_of_published {replacement : Replacement Staged} {host : MemoryHost} {disk : Disk}
    (published : host.disk.publish host.here replacement.staged replacement.target = .ok disk) :
    (replacement.commit : StateM MemoryHost _) host =
      (⟨[.committed replacement.target], .ok ()⟩, { host with disk := disk }) := by
  simp only [commit, bind, StateT.bind, MemoryHost.publish_apply, MemoryHost.change, published]
  rfl

/-- A commit replaces the entry that its target names or gives its staged file up. -/
theorem commit_cases (replacement : Replacement Staged) (host : MemoryHost) :
    (∃ fault, (replacement.commit : StateM MemoryHost _) host =
      (.failed (.uncommitted replacement.target fault), host.without replacement.staged)) ∨
    ∃ source location entry, source.name = replacement.staged.name ∧ host.disk.find? source = some entry ∧
      host.disk.named? host.here replacement.target = some location ∧
      host.disk.find? location ≠ some .directory ∧
      (replacement.commit : StateM MemoryHost _) host =
        (⟨[.committed replacement.target], .ok ()⟩,
          { host with disk := (host.disk.erase source).insert location entry }) := by
  cases published : host.disk.publish host.here replacement.staged replacement.target with
  | error fault =>
    left
    refine ⟨fault, ?_⟩
    simp only [commit, bind, StateT.bind, MemoryHost.publish_apply, MemoryHost.change, published]
    rfl
  | ok disk =>
    right
    obtain ⟨source, holder, name, entry, ready, rfl⟩ := Disk.publish_inv published
    exact ⟨_, _, entry, rfl, ready.held, Disk.named?_eq ready.aimed ready.last, ready.free,
      commit_of_published published⟩

/-- What is complete at once is committed as soon as it is written. -/
theorem complete_eq (replacement : Replacement Staged) (bytes : Bytes) (host : MemoryHost) :
    (replacement.complete bytes : StateM MemoryHost _) host =
      (replacement.commit : StateM MemoryHost _)
        { host with disk := host.disk.append replacement.staged.name bytes } := rfl

end Replacement

end CommentFold
