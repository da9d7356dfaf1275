import CommentFold.Disk.Staging

/-! A host in memory: a disk with a current directory, the two output streams and
the log. It answers every request at once and draws no name twice. -/

namespace CommentFold

/-- A stream that takes a limited number of bytes and refuses the rest. -/
structure Sink where
  capacity? : Option Nat
  refusal : Fault
  written : Bytes
  deriving DecidableEq, Repr

namespace Sink

def unlimited : Sink := ⟨none, .nothingTaken, []⟩

def limited (capacity : Nat) (refusal : Fault) : Sink := ⟨some capacity, refusal, []⟩

/-- Takes what fits. -/
def write (sink : Sink) (bytes : Bytes) : Except Fault Unit × Sink :=
  let room := match sink.capacity? with
    | some capacity => capacity - sink.written.length
    | none => bytes.length
  let taken := { sink with written := sink.written ++ bytes.take room }
  (if bytes.length ≤ room then .ok () else .error sink.refusal, taken)

end Sink

structure MemoryHost where
  disk : Disk
  here : Place
  /-- The serial number of the next staged file. -/
  serial : Nat
  output : Sink
  errors : Sink
  log : Array Text

namespace MemoryHost

/-- A host before a run, with streams that take everything. -/
def ofDisk (disk : Disk) (here : Place) : MemoryHost := ⟨disk, here, 0, .unlimited, .unlimited, #[]⟩

/-- Takes over the disk of a successful change and keeps the old one otherwise. -/
def change (host : MemoryHost) (next : Except Fault Disk) : Except Fault Unit × MemoryHost :=
  match next with
  | .ok disk => (.ok (), { host with disk := disk })
  | .error fault => (.error fault, host)

def stage (host : MemoryHost) (directory : Path) (stem : Bytes) (mode : Nat) :
    Except Fault (Staged × Text) × MemoryHost :=
  let name := Name.staged stem host.serial
  match host.disk.stage host.here directory name mode with
  | .ok disk => (.ok (⟨directory, name⟩, name.shown), { host with disk := disk, serial := host.serial + 1 })
  | .error fault => (.error fault, host)

instance : Storage (StateM MemoryHost) Staged where
  fetch path := fun host => (host.disk.fetch host.here path, host)
  stage directory stem mode := fun host => host.stage directory stem mode
  append staged bytes := fun host => host.change (.ok (host.disk.append staged.name bytes))
  publish staged target := fun host => host.change (host.disk.publish host.here staged target)
  discard staged := fun host => host.change (host.disk.discard host.here staged)

instance : Console (StateM MemoryHost) where
  print bytes := fun host =>
    let (answer, output) := host.output.write bytes
    (answer, { host with output := output })
  complain bytes := fun host => ((), { host with errors := (host.errors.write bytes).2 })
  log line := fun host => ((), { host with log := host.log.push line })

variable (host : MemoryHost)

theorem fetch_apply (path : Path) :
    (Storage.fetch path : StateM MemoryHost _) host = (host.disk.fetch host.here path, host) := rfl

theorem stage_apply (directory : Path) (stem : Bytes) (mode : Nat) :
    (Storage.stage directory stem mode : StateM MemoryHost _) host = host.stage directory stem mode := rfl

theorem publish_apply (staged : Staged) (target : Path) :
    (Storage.publish staged target : StateM MemoryHost _) host =
      host.change (host.disk.publish host.here staged target) := rfl

theorem discard_apply (staged : Staged) :
    (Storage.discard staged : StateM MemoryHost _) host =
      host.change (host.disk.discard host.here staged) := rfl

end MemoryHost

end CommentFold
