import CommentFold.Proofs.Watching

/-! Files one after the other. Each is folded on the disk that the one before it left and
confirmed on a stream that may be full. The first that cannot be folded or confirmed is
the last. -/

namespace CommentFold

namespace Sink

/-- The stream takes everything, or at least that many bytes in all. -/
def fits (sink : Sink) (length : Nat) : Bool := sink.capacity?.all fun capacity => length ≤ capacity

/-- What the stream takes of all that it is given. -/
def accepted (sink : Sink) (bytes : Bytes) : Bytes :=
  match sink.capacity? with
  | some capacity => bytes.take capacity
  | none => bytes

variable {sink : Sink} {bytes : Bytes}

end Sink

open CommandLine

/-- The host after some files were folded one after the other, however that went. -/
def foldAll (trailing : Trailing) (host : MemoryHost) (paths : List Path) : MemoryHost :=
  paths.foldl (fun host path => ((foldFile path trailing : StateM MemoryHost _) host).2) host

def confirmations (paths : List Path) : Bytes := paths.flatMap fun path => Utf8.encode (confirmation path)

section

variable (plan : LogPlan) (trailing : Trailing) (path : Path) (rest opened : List Path) {host : MemoryHost}

end

section

variable {trailing : Trailing} {path : Path} {paths rest : List Path} {host : MemoryHost} {index : Nat}

theorem foldAll_cons (trailing : Trailing) (host : MemoryHost) (path : Path) (rest : List Path) :
    foldAll trailing host (path :: rest) =
      foldAll trailing ((foldFile path trailing : StateM MemoryHost _) host).2 rest := rfl

theorem confirmations_cons (path : Path) (rest : List Path) :
    confirmations (path :: rest) = Utf8.encode (confirmation path) ++ confirmations rest := List.flatMap_cons

theorem foldAll_saying (trailing : Trailing) (host : MemoryHost) (written : Bytes) (log : Array Text)
    (paths : List Path) :
    foldAll trailing (host.saying written log) paths = (foldAll trailing host paths).saying written log := by
  induction paths generalizing host with
  | nil => rfl
  | cons path rest ih =>
    rw [foldAll_cons, MemoryHost.foldFile_saying]
    exact ih _

end

end CommentFold
