import CommentFold.Disk.Outside
import CommentFold.FileFold
import CommentFold.MemoryHost

/-! Replacements side by side. A session keeps any number of pending replacements
under names of their own, several perhaps of one target, and lets their steps
mix with the folding of whole files and with changes made from outside. -/

namespace CommentFold

inductive Action where
  | fold (path : Path) (trailing : Trailing)
  | begin (id : Text) (target : Path) (mode : Nat)
  | append (id : Text) (bytes : Bytes)
  | commit (id : Text)
  | abort (id : Text)
  | drop (id : Text)
  | put (path : Path) (entry : Entry)
  | remove (path : Path)

inductive Answer where
  | folded (outcome : Outcome Report)
  | acted (outcome : Outcome Unit)
  | ended (result : Except Fault Unit)
  /-- No replacement is pending under the name. -/
  | unknown

structure Session where
  host : MemoryHost
  live : List (Text × Replacement Staged)

namespace Session

def ofDisk (disk : Disk) (here : Place) : Session := ⟨.ofDisk disk here, []⟩

def find? (session : Session) (id : Text) : Option (Replacement Staged) := session.live.lookup id

def release (session : Session) (id : Text) : Session :=
  { session with live := session.live.filter fun item => item.1 ≠ id }

/-- A replacement that is pending under the name already is dropped. -/
def keep (session : Session) (id : Text) (replacement : Replacement Staged) : Session :=
  let after := match session.find? id with
    | some earlier => ((earlier.drop : StateM MemoryHost Unit) session.host).2
    | none => session.host
  ⟨after, (id, replacement) :: (session.release id).live⟩

/-- Ends the replacement that is pending under a name. -/
def finish (session : Session) (id : Text) (ending : Replacement Staged → MemoryHost → Answer × MemoryHost) :
    Answer × Session :=
  match session.find? id with
  | none => (.unknown, session)
  | some replacement =>
    let (answer, host) := ending replacement session.host
    (answer, { session.release id with host := host })

def begin (session : Session) (id : Text) (target : Path) (mode : Nat) : Answer × Session :=
  let (outcome, host) := (Replacement.begin target mode : StateM MemoryHost _) session.host
  let reached := { session with host := host }
  match outcome.result with
  | .ok replacement => (.acted ⟨outcome.events, .ok ()⟩, reached.keep id replacement)
  | .error failure => (.acted ⟨outcome.events, .error failure⟩, reached)

def append (session : Session) (id : Text) (bytes : Bytes) : Answer × Session :=
  match session.find? id with
  | none => (.unknown, session)
  | some replacement =>
    let (outcome, host) := (replacement.append bytes : StateM MemoryHost _) session.host
    (.acted outcome, { session with host := host })

/-- A change from outside, which does nothing if the disk refuses it. -/
def alter (session : Session) (next : Except Fault Disk) : Answer × Session :=
  let (result, host) := session.host.change next
  (.ended result, { session with host := host })

def act (session : Session) : Action → Answer × Session
  | .fold path trailing =>
    let (outcome, host) := (foldFile path trailing : StateM MemoryHost _) session.host
    (.folded outcome, { session with host := host })
  | .begin id target mode => session.begin id target mode
  | .append id bytes => session.append id bytes
  | .commit id => session.finish id fun replacement host =>
    let (outcome, after) := (replacement.commit : StateM MemoryHost _) host
    (.acted outcome, after)
  | .abort id => session.finish id fun replacement host =>
    let (result, after) := (replacement.abort : StateM MemoryHost _) host
    (.ended result, after)
  | .drop id => session.finish id fun replacement host =>
    let ((), after) := (replacement.drop : StateM MemoryHost Unit) host
    (.ended (.ok ()), after)
  | .put path entry => session.alter (session.host.disk.put session.host.here path entry)
  | .remove path => session.alter (session.host.disk.remove session.host.here path)

theorem find?_release (session : Session) (id other : Text) :
    (session.release id).find? other = if other = id then none else session.find? other := by
  refine (lookup_filter session.live (fun key => key ≠ id) other).trans ?_
  by_cases same : other = id <;> simp [same, find?]

theorem find?_keep (session : Session) (id other : Text) (replacement : Replacement Staged) :
    (session.keep id replacement).find? other = if other = id then some replacement else session.find? other := by
  by_cases same : other = id
  · simp [keep, find?, same]
  · have apart : (other == id) = false := by simpa using same
    have released := session.find?_release id other
    rw [if_neg same] at released ⊢
    rw [← released]
    simp only [keep, find?, List.lookup_cons, apart]

end Session

end CommentFold
