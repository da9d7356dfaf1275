import CommentFold.Proofs.PlainEntries
import CommentFold.Session
import Mathlib.Logic.Function.Basic

/-! What a history of actions comes to if nothing is staged. A ledger keeps what is
to be seen on the disk, and for each pending replacement what it was asked for and
what was written through it. A commit puts all of that in place at once. -/

namespace CommentFold

structure Pending where
  target : Path
  mode : Nat
  written : Bytes
  deriving DecidableEq

namespace Pending

def append (pending : Pending) (more : Bytes) : Pending := { pending with written := pending.written ++ more }

/-- All that was written, with the mode that was asked for, as a write leaves it. -/
def entry (pending : Pending) : Entry :=
  .file pending.written (if pending.written = [] then pending.mode else Disk.modeAfterWrite pending.mode)

theorem appendTo_entry (pending : Pending) (more : Bytes) :
    Disk.appendTo more pending.entry = (pending.append more).entry := by
  by_cases first : pending.written = []
  · simp only [entry, append, Disk.appendTo, first, if_pos, List.nil_append]
  · by_cases last : more = []
    · simp only [entry, append, Disk.appendTo, last, if_pos, List.append_nil]
    · have settled := (Disk.modeAfterWrite_eq_self_iff _).mpr (Disk.writeKeeps_modeAfterWrite pending.mode)
      have written : ¬(pending.written ++ more = []) := fun empty => first (List.append_eq_nil_iff.mp empty).1
      simp only [entry, append, Disk.appendTo, first, last, written, if_false, settled]

end Pending

def Answer.succeeded : Answer → Bool
  | .folded outcome => outcome.result.isOk
  | .acted outcome => outcome.result.isOk
  | .ended result => result.isOk
  | .unknown => false

namespace Session

/-- Takes actions in order and tells what each was answered. -/
def run : Session → List Action → List (Action × Answer) × Session
  | session, [] => ([], session)
  | session, action :: rest =>
    let (answer, next) := session.act action
    let (history, final) := next.run rest
    ((action, answer) :: history, final)

end Session

/-- Actions that work on staged files alone. -/
def Action.isStaging : Action → Bool
  | .begin .. | .append .. | .abort _ | .drop _ => true
  | .fold .. | .commit _ | .put .. | .remove _ => false

structure Ledger where
  disk : Disk
  here : Place
  pending : Text → Option Pending

namespace Ledger

/-- What stands under a name from now on. -/
def note (ledger : Ledger) (id : Text) (pending : Option Pending) : Ledger :=
  { ledger with pending := Function.update ledger.pending id pending }

/-- Puts a whole entry where a path points. -/
def place (ledger : Ledger) (target : Path) (entry : Entry) : Ledger :=
  match ledger.disk.named? ledger.here target with
  | some location => { ledger with disk := ledger.disk.insert location entry }
  | none => ledger

def commit (ledger : Ledger) (id : Text) : Ledger :=
  match ledger.pending id with
  | some pending => ledger.place pending.target pending.entry
  | none => ledger

def refold (ledger : Ledger) (path : Path) (trailing : Trailing) : Ledger :=
  match ledger.disk.fetch ledger.here path with
  | .ok ⟨.ok bytes, .ok mode⟩ =>
    match (Document.fold path trailing (readLines bytes)).result with
    | .ok document => ledger.place path (.file (Utf8.encode document.contents) (Disk.modeAfterWrite mode))
    | .error _ => ledger
  | _ => ledger

/-- A change from outside, which does nothing if the disk refuses it. -/
def alter (ledger : Ledger) (next : Except Fault Disk) : Ledger :=
  match next with
  | .ok disk => { ledger with disk := disk }
  | .error _ => ledger

/-- Enters an action, of which it is known whether it succeeded. -/
def record (ledger : Ledger) (succeeded : Bool) : Action → Ledger
  | .fold path trailing => if succeeded then ledger.refold path trailing else ledger
  | .begin id target mode => if succeeded then ledger.note id (some ⟨target, mode, []⟩) else ledger
  | .append id bytes => ledger.note id ((ledger.pending id).map (·.append bytes))
  | .commit id => (if succeeded then ledger.commit id else ledger).note id none
  | .abort id | .drop id => ledger.note id none
  | .put path entry => ledger.alter (ledger.disk.put ledger.here path entry)
  | .remove path => ledger.alter (ledger.disk.remove ledger.here path)

/-- Before anything is pending. -/
def opening (host : MemoryHost) : Ledger := ⟨host.disk.plain, host.here, fun _ => none⟩

def replay (ledger : Ledger) (history : List (Action × Answer)) : Ledger :=
  history.foldl (fun ledger item => ledger.record item.2.succeeded item.1) ledger

@[simp] theorem pending_note (ledger : Ledger) (id other : Text) (pending : Option Pending) :
    (ledger.note id pending).pending other = if other = id then pending else ledger.pending other := by
  simp only [note, Function.update_apply]

/-- What is pending under a name stays if it is noted again. -/
theorem note_self (ledger : Ledger) (id : Text) : ledger.note id (ledger.pending id) = ledger := by
  simp only [note, Function.update_eq_self]

theorem record_disk_of_isStaging (ledger : Ledger) (succeeded : Bool) {action : Action}
    (staging : action.isStaging = true) : (ledger.record succeeded action).disk = ledger.disk := by
  cases action with
  | begin id target mode => cases succeeded <;> rfl
  | append | abort | drop => rfl
  | fold | commit | put | remove => cases staging

end Ledger

end CommentFold
