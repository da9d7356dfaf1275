import CommentFold.Proofs.Actions
import CommentFold.Proofs.AllOrNothing
import CommentFold.Proofs.Ledger

/-! A session follows its ledger. Every action keeps the relation between the two, in
whatever order replacements are begun, written and ended and others change the disk. -/

namespace CommentFold

/-- A replacement of a session keeps in its staged file, wherever that lies and if it
is still there, all that the ledger has for it. -/
structure Backs (host : MemoryHost) (replacement : Replacement Staged) (pending : Pending) : Prop where
  target : replacement.target = pending.target
  drawn : ∃ stem, ∃ serial < host.serial, replacement.staged.name = .staged stem serial
  holds : ∀ item ∈ host.disk.entries, item.1.name = replacement.staged.name → item.2 = pending.entry

/-- A session shows what a ledger shows, and backs each of its pending replacements
with a staged file of its own. -/
structure Mirrors (session : Session) (ledger : Ledger) : Prop where
  seen : session.host.disk.plain = ledger.disk
  here : session.host.here = ledger.here
  below : session.host.disk.StagedBelow session.host.serial
  backed : ∀ id, Option.Rel (Backs session.host) (session.find? id) (ledger.pending id)
  apart : ∀ id other first second, session.find? id = some first → session.find? other = some second →
    first.staged.name = second.staged.name → id = other

section

variable {host after : MemoryHost} {replacement : Replacement Staged} {pending : Pending}

theorem Backs.hidden (backs : Backs host replacement pending) : replacement.staged.name.isPlain = false := by
  obtain ⟨stem, serial, _, named⟩ := backs.drawn
  rw [named]
  rfl

/-- The next staged file is that of no pending replacement. -/
theorem Backs.name_ne (backs : Backs host replacement pending) (stem : Bytes) :
    replacement.staged.name ≠ .staged stem host.serial := by
  obtain ⟨other, serial, early, named⟩ := backs.drawn
  intro same
  rw [named] at same
  cases same
  exact Nat.lt_irrefl _ early

theorem Backs.within (backs : Backs host replacement pending) (kept : after.disk.StagedWithin host.disk)
    (grown : host.serial ≤ after.serial) : Backs after replacement pending := by
  obtain ⟨stem, serial, early, named⟩ := backs.drawn
  refine ⟨backs.target, ⟨stem, serial, Nat.lt_of_lt_of_le early grown, named⟩, ?_⟩
  intro item member same
  exact backs.holds item (kept item member (by rw [same]; exact backs.hidden)) same

theorem Backs.append (backs : Backs host replacement pending) (bytes : Bytes) :
    Backs { host with disk := host.disk.append replacement.staged.name bytes } replacement (pending.append bytes) := by
  refine ⟨backs.target, backs.drawn, ?_⟩
  intro item member named
  obtain ⟨entry, present, written⟩ := Disk.mem_append member
  have held : entry = pending.entry := backs.holds _ present named
  rw [written, if_pos named, held, pending.appendTo_entry]

theorem Backs.append_other {name : Name} (backs : Backs host replacement pending)
    (apart : replacement.staged.name ≠ name) (bytes : Bytes) :
    Backs { host with disk := host.disk.append name bytes } replacement pending := by
  refine ⟨backs.target, backs.drawn, ?_⟩
  intro item member named
  obtain ⟨entry, present, written⟩ := Disk.mem_append member
  have held : entry = pending.entry := backs.holds _ present named
  rw [written, if_neg (by rw [named]; exact apart), held]

end

private theorem rel_mono {α β : Type} {related weaker : α → β → Prop} {first : Option α} {second : Option β}
    (pair : Option.Rel related first second) (weaken : ∀ left right, related left right → weaker left right) :
    Option.Rel weaker first second := by
  cases pair with
  | none => exact .none
  | some held => exact .some (weaken _ _ held)

namespace Mirrors

variable {session : Session} {ledger : Ledger}

theorem pending_of_live (mirrors : Mirrors session ledger) {id : Text} {replacement : Replacement Staged}
    (live : session.find? id = some replacement) :
    ∃ pending, ledger.pending id = some pending ∧ Backs session.host replacement pending := by
  have backed := mirrors.backed id
  rw [live] at backed
  cases noted : ledger.pending id with
  | none =>
    rw [noted] at backed
    cases backed
  | some pending =>
    rw [noted] at backed
    cases backed with
    | some backs => exact ⟨pending, rfl, backs⟩

theorem live_of_pending (mirrors : Mirrors session ledger) {id : Text} {pending : Pending}
    (noted : ledger.pending id = some pending) :
    ∃ replacement, session.find? id = some replacement ∧ Backs session.host replacement pending := by
  have backed := mirrors.backed id
  rw [noted] at backed
  cases live : session.find? id with
  | none =>
    rw [live] at backed
    cases backed
  | some replacement =>
    rw [live] at backed
    cases backed with
    | some backs => exact ⟨replacement, rfl, backs⟩

/-- Where the session has nothing pending the ledger has nothing either. -/
theorem note_of_unknown (mirrors : Mirrors session ledger) {id : Text} (unknown : session.find? id = none) :
    ledger.pending id = none ∧ ledger.note id none = ledger := by
  have nothing : ledger.pending id = none := by
    have backed := mirrors.backed id
    rw [unknown] at backed
    cases noted : ledger.pending id with
    | none => rfl
    | some pending =>
      rw [noted] at backed
      cases backed
  exact ⟨nothing, by simpa only [nothing] using ledger.note_self id⟩

/-- A change of the disk that makes no staged file and changes none. -/
theorem change (mirrors : Mirrors session ledger) (host : MemoryHost) {disk : Disk}
    (here : host.here = session.host.here) (grown : session.host.serial ≤ host.serial)
    (kept : host.disk.StagedWithin session.host.disk) (seen : host.disk.plain = disk) :
    Mirrors { session with host := host } { ledger with disk := disk } where
  seen := seen
  here := here.trans mirrors.here
  below := (mirrors.below.within kept).mono grown
  backed id := rel_mono (mirrors.backed id) fun _ _ backs => backs.within kept grown
  apart := mirrors.apart

/-- A whole entry that comes in place on the disk comes in place in the ledger. -/
theorem place (mirrors : Mirrors session ledger) (host : MemoryHost) {disk : Disk} {target : Path}
    {location : Location} {entry : Entry} (aimed : session.host.disk.named? session.host.here target = some location)
    (inserted : host.disk = disk.insert location entry) (kept : disk.StagedWithin session.host.disk)
    (same : disk.plain = session.host.disk.plain) (here : host.here = session.host.here)
    (grown : session.host.serial ≤ host.serial) :
    Mirrors { session with host := host } (ledger.place target entry) := by
  have spelled := Disk.named?_isPlain aimed
  have seen : host.disk.plain = ledger.disk.insert location entry := by
    rw [inserted, Disk.plain_insert _ _ spelled, same, mirrors.seen]
  have within : host.disk.StagedWithin session.host.disk := by
    rw [inserted]
    exact (Disk.StagedWithin.insert disk location spelled entry).trans kept
  rw [← Disk.named?_plain, mirrors.seen, mirrors.here] at aimed
  simp only [Ledger.place, aimed]
  exact mirrors.change host here grown within seen

/-- Discarding a staged file shows nowhere. -/
theorem without (mirrors : Mirrors session ledger) {id : Text} {replacement : Replacement Staged}
    (live : session.find? id = some replacement) :
    Mirrors { session with host := session.host.without replacement.staged } ledger := by
  obtain ⟨pending, _, backs⟩ := mirrors.pending_of_live live
  refine mirrors.change _ (session.host.without_here _) (Nat.le_of_eq (session.host.without_serial _).symm)
    (session.host.without_within _) ?_
  rw [session.host.without_plain _ backs.hidden, mirrors.seen]

theorem release (mirrors : Mirrors session ledger) (id : Text) :
    Mirrors (session.release id) (ledger.note id none) where
  seen := mirrors.seen
  here := mirrors.here
  below := mirrors.below
  backed other := by
    rw [session.find?_release, ledger.pending_note]
    split
    · exact .none
    · exact mirrors.backed other
  apart other another first second found present := by
    rw [session.find?_release] at found present
    split at found
    · cases found
    · split at present
      · cases present
      · exact mirrors.apart other another first second found present

/-- A replacement with a staged file of its own comes in the place of an earlier one. -/
theorem keep (mirrors : Mirrors session ledger) (id : Text) {replacement : Replacement Staged} {pending : Pending}
    (backs : Backs session.host replacement pending)
    (own : ∀ other live, session.find? other = some live → live.staged.name ≠ replacement.staged.name) :
    Mirrors (session.keep id replacement) (ledger.note id (some pending)) := by
  -- The earlier replacement is dropped before the new one is registered.
  have dropped : Mirrors { session with host := (session.keep id replacement).host } ledger ∧
      Backs (session.keep id replacement).host replacement pending := by
    cases live : session.find? id with
    | none => simpa only [Session.keep, live] using ⟨mirrors, backs⟩
    | some earlier =>
      have after := backs.within (session.host.without_within earlier.staged)
        (Nat.le_of_eq (session.host.without_serial earlier.staged).symm)
      simpa only [Session.keep, live, Replacement.drop_eq] using ⟨mirrors.without live, after⟩
  obtain ⟨after, backs⟩ := dropped
  refine ⟨after.seen, after.here, after.below, ?_, ?_⟩
  · intro other
    rw [session.find?_keep, ledger.pending_note]
    split
    · exact .some backs
    · exact after.backed other
  · intro other another first second found present same
    rw [session.find?_keep] at found present
    split at found <;> split at present
    · rename_i left right
      exact left.trans right.symm
    · cases found
      exact absurd same.symm (own another second present)
    · cases present
      exact absurd same (own other first found)
    · exact mirrors.apart other another first second found present same

/-- A new staged file is seen nowhere and is in nobody's way. -/
private theorem stage (mirrors : Mirrors session ledger) (holder : Place) (stem : Bytes) (entry : Entry) :
    Mirrors
      { session with host := { session.host with
        disk := session.host.disk.insert ⟨holder, .staged stem session.host.serial⟩ entry
        serial := session.host.serial + 1 } } ledger := by
  refine ⟨?_, mirrors.here, mirrors.below.insert_next holder stem entry, ?_, mirrors.apart⟩
  · exact (Disk.plain_insert_hidden session.host.disk rfl entry).trans mirrors.seen
  · intro id
    refine rel_mono (mirrors.backed id) ?_
    intro replacement pending backs
    obtain ⟨other, serial, early, named⟩ := backs.drawn
    refine ⟨backs.target, ⟨other, serial, Nat.lt_succ_of_lt early, named⟩, ?_⟩
    intro item member same
    rcases Disk.mem_insert member with new | kept
    · rw [new] at same
      exact absurd same.symm (backs.name_ne stem)
    · exact backs.holds item kept same

theorem begin (mirrors : Mirrors session ledger) (id : Text) (target : Path) (mode : Nat) :
    Mirrors (session.act (.begin id target mode)).2
      (ledger.record (session.act (.begin id target mode)).1.succeeded (.begin id target mode)) := by
  rcases session.act_begin_cases id target mode with ⟨failure, refused⟩ | ⟨holder, _, begun⟩
  · rw [refused]
    exact mirrors
  · have staged := mirrors.stage holder target.stagingStem (.file [] mode)
    rw [begun]
    refine staged.keep id ⟨rfl, ⟨_, _, Nat.lt_succ_self _, rfl⟩, ?_⟩ ?_
    · intro item member named
      rcases Disk.mem_insert member with same | kept
      · rw [same]
        rfl
      · exact absurd named (mirrors.below.fresh target.stagingStem item kept)
    · intro other live found
      obtain ⟨_, _, backs⟩ := mirrors.pending_of_live found
      exact backs.name_ne target.stagingStem

/-- Nothing happens under a name that nothing is pending under. -/
private theorem unknown (mirrors : Mirrors session ledger) {id : Text} {action : Action}
    (needs : action.pending? = some id) (absent : session.find? id = none) :
    Mirrors (session.act action).2 (ledger.record (session.act action).1.succeeded action) := by
  obtain ⟨nothing, same⟩ := mirrors.note_of_unknown absent
  have recorded : ledger.record false action = ledger := by
    cases action with
    | append =>
      cases needs
      simpa only [Ledger.record, nothing, Option.map_none] using same
    | commit | abort | drop =>
      cases needs
      exact same
    | fold | begin | put | remove => cases needs
  rw [Session.act_of_unknown needs absent]
  change Mirrors session (ledger.record false action)
  rw [recorded]
  exact mirrors

private theorem append (mirrors : Mirrors session ledger) {id : Text} {replacement : Replacement Staged}
    (live : session.find? id = some replacement) (bytes : Bytes) (succeeded : Bool) :
    Mirrors (session.act (.append id bytes)).2 (ledger.record succeeded (.append id bytes)) := by
  obtain ⟨pending, noted, backs⟩ := mirrors.pending_of_live live
  rw [Session.act_append live]
  simp only [Ledger.record, noted, Option.map_some]
  refine ⟨?_, mirrors.here, mirrors.below.append _ _, ?_, mirrors.apart⟩
  · exact (Disk.plain_append_hidden session.host.disk backs.hidden bytes).trans mirrors.seen
  · intro other
    change Option.Rel _ (session.find? other) _
    rw [Ledger.pending_note]
    split
    case isTrue same =>
      rw [same, live]
      exact .some (backs.append bytes)
    case isFalse distinct =>
      -- A replacement under another name has another staged file.
      cases found : session.find? other with
      | none =>
        rw [(mirrors.note_of_unknown found).1]
        exact .none
      | some rival =>
        obtain ⟨_, listed, held⟩ := mirrors.pending_of_live found
        rw [listed]
        exact .some (held.append_other (fun same => distinct (mirrors.apart _ _ _ _ found live same)) bytes)

/-- A replacement that is given up is forgotten, whether its staged file could be removed or not. -/
theorem giveUp (mirrors : Mirrors session ledger) {id : Text} {replacement : Replacement Staged}
    (live : session.find? id = some replacement) :
    Mirrors { session.release id with host := session.host.without replacement.staged } (ledger.note id none) :=
  (mirrors.without live).release id

/-- A commit that succeeds puts in place what the ledger has for the replacement. -/
theorem commit_inv (mirrors : Mirrors session ledger) {id : Text}
    (succeeded : (session.act (.commit id)).1.succeeded = true) :
    ∃ replacement pending source location, session.find? id = some replacement ∧
      ledger.pending id = some pending ∧ Backs session.host replacement pending ∧
      source.name = replacement.staged.name ∧
      session.host.disk.named? session.host.here pending.target = some location ∧
      (session.act (.commit id)).2 = { session.release id with host :=
        { session.host with disk := (session.host.disk.erase source).insert location pending.entry } } := by
  cases live : session.find? id with
  | none =>
    rw [Session.act_of_unknown rfl live] at succeeded
    cases succeeded
  | some replacement =>
    obtain ⟨pending, noted, backs⟩ := mirrors.pending_of_live live
    rcases Session.act_commit_cases live with
      ⟨failure, failed⟩ | ⟨source, location, entry, named, found, aimed, _, done⟩
    · rw [failed] at succeeded
      cases succeeded
    · have held : entry = pending.entry := backs.holds _ (Disk.mem_of_find? found) named
      rw [backs.target] at aimed
      exact ⟨replacement, pending, source, location, rfl, noted, backs, named, aimed, by rw [done, held]⟩

private theorem commit (mirrors : Mirrors session ledger) {id : Text} {replacement : Replacement Staged}
    (live : session.find? id = some replacement) :
    Mirrors (session.act (.commit id)).2
      (ledger.record (session.act (.commit id)).1.succeeded (.commit id)) := by
  cases ended : (session.act (.commit id)).1.succeeded with
  | false =>
    rcases Session.act_commit_cases live with ⟨failure, failed⟩ | ⟨_, _, _, _, _, _, _, done⟩
    · rw [failed]
      exact mirrors.giveUp live
    · rw [done] at ended
      cases ended
  | true =>
    obtain ⟨replacement, pending, source, location, _, noted, backs, named, aimed, after⟩ := mirrors.commit_inv ended
    have hidden : source.name.isPlain = false := by
      rw [named]
      exact backs.hidden
    have placed := mirrors.place
      { session.host with disk := (session.host.disk.erase source).insert location pending.entry }
      aimed rfl (.erase _ source) (Disk.plain_erase_hidden _ hidden) rfl (Nat.le_refl _)
    have recorded : ledger.commit id = ledger.place pending.target pending.entry := by
      simp only [Ledger.commit, noted]
    rw [after]
    change Mirrors _ ((ledger.commit id).note id none)
    rw [recorded]
    exact placed.release id

/-- Others change what is seen, and staged files only as they take away their directories. -/
private theorem alter (mirrors : Mirrors session ledger) {next : Except Fault Disk} {noted : Except Fault Disk}
    (same : noted = next.map Disk.plain) (kept : ∀ after, next = .ok after → after.StagedWithin session.host.disk) :
    Mirrors (session.alter next).2 (ledger.alter noted) := by
  subst same
  cases next with
  | error fault => exact mirrors
  | ok after => exact mirrors.change { session.host with disk := after } rfl (Nat.le_refl _) (kept after rfl) rfl

theorem put (mirrors : Mirrors session ledger) (path : Path) (entry : Entry) (succeeded : Bool) :
    Mirrors (session.act (.put path entry)).2 (ledger.record succeeded (.put path entry)) := by
  have same := session.host.disk.put_plain session.host.here path entry
  rw [mirrors.seen, mirrors.here] at same
  refine mirrors.alter (by rw [mirrors.here]; exact same) ?_
  intro after changed
  exact .put changed

theorem remove (mirrors : Mirrors session ledger) (path : Path) (succeeded : Bool) :
    Mirrors (session.act (.remove path)).2 (ledger.record succeeded (.remove path)) := by
  have same := session.host.disk.remove_plain session.host.here path
  rw [mirrors.seen, mirrors.here] at same
  refine mirrors.alter (by rw [mirrors.here]; exact same) ?_
  intro after changed
  exact .remove changed

theorem fold (mirrors : Mirrors session ledger) (path : Path) (trailing : Trailing) :
    Mirrors (session.act (.fold path trailing)).2
      (ledger.record (session.act (.fold path trailing)).1.succeeded (.fold path trailing)) := by
  rcases foldFile_cases mirrors.below path trailing with
    ⟨events, failure, serial, _, grown, failed⟩ |
    ⟨place, bytes, mode, document, location, events, led, standing, folded, named, done⟩
  · have ended : session.act (.fold path trailing) =
        (.folded ⟨events, .error failure⟩, { session with host := { session.host with serial := serial } }) := by
      simp only [Session.act, failed]
    rw [ended]
    exact mirrors.change { session.host with serial := serial } rfl grown (.refl _) mirrors.seen
  · let entry := Entry.file (Utf8.encode document.contents) (Disk.modeAfterWrite mode)
    let host : MemoryHost := { session.host with
      disk := session.host.disk.insert location entry, serial := session.host.serial + 1 }
    have ended : session.act (.fold path trailing) =
        (.folded ⟨events, .ok ⟨path, document.lines, document.blocks⟩⟩, { session with host := host }) := by
      simp only [Session.act, done]
      rfl
    have opened := Disk.fetch_of_file led standing
    rw [← Disk.fetch_plain, mirrors.seen, mirrors.here] at opened
    have refolded : ledger.refold path trailing = ledger.place path entry := by
      simp only [Ledger.refold, opened, folded, entry]
    rw [ended]
    change Mirrors _ (ledger.refold path trailing)
    rw [refolded]
    exact mirrors.place host named rfl (.refl _) rfl rfl (Nat.le_succ _)

/-- Whatever happens next, the ledger can follow. -/
theorem act (mirrors : Mirrors session ledger) (action : Action) :
    Mirrors (session.act action).2 (ledger.record (session.act action).1.succeeded action) := by
  cases action with
  | fold path trailing => exact mirrors.fold path trailing
  | begin id target mode => exact mirrors.begin id target mode
  | append id bytes =>
    cases live : session.find? id with
    | none => exact mirrors.unknown rfl live
    | some replacement => exact mirrors.append live bytes _
  | commit id =>
    cases live : session.find? id with
    | none => exact mirrors.unknown rfl live
    | some replacement => exact mirrors.commit live
  | abort id =>
    cases live : session.find? id with
    | none => exact mirrors.unknown rfl live
    | some replacement =>
      rw [Session.act_abort live]
      exact mirrors.giveUp live
  | drop id =>
    cases live : session.find? id with
    | none => exact mirrors.unknown rfl live
    | some replacement =>
      rw [Session.act_drop live]
      exact mirrors.giveUp live
  | put path entry => exact mirrors.put path entry _
  | remove path => exact mirrors.remove path _

theorem opening {host : MemoryHost} (below : host.disk.StagedBelow host.serial) :
    Mirrors ⟨host, []⟩ (.opening host) where
  seen := rfl
  here := rfl
  below := below
  backed _ := .none
  apart _ _ _ _ found := by cases found

theorem run {session : Session} {ledger : Ledger} (mirrors : Mirrors session ledger) (actions : List Action) :
    Mirrors (session.run actions).2 (ledger.replay (session.run actions).1) := by
  induction actions generalizing session ledger with
  | nil => exact mirrors
  | cons action rest ih => exact ih (mirrors.act action)

end Mirrors

end CommentFold
