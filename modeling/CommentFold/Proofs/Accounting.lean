import CommentFold.Proofs.FoldSuccess
import CommentFold.Proofs.LookUps
import CommentFold.Proofs.Mirroring

/-! Staged files and the replacements that they belong to. As long as nobody else
changes the disk, every staged file on it belongs to one pending replacement, every
pending replacement has one, and whatever ends a replacement removes it. This takes
paths without links to what is replaced: a link can be replaced by a file, and
then nobody finds what was staged behind it. -/

namespace CommentFold

namespace MemoryHost

variable {host : MemoryHost} {staged : Staged} {holder : Place}

theorem discard_of_straight (straight : host.disk.Straight host.here staged.directory holder)
    (present : host.disk.find? ⟨holder, staged.name⟩ ≠ none) :
    host.disk.discard host.here staged = .ok (host.disk.erase ⟨holder, staged.name⟩) := by
  obtain ⟨entry, found⟩ := Option.ne_none_iff_exists'.mp present
  simp only [Disk.discard, Disk.locate, straight.resolveDirectory, found, bind, Except.bind]

theorem without_of_straight (straight : host.disk.Straight host.here staged.directory holder)
    (present : host.disk.find? ⟨holder, staged.name⟩ ≠ none) :
    host.without staged = { host with disk := host.disk.erase ⟨holder, staged.name⟩ } := by
  simp only [without, discard_of_straight straight present, change]

/-- What is staged for another replacement can as well come after a staged file is gone. -/
theorem without_insert (straight : host.disk.Straight host.here staged.directory holder)
    (present : host.disk.find? ⟨holder, staged.name⟩ ≠ none) (location : Location)
    (hidden : location.name.isPlain = false) (apart : location.name ≠ staged.name) (entry : Entry) (serial : Nat) :
    MemoryHost.without { host with disk := host.disk.insert location entry, serial := serial } staged =
      { host.without staged with disk := (host.without staged).disk.insert location entry, serial := serial } := by
  have elsewhere : location ≠ ⟨holder, staged.name⟩ := fun same => apart (congrArg Location.name same)
  have again : (host.disk.insert location entry).Straight host.here staged.directory holder :=
    straight.of_plain (Disk.plain_insert_hidden _ hidden entry)
  have still : (host.disk.insert location entry).find? ⟨holder, staged.name⟩ ≠ none := by
    rwa [Disk.find?_insert, if_neg (Ne.symm elsewhere)]
  rw [without_of_straight straight present, without_of_straight again still, Disk.erase_insert_of_ne _ elsewhere]

end MemoryHost

/-- An action of a session's own, which begins no replacement through a link. -/
def Session.permits (session : Session) : Action → Bool
  | .put .. | .remove _ => false
  | .begin _ target _ => session.host.disk.unlinked session.host.here target.stagingDirectory
  | .fold .. | .append .. | .commit _ | .abort _ | .drop _ => true

/-- Every action is permitted when its turn comes. -/
def Session.undisturbed : Session → List Action → Bool
  | _, [] => true
  | session, action :: rest => session.permits action && (session.act action).2.undisturbed rest

/-- The location is that of the file staged for the replacement that is pending under a name. -/
structure Session.Stages (session : Session) (id : Text) (location : Location) : Prop where
  present : session.host.disk.find? location ≠ none
  owned : ∃ replacement, session.find? id = some replacement ∧ location.name = replacement.staged.name ∧
    replacement.staged.directory = replacement.target.stagingDirectory ∧
    session.host.disk.Straight session.host.here replacement.staged.directory location.holder

/-- Pending replacements and staged files belong together. -/
structure Accounted (session : Session) : Prop where
  held : ∀ id, session.find? id ≠ none → ∃ location, session.Stages id location
  claimed : ∀ location, location.name.isPlain = false → session.host.disk.find? location ≠ none →
    ∃ id, session.Stages id location

namespace Session.Stages

variable {session : Session} {id : Text} {location : Location}

theorem carry (stages : session.Stages id location) {after : Session} (here : after.host.here = session.host.here)
    (live : after.find? id = session.find? id)
    (straight : ∀ path holder, session.host.disk.Straight session.host.here path holder →
      after.host.disk.Straight session.host.here path holder)
    (present : after.host.disk.find? location ≠ none) : after.Stages id location := by
  obtain ⟨_, replacement, known, named, beside, led⟩ := stages
  refine ⟨present, replacement, live.trans known, named, beside, ?_⟩
  rw [here]
  exact straight _ _ led

theorem unique {other : Location} (first : session.Stages id location) (second : session.Stages id other) :
    location = other := by
  obtain ⟨_, replacement, known, named, _, led⟩ := first
  obtain ⟨_, _, known', named', _, led'⟩ := second
  cases known.symm.trans known'
  cases location
  cases other
  cases named.trans named'.symm
  cases led.unique led'
  rfl

theorem name_eq {replacement : Replacement Staged} (stages : session.Stages id location)
    (live : session.find? id = some replacement) : location.name = replacement.staged.name := by
  obtain ⟨_, _, known, named, _⟩ := stages
  cases known.symm.trans live
  exact named

end Session.Stages

section

variable {session : Session} {ledger : Ledger} (mirrors : Mirrors session ledger) {id : Text} {location : Location}

include mirrors

theorem Session.Stages.id_eq {other : Text} {another : Location} (first : session.Stages id location)
    (second : session.Stages other another) (same : location.name = another.name) : id = other := by
  obtain ⟨_, _, known, named, _⟩ := first
  obtain ⟨_, _, known', named', _⟩ := second
  exact mirrors.apart _ _ _ _ known known' (named.symm.trans (same.trans named'))

theorem Session.Stages.hidden (stages : session.Stages id location) : location.name.isPlain = false := by
  obtain ⟨_, _, known, named, _⟩ := stages
  obtain ⟨_, _, backs⟩ := mirrors.pending_of_live known
  rw [named]
  exact backs.hidden

end

namespace Accounted

variable {session : Session} {ledger : Ledger}

/-- A change of the disk that leaves staged files and the paths to them. -/
theorem change (accounted : Accounted session) (mirrors : Mirrors session ledger) (after : MemoryHost)
    (here : after.here = session.host.here)
    (straight : ∀ path holder, session.host.disk.Straight session.host.here path holder →
      after.disk.Straight session.host.here path holder)
    (staged : ∀ location, location.name.isPlain = false →
      (after.disk.find? location = none ↔ session.host.disk.find? location = none)) :
    Accounted { session with host := after } where
  held id live := by
    obtain ⟨location, stages⟩ := accounted.held id live
    exact ⟨location, stages.carry here rfl straight (mt (staged location (stages.hidden mirrors)).mp stages.present)⟩
  claimed location hidden present := by
    obtain ⟨id, stages⟩ := accounted.claimed location hidden (mt (staged location hidden).mpr present)
    exact ⟨id, stages.carry here rfl straight present⟩

section

variable (accounted : Accounted session) {id : Text} {replacement : Replacement Staged}
  (live : session.find? id = some replacement)

include accounted live

theorem stages_of_live : ∃ location, session.Stages id location := accounted.held id (by rw [live]; simp)

theorem holder_of_live :
    ∃ holder, session.host.disk.Straight session.host.here replacement.staged.directory holder ∧
      session.host.disk.find? ⟨holder, replacement.staged.name⟩ ≠ none := by
  obtain ⟨⟨holder, name⟩, present, _, known, named, _, led⟩ := accounted.stages_of_live live
  cases known.symm.trans live
  cases named
  exact ⟨holder, led, present⟩

variable (mirrors : Mirrors session ledger)

include mirrors

/-- A replacement has no staged file but its own. -/
theorem own {location other : Location} (stages : session.Stages id location)
    (named : other.name = replacement.staged.name) (present : session.host.disk.find? other ≠ none) :
    other = location := by
  obtain ⟨_, _, backs⟩ := mirrors.pending_of_live live
  obtain ⟨claimant, claims⟩ := accounted.claimed other (by rw [named]; exact backs.hidden) present
  cases claims.id_eq mirrors stages (named.trans (stages.name_eq live).symm)
  exact claims.unique stages

/-- A replacement ends, its staged file is gone, and no other is. -/
theorem settle (after : MemoryHost) (here : after.here = session.host.here)
    (straight : ∀ path holder, session.host.disk.Straight session.host.here path holder →
      after.disk.Straight session.host.here path holder)
    (staged : ∀ location, location.name.isPlain = false → after.disk.find? location =
      if location.name = replacement.staged.name then none else session.host.disk.find? location) :
    Accounted { session.release id with host := after } where
  held other kept := by
    have released := session.find?_release id other
    split at released
    case isTrue => exact absurd released kept
    case isFalse distinct =>
      obtain ⟨location, stages⟩ := accounted.held other (fun none => kept (released.trans none))
      refine ⟨location, stages.carry here released straight ?_⟩
      rw [staged location (stages.hidden mirrors), if_neg]
      · exact stages.present
      · obtain ⟨own, mine⟩ := accounted.stages_of_live live
        exact fun same => distinct (stages.id_eq mirrors mine (same.trans (mine.name_eq live).symm))
  claimed location hidden present := by
    change after.disk.find? location ≠ none at present
    have before := staged location hidden
    split at before
    case isTrue => exact absurd before present
    case isFalse apart =>
      obtain ⟨other, stages⟩ := accounted.claimed location hidden (fun none => present (before.trans none))
      have distinct : other ≠ id := by
        rintro rfl
        exact apart (stages.name_eq live)
      refine ⟨other, stages.carry here ?_ straight present⟩
      exact (session.find?_release id other).trans (if_neg distinct)

theorem find?_erase_own {source : Location} (named : source.name = replacement.staged.name)
    (present : session.host.disk.find? source ≠ none) (location : Location) :
    (session.host.disk.erase source).find? location =
      if location.name = replacement.staged.name then none else session.host.disk.find? location := by
  rw [Disk.find?_erase]
  by_cases same : location = source
  · rw [if_pos same, if_pos (by rw [same, named])]
  · rw [if_neg same]
    split
    case isTrue alike =>
      by_contra left
      obtain ⟨own, stages⟩ := accounted.stages_of_live live
      have mine := accounted.own live mirrors stages named present
      exact same ((accounted.own live mirrors stages alike left).trans mine.symm)
    case isFalse => rfl

/-- The staged file of a pending replacement can be discarded, and no other goes with it. -/
theorem discards :
    (∃ after, session.host.disk.discard session.host.here replacement.staged = .ok after) ∧
    ∀ location, (session.host.without replacement.staged).disk.find? location =
      if location.name = replacement.staged.name then none else session.host.disk.find? location := by
  obtain ⟨holder, led, present⟩ := accounted.holder_of_live live
  refine ⟨⟨_, MemoryHost.discard_of_straight led present⟩, ?_⟩
  intro location
  rw [MemoryHost.without_of_straight led present]
  exact accounted.find?_erase_own live mirrors rfl present location

theorem giveUp : Accounted { session.release id with host := session.host.without replacement.staged } := by
  obtain ⟨_, _, backs⟩ := mirrors.pending_of_live live
  refine accounted.settle live mirrors _ (session.host.without_here _) ?_
    fun location _ => (accounted.discards live mirrors).2 location
  exact fun path holder led => led.of_plain (session.host.without_plain _ backs.hidden)

theorem commit :
    Accounted (session.act (.commit id)).2 ∧
    ∀ location, location.name.isPlain = false → (session.act (.commit id)).2.host.disk.find? location =
      if location.name = replacement.staged.name then none else session.host.disk.find? location := by
  -- A commit that fails gives the staged file up, and one that succeeds has moved it.
  rcases Session.act_commit_cases live with
    ⟨failure, failed⟩ | ⟨source, target, entry, named, found, aimed, free, done⟩
  · rw [failed]
    exact ⟨accounted.giveUp live mirrors, fun location _ => (accounted.discards live mirrors).2 location⟩
  · obtain ⟨_, _, backs⟩ := mirrors.pending_of_live live
    have erased := accounted.find?_erase_own live mirrors named (by rw [found]; simp)
    have staged : ∀ location, location.name.isPlain = false →
        ((session.host.disk.erase source).insert target entry).find? location =
          if location.name = replacement.staged.name then none else session.host.disk.find? location := by
      intro location hidden
      rw [Disk.find?_insert, if_neg (Disk.ne_of_isPlain (Disk.named?_isPlain aimed) hidden), erased]
    rw [done]
    refine ⟨accounted.settle live mirrors
      { session.host with disk := (session.host.disk.erase source).insert target entry } rfl ?_ staged, staged⟩
    intro path holder led
    have hidden : source.name.isPlain = false := by
      rw [named]
      exact backs.hidden
    refine (led.of_plain (session.host.disk.plain_erase_hidden hidden)).insert ?_ entry
    rw [erased]
    split
    · simp
    · exact free

/-- However a replacement ends, what is staged after it is what was staged for others. -/
theorem ends {location : Location} (stages : session.Stages id location) {action : Action}
    (ending : action ∈ [Action.commit id, .abort id, .drop id]) (other : Location)
    (hidden : other.name.isPlain = false) :
    (session.act action).2.host.disk.find? other = if other = location then none else session.host.disk.find? other := by
  have removed : (session.act action).2.host.disk.find? other =
      if other.name = replacement.staged.name then none else session.host.disk.find? other := by
    simp only [List.mem_cons, List.not_mem_nil, or_false] at ending
    rcases ending with rfl | rfl | rfl
    · exact (accounted.commit live mirrors).2 other hidden
    · rw [Session.act_abort live]
      exact (accounted.discards live mirrors).2 other
    · rw [Session.act_drop live]
      exact (accounted.discards live mirrors).2 other
  rw [removed, ← accounted.find?_erase_own live mirrors (stages.name_eq live) stages.present, Disk.find?_erase]

end

private theorem forget (accounted : Accounted session) {id : Text} (unknown : session.find? id = none) :
    Accounted (session.release id) := by
  have same : ∀ other, (session.release id).find? other = session.find? other := by
    intro other
    rw [session.find?_release]
    split
    case isTrue named => rw [named, unknown]
    case isFalse => rfl
  constructor
  · intro other known
    rw [same] at known
    obtain ⟨location, stages⟩ := accounted.held other known
    exact ⟨location, stages.carry rfl (same other) (fun _ _ led => led) stages.present⟩
  · intro location hidden present
    obtain ⟨other, stages⟩ := accounted.claimed location hidden present
    exact ⟨other, stages.carry rfl (same other) (fun _ _ led => led) stages.present⟩

/-- What is staged under a name that nothing is pending under is claimed by its replacement. -/
private theorem register (accounted : Accounted session) {id : Text} (unknown : session.find? id = none)
    (replacement : Replacement Staged) (holder : Place) (hidden : replacement.staged.name.isPlain = false)
    (beside : replacement.staged.directory = replacement.target.stagingDirectory)
    (led : session.host.disk.Straight session.host.here replacement.staged.directory holder) (entry : Entry)
    (serial : Nat) :
    Accounted ⟨{ session.host with
      disk := session.host.disk.insert ⟨holder, replacement.staged.name⟩ entry, serial := serial },
      (id, replacement) :: session.live⟩ := by
  let location : Location := ⟨holder, replacement.staged.name⟩
  let after : Session := ⟨{ session.host with
    disk := session.host.disk.insert location entry, serial := serial }, (id, replacement) :: session.live⟩
  have same : (session.host.disk.insert location entry).plain = session.host.disk.plain :=
    Disk.plain_insert_hidden _ hidden entry
  have newcomer : after.Stages id location := by
    refine ⟨?_, replacement, ?_, rfl, beside, led.of_plain same⟩
    · change (session.host.disk.insert location entry).find? location ≠ none
      rw [Disk.find?_insert, if_pos rfl]
      simp
    · simp [after, Session.find?]
  have others : ∀ other standing, session.Stages other standing → after.Stages other standing := by
    intro other standing stages
    have distinct : (other == id) = false := by
      obtain ⟨_, _, known, _⟩ := stages
      rw [beq_eq_false_iff_ne]
      rintro rfl
      cases unknown.symm.trans known
    refine stages.carry rfl ?_ (fun path holder led => led.of_plain same) ?_
    · simp only [after, Session.find?, List.lookup_cons, distinct]
    · change (session.host.disk.insert location entry).find? standing ≠ none
      rw [Disk.find?_insert]
      split
      · simp
      · exact stages.present
  constructor
  · intro other known
    by_cases new : other = id
    · subst other
      exact ⟨location, newcomer⟩
    · have apart : (other == id) = false := by simpa using new
      have earlier : session.find? other ≠ none := by
        simpa only [Session.find?, List.lookup_cons, apart] using known
      obtain ⟨standing, stages⟩ := accounted.held other earlier
      exact ⟨standing, others other standing stages⟩
  · intro standing unspelled present
    change (session.host.disk.insert location entry).find? standing ≠ none at present
    rw [Disk.find?_insert] at present
    split at present
    case isTrue new => exact ⟨id, new ▸ newcomer⟩
    case isFalse =>
      obtain ⟨other, stages⟩ := accounted.claimed standing unspelled present
      exact ⟨other, others other standing stages⟩

section

variable (accounted : Accounted session) (mirrors : Mirrors session ledger)

include accounted mirrors

private theorem fold (path : Path) (trailing : Trailing) : Accounted (session.act (.fold path trailing)).2 := by
  change Accounted { session with host := ((foldFile path trailing : StateM MemoryHost _) session.host).2 }
  cases done : ((foldFile path trailing : StateM MemoryHost _) session.host).1.result with
  | error failure =>
    obtain ⟨_, serial, _, after⟩ := foldFile_failed mirrors.below done
    rw [after]
    exact accounted.change mirrors _ rfl (fun _ _ led => led) fun _ _ => Iff.rfl
  | ok report =>
    obtain ⟨_, _, _, _, target, _, _, _, able, _, after⟩ := foldFile_inv mirrors.below done
    rw [after]
    refine accounted.change mirrors _ rfl (fun path holder led => led.insert able.free _) ?_
    intro location hidden
    rw [Disk.find?_insert, if_neg (Disk.ne_of_isPlain (Disk.named?_isPlain able.named) hidden)]

private theorem append {id : Text} {replacement : Replacement Staged} (live : session.find? id = some replacement)
    (bytes : Bytes) : Accounted (session.act (.append id bytes)).2 := by
  obtain ⟨_, _, backs⟩ := mirrors.pending_of_live live
  rw [Session.act_append live]
  refine accounted.change mirrors _ rfl ?_ ?_
  · exact fun path holder led => led.of_plain (session.host.disk.plain_append_hidden backs.hidden bytes)
  · intro location _
    rw [Disk.find?_append]
    split <;> simp

private theorem begin {id : Text} {target : Path} {mode : Nat}
    (straight : session.host.disk.unlinked session.host.here target.stagingDirectory = true) :
    Accounted (session.act (.begin id target mode)).2 := by
  rcases session.act_begin_cases id target mode with ⟨failure, refused⟩ | ⟨holder, reached, begun⟩
  · rw [refused]
    exact accounted
  have led := Disk.Straight.of_resolveDirectory reached straight
  let name := Name.staged target.stagingStem session.host.serial
  let replacement : Replacement Staged := ⟨target, ⟨target.stagingDirectory, name⟩⟩
  have gone (after : MemoryHost) : ({ session.release id with host := after } : Session).find? id = none :=
    (session.find?_release id id).trans (if_pos rfl)
  rw [begun]
  cases live : session.find? id with
  | none =>
    have nothing (after : MemoryHost) : ({ session with host := after } : Session).find? id = none := live
    simp only [Session.keep, nothing]
    exact (accounted.forget live).register (gone session.host) replacement holder rfl rfl led (.file [] mode) _
  | some earlier =>
    have something (after : MemoryHost) : ({ session with host := after } : Session).find? id = some earlier := live
    simp only [Session.keep, something, Replacement.drop_eq]
    obtain ⟨_, _, backs⟩ := mirrors.pending_of_live live
    obtain ⟨earlier_holder, away, present⟩ := accounted.holder_of_live live
    -- So the replacement that had the name is given up first, and the new one registered after it.
    have swapped := MemoryHost.without_insert away present ⟨holder, name⟩ rfl
      (backs.name_ne _).symm (.file [] mode) (session.host.serial + 1)
    rw [swapped]
    refine (accounted.giveUp live mirrors).register (gone _) replacement holder rfl rfl ?_ (.file [] mode) _
    rw [session.host.without_here]
    exact led.of_plain (session.host.without_plain _ backs.hidden)

theorem act {action : Action} (permitted : session.permits action = true) :
    Accounted (session.act action).2 := by
  have unknown {id : Text} (needs : action.pending? = some id) (absent : session.find? id = none) :
      Accounted (session.act action).2 := by
    rw [Session.act_of_unknown needs absent]
    exact accounted
  cases action with
  | fold path trailing => exact accounted.fold mirrors path trailing
  | begin id target mode => exact accounted.begin mirrors permitted
  | append id bytes =>
    cases live : session.find? id with
    | none => exact unknown rfl live
    | some replacement => exact accounted.append mirrors live bytes
  | commit id =>
    cases live : session.find? id with
    | none => exact unknown rfl live
    | some replacement => exact (accounted.commit live mirrors).1
  | abort id =>
    cases live : session.find? id with
    | none => exact unknown rfl live
    | some replacement =>
      rw [Session.act_abort live]
      exact accounted.giveUp live mirrors
  | drop id =>
    cases live : session.find? id with
    | none => exact unknown rfl live
    | some replacement =>
      rw [Session.act_drop live]
      exact accounted.giveUp live mirrors
  | put | remove => cases permitted

end

end Accounted

end CommentFold
