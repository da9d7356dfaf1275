import CommentFold.Proofs.FoldSuccess
import CommentFold.Proofs.StagingPlaces

/-! Paths that lead to a file. Such a path ends in the name of an entry that is no
directory, so a replacement can be staged beside it unless a name or a path gets too long. -/

namespace CommentFold

namespace Disk

variable {disk : Disk} {here place middle final holder : Place} {path : Path} {steps more : List Step} {name : Bytes}

/-! Where a look-up passes -/

private theorem advance_of_append {jump : Place → List Step → Except Fault Place}
    (ends : ∀ middle, disk.advance jump middle more = .ok final → ∃ links, disk.walk links middle more = .ok final)
    (jumps : ∀ place steps, jump place (steps ++ more) = .ok final →
      ∃ middle links, jump place steps = .ok middle ∧ disk.walk links middle more = .ok final)
    (reached : disk.advance jump place (steps ++ more) = .ok final) :
    ∃ middle links, disk.advance jump place steps = .ok middle ∧ disk.walk links middle more = .ok final := by
  induction steps generalizing place with
  | nil =>
    obtain ⟨links, last⟩ := ends place reached
    exact ⟨place, links, rfl, last⟩
  | cons step rest ih =>
    rw [List.cons_append] at reached
    unfold advance at reached ⊢
    split at reached
    case isTrue => cases reached
    case isFalse stands =>
      rw [if_neg stands]
      cases step with
      | stay | up => exact ih reached
      | down name =>
        dsimp only at reached ⊢
        split at reached
        · cases reached
        next short =>
          rw [if_neg short]
          split at reached
          next => cases reached
          next target _ =>
            rw [← List.append_assoc] at reached
            exact jumps _ _ reached
          next => exact ih reached

/-- What the first steps lead to is passed on the way. -/
theorem walk_of_append {links : Nat} (reached : disk.walk links place (steps ++ more) = .ok final) :
    ∃ middle left, disk.walk links place steps = .ok middle ∧ disk.walk left middle more = .ok final := by
  induction links generalizing place steps with
  | zero => exact advance_of_append (fun _ last => ⟨0, last⟩) (fun _ _ refused => by cases refused) reached
  | succ links ih => exact advance_of_append (fun _ last => ⟨links + 1, last⟩) (fun _ _ => ih) reached

private theorem advance_down_inv {jump : Place → List Step → Except Fault Place}
    (reached : disk.advance jump place [.down name] = .ok final) :
    disk.entryAt? place = some .directory ∧ (Name.plain name).tooLong = false ∧
      (disk.find? ⟨place, .plain name⟩ = some .directory → final = place ++ [name]) := by
  unfold advance at reached
  split at reached
  case isTrue => cases reached
  case isFalse stands =>
    dsimp only at reached
    split at reached
    · cases reached
    next short =>
      refine ⟨not_not.mp stands, Bool.eq_false_iff.mpr short, fun found => ?_⟩
      rw [found] at reached
      cases reached
      rfl

theorem walk_down_inv {links : Nat} (reached : disk.walk links place [.down name] = .ok final) :
    disk.entryAt? place = some .directory ∧ (Name.plain name).tooLong = false ∧
      (disk.find? ⟨place, .plain name⟩ = some .directory → final = place ++ [name]) := by
  cases links with
  | zero => exact advance_down_inv reached
  | succ links => exact advance_down_inv reached

/-- All places above a place are directories. -/
def Enclosed (disk : Disk) (place : Place) : Prop :=
  ∀ count < place.length, disk.entryAt? (place.take count) = some .directory

theorem Enclosed.dropLast (above : disk.Enclosed place) : disk.Enclosed place.dropLast := by
  intro count before
  rw [List.length_dropLast] at before
  rw [List.dropLast_eq_take, List.take_take, Nat.min_eq_left (Nat.le_of_lt before)]
  exact above count (by omega)

theorem Enclosed.concat (above : disk.Enclosed place) (stands : disk.entryAt? place = some .directory) (name : Bytes) :
    disk.Enclosed (place ++ [name]) := by
  intro count before
  rw [List.length_append, List.length_singleton] at before
  rw [List.take_append_of_le_length (by omega)]
  rcases Nat.lt_or_eq_of_le (Nat.le_of_lt_succ before) with inside | rfl
  · exact above count inside
  · rwa [List.take_length]

theorem Enclosed.entryAt?_dropLast (above : disk.Enclosed place) : disk.entryAt? place.dropLast = some .directory := by
  rcases place.eq_nil_or_concat with rfl | ⟨front, last, rfl⟩
  · rfl
  · rw [List.dropLast_eq_take]
    exact above _ (by simp)

theorem Leads.enclosed (leads : disk.Leads place steps final) (above : disk.Enclosed place) : disk.Enclosed final := by
  induction leads with
  | done => exact above
  | stay _ _ ih => exact ih above
  | up _ _ ih => exact ih above.dropLast
  | @follow place _ _ _ target _ _ _ ih =>
    refine ih ?_
    unfold Path.startFrom
    split
    · intro count before
      cases before
    · exact above
  | down stands _ _ _ ih => exact ih (above.concat stands _)

/-- A step up leads to a directory, because what was reached lies in one. -/
theorem Enclosed.stands_of_walk_up {links : Nat} (above : disk.Enclosed place)
    (reached : disk.walk links place (steps ++ [.up]) = .ok final) : disk.entryAt? final = some .directory := by
  obtain ⟨middle, _, first, second⟩ := walk_of_append reached
  cases walk_leads _ second with
  | up stands later =>
    cases later
    exact ((walk_leads _ first).enclosed above).entryAt?_dropLast

/-- A place from which a program can work: its names can be spelled, and it and all
places above it are directories. -/
structure WorksIn (disk : Disk) (here : Place) : Prop where
  spelled : ∀ name ∈ here, 0 ∉ name
  stands : ∀ count, disk.entryAt? (here.take count) = some .directory

theorem WorksIn.startFrom (works : disk.WorksIn here) (path : Path) : disk.Enclosed (path.startFrom here) := by
  intro count _
  unfold Path.startFrom
  split
  · rw [List.take_nil, entryAt?_nil]
  · exact works.stands count

/-! The entry at the end -/

/-- The path ends in a name that a directory gives to something else than a directory. -/
structure EndsIn (disk : Disk) (here : Place) (path : Path) (holder : Place) (name : Bytes) : Prop where
  spelled : path.check = .ok ()
  last : path.lastStep? = some (.down name)
  unslashed : path.endsInSlash = false
  reached : disk.resolveHolder here path = .ok holder
  short : (Name.plain name).tooLong = false
  free : disk.find? ⟨holder, .plain name⟩ ≠ some .directory

/-- What a path that leads to a file ends in. -/
theorem exists_endsIn (works : disk.WorksIn here) (led : disk.resolve here path = .ok place)
    {bytes : Bytes} {mode : Nat} (standing : disk.entryAt? place = some (.file bytes mode)) :
    ∃ holder name, disk.EndsIn here path holder name := by
  obtain ⟨⟨⟩, spelled, walked⟩ := bind_eq_ok led
  have solid : disk.entryAt? place ≠ some .directory := by simp [standing]
  have unslashed : path.endsInSlash = false := by
    by_contra slashed
    rw [Path.steps, if_pos (Bool.not_eq_false _ |>.mp slashed)] at walked
    exact solid (stands_of_walk_stay walked)
  obtain ⟨front, last, pieces, filled⟩ := path.exists_pieces (Path.check_eq_ok_iff.mp spelled).2.1 unslashed
  obtain ⟨_, ended⟩ := Path.leadingSteps_of_pieces pieces filled
  rw [Path.steps_of_lastStep? ended unslashed] at walked
  -- Only a name leads to what is no directory.
  cases step : Step.ofSegment last with
  | stay =>
    rw [step] at walked
    exact absurd (stands_of_walk_stay walked) solid
  | up =>
    rw [step] at walked
    exact absurd ((works.startFrom path).stands_of_walk_up walked) solid
  | down name =>
    rw [step] at walked ended
    obtain ⟨holder, _, first, second⟩ := walk_of_append walked
    obtain ⟨stands, short, passed⟩ := walk_down_inv second
    refine ⟨holder, name, spelled, ended, unslashed, ?_, short, ?_⟩
    · simp only [resolveHolder, spelled, walkToDirectory, first, stands, bind, Except.bind, if_pos]
    · intro found
      rw [passed found, entryAt?_append] at solid
      exact solid found

/-! Room for a staged file -/

theorem length_bytes_staged (stem : Bytes) (serial : Nat) :
    (Name.staged stem serial).bytes.length = stem.length + 10 := by
  simp only [Name.bytes, List.length_append, List.length_replicate]
  rfl

/-- The name of a staged file is eleven bytes longer than a name that it is made from. -/
theorem staged_short_iff (named : path.fileName? = some name) (serial : Nat) :
    (Name.staged path.stagingStem serial).tooLong = false ↔ Utf8.decode? name = none ∨ name.length ≤ 244 := by
  rw [Name.tooLong, decide_eq_false_iff_not, length_bytes_staged, Path.stagingStem, named]
  cases decoded : Utf8.decode? name with
  | none =>
    have short : Path.namelessStem.length = 10 := rfl
    simp [decoded, short, Name.maxLength]
  | some text =>
    simp only [decoded, Option.isSome_some, if_true, List.length_cons, Name.maxLength, reduceCtorEq, false_or]
    omega

theorem mem_intercalate {α : Type} {separator : List α} {pieces : List (List α)} {item : α}
    (member : item ∈ separator.intercalate pieces) : item ∈ separator ∨ ∃ piece ∈ pieces, item ∈ piece := by
  induction pieces with
  | nil => cases member
  | cons piece rest ih =>
    cases rest with
    | nil => exact .inr ⟨piece, by simp, by simpa using member⟩
    | cons next rest =>
      rw [List.intercalate_cons_cons, List.append_assoc, List.mem_append, List.mem_append] at member
      rcases member with here | between | later
      · exact .inr ⟨piece, by simp, here⟩
      · exact .inl between
      · rcases ih later with between | ⟨other, inside, found⟩
        · exact .inl between
        · exact .inr ⟨other, List.mem_cons_of_mem _ inside, found⟩

theorem zero_not_mem_join {first next : Path} (before : 0 ∉ first.bytes) (after : 0 ∉ next.bytes) :
    0 ∉ (first.join next).bytes := by
  unfold Path.join
  split
  · exact after
  · split <;> simp [before, after, slash]

theorem bytes_join_ne_nil (first : Path) {next : Path} (filled : next.bytes ≠ []) : (first.join next).bytes ≠ [] := by
  unfold Path.join
  split
  · exact filled
  · split <;> simp [filled]

theorem WorksIn.zero_not_mem (works : disk.WorksIn here) : 0 ∉ (Path.ofPlace here).bytes := by
  intro member
  rcases List.mem_cons.mp member with first | later
  · cases first
  · rcases mem_intercalate later with between | ⟨name, inside, found⟩
    · simp [slash] at between
    · exact works.spelled name inside found

theorem zero_not_mem_staged (spelled : 0 ∉ path.bytes) (last : path.lastStep? = some (.down name))
    (unslashed : path.endsInSlash = false) (serial : Nat) : 0 ∉ (Name.staged path.stagingStem serial).bytes := by
  obtain ⟨front, pieces, _⟩ := Path.exists_front last unslashed
  have member : name ∈ path.bytes.splitOn slash := by simp [pieces]
  have stem : 0 ∉ path.stagingStem := by
    rw [Path.stagingStem, Path.fileName?_of_lastStep? last]
    dsimp only
    split
    · exact List.not_mem_cons_of_ne_of_not_mem (by decide) fun inside => spelled (subset_of_mem_splitOn member inside)
    · decide
  simp only [Name.bytes, List.mem_append, not_or]
  exact ⟨⟨stem, by decide⟩, by decide⟩

/-- There is room for the file that is staged for a path: it has neither too long a name
nor too long a path. -/
structure Room (here : Place) (path : Path) : Prop where
  named : ∃ name, path.fileName? = some name ∧ (Utf8.decode? name = none ∨ name.length ≤ 244)
  reached : (stagedPath here path.stagingDirectory (.staged path.stagingStem 0)).bytes.length < pathLimit

namespace EndsIn

theorem named (ends : disk.EndsIn here path holder name) : path.fileName? = some name :=
  Path.fileName?_of_lastStep? ends.last

theorem beside (ends : disk.EndsIn here path holder name) :
    disk.resolveDirectory here path.stagingDirectory = .ok holder :=
  (resolveDirectory_stagingDirectory ends.last ends.unslashed ends.spelled).trans ends.reached

/-- A staged file can be named next to a file, unless its path gets too long. -/
theorem check_stagedPath (ends : disk.EndsIn here path holder name) (works : disk.WorksIn here) (serial : Nat) :
    (stagedPath here path.stagingDirectory (.staged path.stagingStem serial)).check =
      if (stagedPath here path.stagingDirectory (.staged path.stagingStem serial)).bytes.length < pathLimit then .ok ()
      else .error .nameTooLong := by
  obtain ⟨front, pieces, proper, _⟩ := Path.exists_front ends.last ends.unslashed
  obtain ⟨whole, _⟩ := Path.check_eq_ok_iff.mp ends.spelled
  obtain ⟨beside, _⟩ := Path.check_eq_ok_iff.mp (Path.check_stagingDirectory pieces proper nofun ends.spelled)
  have staged := zero_not_mem_staged whole ends.last ends.unslashed serial
  have spellable : 0 ∉ (stagedPath here path.stagingDirectory (.staged path.stagingStem serial)).bytes :=
    zero_not_mem_join (zero_not_mem_join works.zero_not_mem beside) staged
  have filled : (stagedPath here path.stagingDirectory (.staged path.stagingStem serial)).bytes ≠ [] :=
    bytes_join_ne_nil _ (by simp [Name.bytes, Name.randomLength])
  rw [Path.check, if_neg spellable, if_neg filled]
  split
  next long => rw [if_neg (Nat.not_lt.mpr long)]
  next short => rw [if_pos (Nat.not_le.mp short)]

theorem room_iff (ends : disk.EndsIn here path holder name) (works : disk.WorksIn here) (serial : Nat) :
    Room here path ↔
      (stagedPath here path.stagingDirectory (.staged path.stagingStem serial)).check = .ok () ∧
        (Name.staged path.stagingStem serial).tooLong = false := by
  rw [ends.check_stagedPath works, staged_short_iff ends.named]
  constructor
  · rintro ⟨⟨other, same, fits⟩, within⟩
    cases ends.named.symm.trans same
    -- The path is as long whatever the serial number is.
    exact ⟨if_pos within, fits⟩
  · rintro ⟨spelled, fits⟩
    refine ⟨⟨name, ends.named, fits⟩, ?_⟩
    split at spelled
    next within => exact within
    next => cases spelled

/-- What is staged for a file is refused where there is no room, for what is too long. -/
theorem stage_of_no_room (ends : disk.EndsIn here path holder name) (works : disk.WorksIn here)
    (crowded : ¬Room here path) (serial mode : Nat) :
    disk.stage here path.stagingDirectory (.staged path.stagingStem serial) mode = .error .nameTooLong := by
  rw [ends.room_iff works serial] at crowded
  have checked := ends.check_stagedPath works serial
  unfold stage
  split at checked
  next =>
    have long := Bool.not_eq_false _ |>.mp (not_and.mp crowded checked)
    simp only [checked, ends.beside, long, bind, Except.bind, if_true]
  next =>
    rw [checked]
    rfl

end EndsIn

/-- A path that leads to a file names what can be replaced, if there is room for what is staged. -/
theorem replaceable_iff_room (works : disk.WorksIn here) (led : disk.resolve here path = .ok place)
    {bytes : Bytes} {mode : Nat} (standing : disk.entryAt? place = some (.file bytes mode)) :
    (∃ location, disk.Replaceable here path location) ↔ Room here path := by
  obtain ⟨holder, name, ends⟩ := exists_endsIn works led standing
  rw [ends.room_iff works 0]
  constructor
  · rintro ⟨location, able⟩
    exact ⟨able.spelled, able.fits⟩
  · rintro ⟨spelled, fits⟩
    exact ⟨⟨holder, .plain name⟩, spelled, fits, ⟨holder, ends.beside⟩, named?_eq ends.reached ends.last, ends.short,
      ends.unslashed, ends.free⟩

end Disk

end CommentFold
