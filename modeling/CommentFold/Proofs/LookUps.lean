import CommentFold.Proofs.PlainEntries
import Mathlib.Data.List.Basic

/-! Look-ups that succeed. Where steps lead does not depend on how many links may be
followed, and steps can be taken in parts. When an entry that is no directory is
exchanged, a look-up that does not pass it ends where it did. -/

namespace CommentFold

/-- A path is looked up by looking up what holds its entry first. -/
theorem Path.steps_of_lastStep? {path : Path} {step : Step} (last : path.lastStep? = some step)
    (ended : path.endsInSlash = false) : path.steps = path.leadingSteps ++ [step] := by
  obtain ⟨segment, final, same⟩ := Option.map_eq_some_iff.mp last
  have whole := List.dropLast_append_getLast? segment final
  rw [steps, ← whole, List.map_append, List.map_singleton, same, ended]
  simp [leadingSteps]

namespace Disk

/-- Steps lead from one place to another, whatever number of links is on the way. -/
inductive Leads (disk : Disk) : Place → List Step → Place → Prop where
  | done (place : Place) : Leads disk place [] place
  | stay {place final : Place} {rest : List Step} (stands : disk.entryAt? place = some .directory)
      (later : Leads disk place rest final) : Leads disk place (.stay :: rest) final
  | up {place final : Place} {rest : List Step} (stands : disk.entryAt? place = some .directory)
      (later : Leads disk place.dropLast rest final) : Leads disk place (.up :: rest) final
  | follow {place final : Place} {name : Bytes} {rest : List Step} {target : Path}
      (stands : disk.entryAt? place = some .directory)
      (link : disk.find? ⟨place, .plain name⟩ = some (.link target))
      (later : Leads disk (target.startFrom place) (target.steps ++ rest) final) :
      Leads disk place (.down name :: rest) final
  | down {place final : Place} {name : Bytes} {rest : List Step} {entry : Entry}
      (stands : disk.entryAt? place = some .directory)
      (found : disk.find? ⟨place, .plain name⟩ = some entry) (solid : ∀ target, entry ≠ .link target)
      (later : Leads disk (place ++ [name]) rest final) : Leads disk place (.down name :: rest) final

variable {disk : Disk} {place middle final : Place} {steps rest : List Step} {location : Location} {name : Bytes}

namespace Leads

theorem unique {other : Place} (first : disk.Leads place steps final) (second : disk.Leads place steps other) :
    final = other := by
  induction first with
  | done => cases second; rfl
  | stay _ _ ih | up _ _ ih => cases second; exact ih ‹_›
  | follow _ link _ ih =>
    cases second with
    | follow _ again later =>
      cases Option.some.inj (link.symm.trans again)
      exact ih later
    | down _ found solid _ => exact absurd (Option.some.inj (found.symm.trans link)) (solid _)
  | down _ found solid _ ih =>
    cases second with
    | follow _ link _ => exact absurd (Option.some.inj (found.symm.trans link)) (solid _)
    | down _ _ _ later => exact ih later

theorem exists_of_append (steps : List Step) (whole : disk.Leads place (steps ++ rest) final) :
    ∃ middle, disk.Leads place steps middle ∧ disk.Leads middle rest final := by
  generalize all : steps ++ rest = taken at whole
  induction whole generalizing steps with
  | done place =>
    obtain ⟨rfl, rfl⟩ := List.append_eq_nil_iff.mp all
    exact ⟨place, .done place, .done place⟩
  | @stay place _ _ stands later ih =>
    rcases List.append_eq_cons_iff.mp all with ⟨rfl, rfl⟩ | ⟨steps, rfl, rfl⟩
    · exact ⟨place, .done place, .stay stands later⟩
    · obtain ⟨middle, first, second⟩ := ih _ rfl
      exact ⟨middle, .stay stands first, second⟩
  | @up place _ _ stands later ih =>
    rcases List.append_eq_cons_iff.mp all with ⟨rfl, rfl⟩ | ⟨steps, rfl, rfl⟩
    · exact ⟨place, .done place, .up stands later⟩
    · obtain ⟨middle, first, second⟩ := ih _ rfl
      exact ⟨middle, .up stands first, second⟩
  | @follow place _ _ _ target stands link later ih =>
    rcases List.append_eq_cons_iff.mp all with ⟨rfl, rfl⟩ | ⟨steps, rfl, rfl⟩
    · exact ⟨place, .done place, .follow stands link later⟩
    -- The steps of the link belong to the first part, so they are taken before the rest.
    · obtain ⟨middle, first, second⟩ := ih _ (List.append_assoc target.steps steps rest)
      exact ⟨middle, .follow stands link first, second⟩
  | @down place _ _ _ _ stands found solid later ih =>
    rcases List.append_eq_cons_iff.mp all with ⟨rfl, rfl⟩ | ⟨steps, rfl, rfl⟩
    · exact ⟨place, .done place, .down stands found solid later⟩
    · obtain ⟨middle, first, second⟩ := ih _ rfl
      exact ⟨middle, .down stands found solid first, second⟩

/-- No step is taken from what is no directory. -/
theorem nil_of_ne_directory (leads : disk.Leads place steps final) (standing : disk.entryAt? place ≠ some .directory) :
    steps = [] ∧ final = place := by
  cases leads with
  | done => exact ⟨rfl, rfl⟩
  | stay stands | up stands | follow stands | down stands => exact absurd stands standing

end Leads

/-- No look-up of a directory passes the location. -/
def Aside (disk : Disk) (location : Location) : Prop :=
  ∀ name rest final, location.name = .plain name → disk.Leads location.holder (.down name :: rest) final →
    disk.entryAt? final ≠ some .directory

/-- What leads to a file is on the way to no directory. -/
theorem Leads.aside {holder : Place} (leads : disk.Leads holder [.down name] final)
    (solid : disk.entryAt? final ≠ some .directory) : disk.Aside ⟨holder, .plain name⟩ := by
  intro other rest directory same passed
  cases same
  obtain ⟨middle, first, later⟩ := Leads.exists_of_append [.down name] passed
  cases first.unique leads
  rw [(later.nil_of_ne_directory solid).2]
  exact solid

theorem advance_leads {jump : Place → List Step → Except Fault Place}
    (jumps : ∀ place steps, jump place steps = .ok final → disk.Leads place steps final)
    (reached : disk.advance jump place steps = .ok final) : disk.Leads place steps final := by
  induction steps generalizing place with
  | nil =>
    cases reached
    exact .done final
  | cons step rest ih =>
    unfold advance at reached
    split at reached
    case isTrue => cases reached
    case isFalse stands =>
      have stands := not_not.mp stands
      cases step with
      | stay => exact .stay stands (ih reached)
      | up => exact .up stands (ih reached)
      | down name =>
        dsimp only at reached
        split at reached
        · cases reached
        · split at reached
          next => cases reached
          next target link => exact .follow stands link (jumps _ _ reached)
          next entry solid found => exact .down stands found (fun target same => solid target (same ▸ rfl)) (ih reached)

theorem walk_leads (links : Nat) (reached : disk.walk links place steps = .ok final) :
    disk.Leads place steps final := by
  induction links generalizing place steps with
  | zero => exact advance_leads (fun _ _ refused => by cases refused) reached
  | succ links ih => exact advance_leads (fun _ _ => ih) reached

/-! One more step -/

private theorem advance_down {jump : Place → List Step → Except Fault Place}
    (jumps : ∀ place steps, jump place steps = .ok middle → jump place (steps ++ [.down name]) = .ok final)
    (last : disk.advance jump middle [.down name] = .ok final)
    (reached : disk.advance jump place steps = .ok middle) :
    disk.advance jump place (steps ++ [.down name]) = .ok final := by
  induction steps generalizing place with
  | nil =>
    cases reached
    exact last
  | cons step rest ih =>
    rw [List.cons_append]
    unfold advance at reached ⊢
    split at reached
    case isTrue => cases reached
    case isFalse stands =>
      rw [if_neg stands]
      cases step with
      | stay | up => exact ih reached
      | down other =>
        dsimp only at reached ⊢
        split at reached
        · cases reached
        next short =>
          rw [if_neg short]
          split at reached
          next => cases reached
          next target link =>
            rw [← List.append_assoc]
            exact jumps _ _ reached
          next => exact ih reached

theorem walk_to_file {links : Nat} {bytes : Bytes} {mode : Nat} (reached : disk.walk links place steps = .ok middle)
    (stands : disk.entryAt? middle = some .directory) (short : (Name.plain name).tooLong = false)
    (found : disk.find? ⟨middle, .plain name⟩ = some (.file bytes mode)) :
    disk.walk links place (steps ++ [.down name]) = .ok (middle ++ [name]) := by
  have last (jump : Place → List Step → Except Fault Place) :
      disk.advance jump middle [.down name] = .ok (middle ++ [name]) := by
    simp [advance, stands, short, found]
  induction links generalizing place steps with
  | zero => exact advance_down (fun _ _ refused => by cases refused) (last _) reached
  | succ links ih => exact advance_down (fun _ _ => ih) (last _) reached

/-! When an entry is exchanged -/

/-- Where no directory stands, an insertion takes none away. -/
theorem entryAt?_insert_of_directory (free : disk.find? location ≠ some .directory)
    (stands : disk.entryAt? place = some .directory) (entry : Entry) :
    (disk.insert location entry).entryAt? place = some .directory := by
  unfold entryAt? at stands ⊢
  split at stands
  case h_1 name last =>
    have elsewhere : (⟨place.dropLast, .plain name⟩ : Location) ≠ location := by
      intro same
      exact free (same ▸ stands)
    rw [find?_insert, if_neg elsewhere, stands]
  case h_2 => rfl

private theorem advance_insert {jump again : Place → List Step → Except Fault Place} (entry : Entry)
    (free : disk.find? location ≠ some .directory)
    (jumps : ∀ place steps, jump place steps = .ok final → again place steps = .ok final)
    (aside : ∀ name rest, location.name = .plain name →
      disk.advance jump location.holder (.down name :: rest) ≠ .ok final)
    (reached : disk.advance jump place steps = .ok final) :
    (disk.insert location entry).advance again place steps = .ok final := by
  induction steps generalizing place with
  | nil => exact reached
  | cons step rest ih =>
    -- Kept whole: a step that passed the entry would make this the look-up that is ruled out.
    have taken := reached
    unfold advance at reached ⊢
    split at reached
    case isTrue => cases reached
    case isFalse stands =>
      rw [if_neg (not_not_intro (entryAt?_insert_of_directory free (not_not.mp stands) entry))]
      cases step with
      | stay | up => exact ih reached
      | down name =>
        have elsewhere : (⟨place, .plain name⟩ : Location) ≠ location := by
          rintro rfl
          exact aside name rest rfl taken
        dsimp only at reached ⊢
        rw [find?_insert, if_neg elsewhere]
        split at reached
        · cases reached
        next short =>
          rw [if_neg short]
          split at reached
          next => cases reached
          next => exact jumps _ _ reached
          next => exact ih reached

/-- A look-up that does not pass an exchanged entry ends where it did. -/
theorem walk_insert {links : Nat} (entry : Entry) (free : disk.find? location ≠ some .directory)
    (aside : ∀ name rest, location.name = .plain name → ¬disk.Leads location.holder (.down name :: rest) final)
    (reached : disk.walk links place steps = .ok final) :
    (disk.insert location entry).walk links place steps = .ok final := by
  induction links generalizing place steps with
  | zero =>
    refine advance_insert entry free (fun _ _ refused => by cases refused) ?_ reached
    exact fun name rest named passed => aside name rest named (walk_leads 0 passed)
  | succ links ih =>
    refine advance_insert entry free (fun _ _ => ih) ?_ reached
    exact fun name rest named passed => aside name rest named (walk_leads (links + 1) passed)

theorem walkToDirectory_insert (entry : Entry) (free : disk.find? location ≠ some .directory)
    (aside : disk.Aside location) (reached : disk.walkToDirectory place steps = .ok final) :
    (disk.insert location entry).walkToDirectory place steps = .ok final := by
  obtain ⟨other, walked, ended⟩ := bind_eq_ok reached
  split at ended
  case isFalse => cases ended
  case isTrue stands =>
    cases ended
    have passes := fun name rest named passed => aside name rest final named passed stands
    simp only [walkToDirectory, walk_insert entry free passes walked, entryAt?_insert_of_directory free stands, bind,
      Except.bind, if_pos]

theorem resolveDirectory_insert {here : Place} {path : Path} (entry : Entry)
    (free : disk.find? location ≠ some .directory) (aside : disk.Aside location)
    (reached : disk.resolveDirectory here path = .ok final) :
    (disk.insert location entry).resolveDirectory here path = .ok final := by
  obtain ⟨⟨⟩, spelled, walked⟩ := bind_eq_ok reached
  simp only [resolveDirectory, spelled, walkToDirectory_insert entry free aside walked, bind, Except.bind]

theorem resolveHolder_insert {here : Place} {path : Path} (entry : Entry)
    (free : disk.find? location ≠ some .directory) (aside : disk.Aside location)
    (reached : disk.resolveHolder here path = .ok final) :
    (disk.insert location entry).resolveHolder here path = .ok final := by
  obtain ⟨⟨⟩, spelled, walked⟩ := bind_eq_ok reached
  simp only [resolveHolder, spelled, walkToDirectory_insert entry free aside walked, bind, Except.bind]

/-- A look-up of a directory that follows no link passes directories alone. -/
theorem walk_zero_insert (entry : Entry) (free : disk.find? location ≠ some .directory)
    (stands : disk.entryAt? final = some .directory) (reached : disk.walk 0 place steps = .ok final) :
    (disk.insert location entry).walk 0 place steps = .ok final := by
  refine advance_insert entry free (fun _ _ refused => by cases refused) ?_ reached
  intro name rest named passed
  have there : (⟨location.holder, .plain name⟩ : Location) = location := by rw [← named]
  unfold advance at passed
  split at passed
  · cases passed
  · dsimp only at passed
    rw [there] at passed
    split at passed
    · cases passed
    · split at passed
      next => cases passed
      next => cases passed
      next standing _ found =>
        have blocked : disk.entryAt? (location.holder ++ [name]) ≠ some .directory := by
          rw [entryAt?_append, there]
          exact free
        have final := (advance_leads (fun _ _ refused => by cases refused) passed).nil_of_ne_directory blocked
        rw [final.2] at stands
        exact blocked stands

/-! Paths without links -/

/-- A look-up of the path meets no link. -/
def unlinked (disk : Disk) (here : Place) (path : Path) : Bool :=
  disk.walk 0 (path.startFrom here) path.steps ≠ .error .tooManyLinks

private theorem advance_eq_of_unlinked (jump : Place → List Step → Except Fault Place)
    (unlinked : disk.walk 0 place steps ≠ .error .tooManyLinks) :
    disk.advance jump place steps = disk.walk 0 place steps := by
  induction steps generalizing place with
  | nil => rfl
  | cons step rest ih =>
    unfold walk advance at unlinked ⊢
    by_cases stands : disk.entryAt? place ≠ some .directory
    · simp only [if_pos stands]
    · simp only [if_neg stands] at unlinked ⊢
      cases step with
      | stay | up => exact ih unlinked
      | down name =>
        by_cases long : (Name.plain name).tooLong = true
        · simp only [if_pos long]
        · simp only [if_neg long] at unlinked ⊢
          match found : disk.find? ⟨place, .plain name⟩ with
          | none => rfl
          | some (.link target) => simp only [found, ne_eq, not_true_eq_false] at unlinked
          | some (.file ..) | some .directory =>
            simp only [found] at unlinked ⊢
            exact ih unlinked

theorem walk_eq_of_unlinked (unlinked : disk.walk 0 place steps ≠ .error .tooManyLinks) (links : Nat) :
    disk.walk links place steps = disk.walk 0 place steps := by
  cases links with
  | zero => rfl
  | succ links => exact advance_eq_of_unlinked _ unlinked

/-- The path leads to a directory and meets no link. -/
structure Straight (disk : Disk) (here : Place) (path : Path) (holder : Place) : Prop where
  spelled : path.check = .ok ()
  walked : disk.walk 0 (path.startFrom here) path.steps = .ok holder
  stands : disk.entryAt? holder = some .directory

namespace Straight

variable {here holder : Place} {path : Path}

theorem of_resolveDirectory (reached : disk.resolveDirectory here path = .ok holder)
    (straight : disk.unlinked here path = true) : disk.Straight here path holder := by
  obtain ⟨⟨⟩, spelled, walked⟩ := bind_eq_ok reached
  obtain ⟨other, walked, ended⟩ := bind_eq_ok walked
  rw [walk_eq_of_unlinked (of_decide_eq_true straight)] at walked
  split at ended
  case isFalse => cases ended
  case isTrue stands =>
    cases ended
    exact ⟨spelled, walked, stands⟩

theorem resolveDirectory (straight : disk.Straight here path holder) :
    disk.resolveDirectory here path = .ok holder := by
  have unlinked : disk.walk 0 (path.startFrom here) path.steps ≠ .error .tooManyLinks := by
    rw [straight.walked]
    simp
  simp only [Disk.resolveDirectory, straight.spelled, walkToDirectory, walk_eq_of_unlinked unlinked, straight.walked,
    straight.stands, bind, Except.bind, if_pos]

theorem unique {other : Place} (first : disk.Straight here path holder) (second : disk.Straight here path other) :
    holder = other :=
  Except.ok.inj (first.walked.symm.trans second.walked)

theorem insert (straight : disk.Straight here path holder) (free : disk.find? location ≠ some .directory)
    (entry : Entry) : (disk.insert location entry).Straight here path holder :=
  ⟨straight.spelled, walk_zero_insert entry free straight.stands straight.walked,
    entryAt?_insert_of_directory free straight.stands entry⟩

theorem of_plain {after : Disk} (straight : disk.Straight here path holder) (same : after.plain = disk.plain) :
    after.Straight here path holder := by
  refine ⟨straight.spelled, ?_, ?_⟩
  · rw [walk_of_plain same]
    exact straight.walked
  · rw [entryAt?_of_plain same]
    exact straight.stands

end Straight

end Disk

end CommentFold
