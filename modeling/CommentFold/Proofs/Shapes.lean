import CommentFold.Disk.Outside

/-! What a look-up depends on. Of the entries that a path can name it sees where they
stand, which of them are directories, and where the links lead. What is in a file and
its mode make no difference to any look-up. -/

namespace CommentFold

/-- An entry as a look-up sees it. -/
def Entry.shape : Entry → Entry
  | file _ _ => file [] 0
  | directory => directory
  | link target => link target

namespace Disk

/-- A look-up cannot tell one disk from the other. -/
def SameShape (after disk : Disk) : Prop :=
  ∀ holder name, (after.find? ⟨holder, .plain name⟩).map Entry.shape =
    (disk.find? ⟨holder, .plain name⟩).map Entry.shape

variable {disk after : Disk}

theorem SameShape.entryAt?_iff (alike : after.SameShape disk) (place : Place) :
    after.entryAt? place = some .directory ↔ disk.entryAt? place = some .directory := by
  have standing (found? : Option Entry) : found? = some .directory ↔ found?.map Entry.shape = some .directory := by
    cases found? with
    | none => simp
    | some entry => cases entry <;> simp [Entry.shape]
  unfold entryAt?
  split
  · rw [standing, alike, ← standing]
  · exact Iff.rfl

theorem SameShape.advance (alike : after.SameShape disk) (jump : Place → List Step → Except Fault Place) (place : Place)
    (steps : List Step) : after.advance jump place steps = disk.advance jump place steps := by
  induction steps generalizing place with
  | nil => rfl
  | cons step rest ih =>
    simp only [Disk.advance, ne_eq, alike.entryAt?_iff]
    cases step with
    | stay | up => simp only [ih]
    | down name =>
      have same := alike place name
      cases found : disk.find? ⟨place, .plain name⟩ with
      | none =>
        have gone : after.find? ⟨place, .plain name⟩ = none := by simpa [found] using same
        simp only [gone, found]
      | some entry =>
        rw [found] at same
        obtain ⟨other, found', shapes⟩ := Option.map_eq_some_iff.mp same
        simp only [found, found', ih]
        cases entry <;> cases other <;> cases shapes <;> rfl

theorem SameShape.walk (alike : after.SameShape disk) (links : Nat) : after.walk links = disk.walk links := by
  induction links with
  | zero =>
    funext place steps
    exact alike.advance _ place steps
  | succ links ih =>
    funext place steps
    simp only [Disk.walk, ih]
    exact alike.advance _ place steps

theorem SameShape.resolve (alike : after.SameShape disk) (here : Place) (path : Path) :
    after.resolve here path = disk.resolve here path := by
  simp only [Disk.resolve, alike.walk]

theorem SameShape.walkToDirectory (alike : after.SameShape disk) (start : Place) (steps : List Step) :
    after.walkToDirectory start steps = disk.walkToDirectory start steps := by
  simp only [Disk.walkToDirectory, alike.walk, alike.entryAt?_iff]

theorem SameShape.resolveDirectory (alike : after.SameShape disk) (here : Place) (path : Path) :
    after.resolveDirectory here path = disk.resolveDirectory here path := by
  simp only [Disk.resolveDirectory, alike.walkToDirectory]

theorem SameShape.resolveHolder (alike : after.SameShape disk) (here : Place) (path : Path) :
    after.resolveHolder here path = disk.resolveHolder here path := by
  simp only [Disk.resolveHolder, alike.walkToDirectory]

/-- A file that takes the place of a file is not noticed. -/
theorem SameShape.insert {location : Location} {bytes : Bytes} {mode : Nat}
    (there : disk.find? location = some (.file bytes mode)) (contents : Bytes) (kept : Nat) :
    (disk.insert location (.file contents kept)).SameShape disk := by
  intro holder name
  rw [find?_insert]
  split
  next same =>
    rw [same, there]
    rfl
  next => rfl

end Disk

end CommentFold
