import CommentFold.Disk.Staging
import CommentFold.Proofs.Shapes

/-! What a path can name. No path spells the name of a staged file, so a look-up
sees the same with staged files and without them, and a change from outside does
the same to what is seen. -/

namespace CommentFold

def Name.isPlain : Name → Bool
  | plain _ => true
  | staged .. => false

namespace Disk

/-- The disk without its staged files. -/
def plain (disk : Disk) : Disk := ⟨disk.entries.filter fun item => item.1.name.isPlain⟩

/-- The entry that the last component of a path names. A link that stands there
is that entry. -/
def named? (disk : Disk) (here : Place) (path : Path) : Option Location :=
  match disk.resolveHolder here path, path.lastStep? with
  | .ok holder, some (.down name) => some ⟨holder, .plain name⟩
  | _, _ => none

theorem named?_eq {disk : Disk} {here holder : Place} {path : Path} {name : Bytes}
    (reached : disk.resolveHolder here path = .ok holder) (last : path.lastStep? = some (.down name)) :
    disk.named? here path = some ⟨holder, .plain name⟩ := by
  simp only [named?, reached, last]

theorem named?_isPlain {disk : Disk} {here : Place} {path : Path} {location : Location}
    (named : disk.named? here path = some location) : location.name.isPlain = true := by
  unfold named? at named
  split at named
  · cases named
    rfl
  · cases named

theorem find?_plain (disk : Disk) (location : Location) :
    disk.plain.find? location = if location.name.isPlain then disk.find? location else none :=
  disk.find?_filter (fun location => location.name.isPlain) location

@[simp] theorem find?_plain_of_name (disk : Disk) (holder : Place) (name : Bytes) :
    disk.plain.find? ⟨holder, .plain name⟩ = disk.find? ⟨holder, .plain name⟩ := by
  simp [find?_plain, Name.isPlain]

@[simp] theorem entryAt?_plain (disk : Disk) (place : Place) : disk.plain.entryAt? place = disk.entryAt? place := by
  unfold entryAt?
  split <;> simp

/-! Look-ups -/

/-- Without its staged files a disk has the shape that it has with them. -/
theorem sameShape_plain (disk : Disk) : disk.plain.SameShape disk := by
  intro holder name
  rw [find?_plain_of_name]

theorem resolveHolder_plain (disk : Disk) (here : Place) (path : Path) :
    disk.plain.resolveHolder here path = disk.resolveHolder here path :=
  disk.sameShape_plain.resolveHolder here path

theorem named?_plain (disk : Disk) (here : Place) (path : Path) :
    disk.plain.named? here path = disk.named? here path := by
  simp only [named?, resolveHolder_plain]

theorem destination_plain (disk : Disk) (links : Nat) (here : Place) (path : Path) :
    disk.plain.destination links here path = disk.destination links here path := by
  induction links generalizing here path with
  | zero => rfl
  | succ links ih => simp only [destination, resolveHolder_plain, find?_plain_of_name, ih]

theorem fetch_plain (disk : Disk) (here : Place) (path : Path) :
    disk.plain.fetch here path = disk.fetch here path := by
  simp only [fetch, disk.sameShape_plain.resolve, entryAt?_plain]

section

variable {disk after : Disk} (same : after.plain = disk.plain)

include same

/-- A look-up sees no difference that staged files alone make. -/
theorem sameShape_of_plain : after.SameShape disk := by
  intro holder name
  rw [← find?_plain_of_name after, same, find?_plain_of_name]

theorem walk_of_plain (links : Nat) : after.walk links = disk.walk links := (sameShape_of_plain same).walk links

theorem entryAt?_of_plain (place : Place) : after.entryAt? place = disk.entryAt? place := by
  rw [← entryAt?_plain, same, entryAt?_plain]

theorem find?_of_plain (holder : Place) (name : Bytes) :
    after.find? ⟨holder, .plain name⟩ = disk.find? ⟨holder, .plain name⟩ := by
  rw [← find?_plain_of_name, same, find?_plain_of_name]

theorem resolveDirectory_of_plain (here : Place) (path : Path) :
    after.resolveDirectory here path = disk.resolveDirectory here path :=
  (sameShape_of_plain same).resolveDirectory here path

theorem resolveHolder_of_plain (here : Place) (path : Path) :
    after.resolveHolder here path = disk.resolveHolder here path := (sameShape_of_plain same).resolveHolder here path

theorem named?_of_plain (here : Place) (path : Path) : after.named? here path = disk.named? here path := by
  rw [← named?_plain, same, named?_plain]

end

/-! Changes -/

theorem ne_of_isPlain {location other : Location} (spelled : other.name.isPlain = true)
    (hidden : location.name.isPlain = false) : location ≠ other := by
  rintro rfl
  rw [spelled] at hidden
  cases hidden

theorem plain_erase (disk : Disk) (location : Location) :
    (disk.erase location).plain = disk.plain.erase location := by
  simp only [plain, erase, List.filter_filter, Bool.and_comm]

theorem plain_insert (disk : Disk) (location : Location) (spelled : location.name.isPlain = true) (entry : Entry) :
    (disk.insert location entry).plain = disk.plain.insert location entry := by
  simpa [plain, insert, spelled] using congrArg entries (disk.plain_erase location)

theorem plain_eraseTree (disk : Disk) (holder : Place) (name : Bytes) :
    (disk.eraseTree holder name).plain = disk.plain.eraseTree holder name := by
  simp only [plain, eraseTree, erase, List.filter_filter, Bool.and_comm, Bool.and_left_comm]

/-- What stands under no plain name can come and go unseen. -/
theorem plain_erase_hidden (disk : Disk) {location : Location} (hidden : location.name.isPlain = false) :
    (disk.erase location).plain = disk.plain := by
  rw [plain_erase]
  apply congrArg Disk.mk
  apply List.filter_eq_self.mpr
  intro item member
  have apart : item.1 ≠ location := (ne_of_isPlain (List.mem_filter.mp member).2 hidden).symm
  simpa using apart

theorem plain_insert_hidden (disk : Disk) {location : Location} (hidden : location.name.isPlain = false)
    (entry : Entry) : (disk.insert location entry).plain = disk.plain := by
  rw [← plain_erase_hidden disk hidden]
  simp [plain, insert, hidden]

theorem plain_append_hidden (disk : Disk) {name : Name} (hidden : name.isPlain = false) (more : Bytes) :
    (disk.append name more).plain = disk.plain := by
  apply congrArg Disk.mk
  simp only [append]
  induction disk.entries with
  | nil => rfl
  | cons item rest ih =>
    by_cases staged : item.1.name = name
    · simpa [staged, hidden] using ih
    · by_cases spelled : item.1.name.isPlain = true
      · simpa [staged, spelled] using ih
      · simpa [staged, spelled] using ih

private theorem putFile_plain (disk : Disk) (here : Place) (path : Path) (bytes : Bytes) (mode : Nat) :
    disk.plain.putFile here path bytes mode = (disk.putFile here path bytes mode).map plain := by
  simp only [putFile, destination_plain]
  cases disk.destination (maxLinks + 1) here path with
  | error fault => rfl
  | ok reached =>
    obtain ⟨holder, name⟩ := reached
    have inserted := disk.plain_insert ⟨holder, .plain name⟩ rfl (.file bytes mode)
    simp only [bind, Except.bind, find?_plain_of_name, ← inserted]
    cases disk.find? ⟨holder, .plain name⟩ with
    | none => rfl
    | some standing =>
      cases standing with
      | file _ earlier =>
        by_cases allowed : ownerMayWrite earlier = true
        · simp [allowed, Except.map]
        · simp [allowed, Except.map]
      | directory | link _ => rfl

private theorem create_plain (disk : Disk) (here : Place) (path : Path) (entry : Entry) :
    disk.plain.create here path entry = (disk.create here path entry).map plain := by
  simp only [create, resolveHolder_plain]
  cases disk.resolveHolder here path with
  | error fault => rfl
  | ok holder =>
    simp only [bind, Except.bind]
    match path.lastStep? with
    | none | some .stay | some .up => rfl
    | some (.down name) =>
      have inserted := disk.plain_insert ⟨holder, .plain name⟩ rfl entry
      simp only [find?_plain_of_name, ← inserted]
      by_cases long : (Name.plain name).tooLong = true
      · simp [long, Except.map]
      · cases disk.find? ⟨holder, .plain name⟩ with
        | none => simp [long, Except.map]
        | some standing =>
          by_cases kept : standing = .directory ∧ entry = .directory
          · simp [long, kept, Except.map]
          · simp [long, kept, Except.map]

/-- A change from outside is the same change to what is seen. -/
theorem put_plain (disk : Disk) (here : Place) (path : Path) (entry : Entry) :
    disk.plain.put here path entry = (disk.put here path entry).map plain := by
  cases entry with
  | file bytes mode => exact putFile_plain disk here path bytes mode
  | directory | link _ => exact create_plain disk here path _

theorem remove_plain (disk : Disk) (here : Place) (path : Path) :
    disk.plain.remove here path = (disk.remove here path).map plain := by
  simp only [remove, resolveHolder_plain]
  cases disk.resolveHolder here path with
  | error fault => rfl
  | ok holder =>
    simp only [bind, Except.bind]
    match path.lastStep? with
    | none | some .stay | some .up => rfl
    | some (.down name) =>
      simp only [find?_plain_of_name, ← plain_eraseTree]
      cases disk.find? ⟨holder, .plain name⟩ <;> rfl

end Disk

end CommentFold
