import CommentFold.MemoryHost
import CommentFold.Proofs.PlainEntries

/-! Staged files on a disk. A new serial number is in no name, so a staged file is
made where nothing stands; and as no path leads through it, the directory that it
was made in is found again until someone changes that directory. -/

namespace CommentFold

namespace Disk

/-- The serial numbers of all staged files are below a bound. -/
def StagedBelow (disk : Disk) (bound : Nat) : Prop :=
  ∀ item ∈ disk.entries, ∀ stem serial, item.1.name = .staged stem serial → serial < bound

/-- No entry has the name. -/
def Fresh (disk : Disk) (name : Name) : Prop := ∀ item ∈ disk.entries, item.1.name ≠ name

/-- Every staged file of the first disk is also on the second, with the same contents. -/
def StagedWithin (after disk : Disk) : Prop :=
  ∀ item ∈ after.entries, item.1.name.isPlain = false → item ∈ disk.entries

variable {disk after final : Disk} {here : Place} {location : Location} {bound : Nat}

theorem mem_of_find? {entry : Entry} (found : disk.find? location = some entry) :
    (location, entry) ∈ disk.entries := by
  obtain ⟨before, behind, whole, _⟩ := List.lookup_eq_some_iff.mp found
  simp [whole]

theorem mem_insert {item : Location × Entry} {entry : Entry}
    (member : item ∈ (disk.insert location entry).entries) : item = (location, entry) ∨ item ∈ disk.entries := by
  rcases List.mem_cons.mp member with same | kept
  · exact .inl same
  · exact .inr (List.mem_filter.mp kept).1

theorem mem_append {item : Location × Entry} {name : Name} {more : Bytes}
    (member : item ∈ (disk.append name more).entries) :
    ∃ entry, (item.1, entry) ∈ disk.entries ∧
      item.2 = if item.1.name = name then appendTo more entry else entry := by
  obtain ⟨⟨location, entry⟩, present, rfl⟩ := List.mem_map.mp member
  by_cases hit : location.name = name
  · exact ⟨entry, by simpa [hit] using present, by simp [hit]⟩
  · exact ⟨entry, by simpa [hit] using present, by simp [hit]⟩

theorem find?_append (disk : Disk) (name : Name) (more : Bytes) (location : Location) :
    (disk.append name more).find? location =
      if location.name = name then (disk.find? location).map (appendTo more) else disk.find? location := by
  simp only [append, find?]
  induction disk.entries with
  | nil => simp
  | cons item rest ih =>
    obtain ⟨place, entry⟩ := item
    by_cases hit : location = place
    · subst place
      by_cases named : location.name = name <;> simp [named]
    · have apart : (location == place) = false := by simpa using hit
      by_cases named : place.name = name <;> simpa [named, List.lookup_cons, apart] using ih

theorem erase_insert_of_ne (disk : Disk) {location erased : Location} (apart : location ≠ erased) (entry : Entry) :
    (disk.insert location entry).erase erased = (disk.erase erased).insert location entry := by
  simp [insert, erase, apart, List.filter_filter, Bool.and_comm]

/-! What stays when the disk changes -/

theorem StagedBelow.fresh (below : disk.StagedBelow bound) (stem : Bytes) : disk.Fresh (.staged stem bound) :=
  fun item member named => Nat.lt_irrefl bound (below item member stem bound named)

theorem StagedBelow.mono {higher : Nat} (below : disk.StagedBelow bound) (order : bound ≤ higher) :
    disk.StagedBelow higher :=
  fun item member stem serial named => Nat.lt_of_lt_of_le (below item member stem serial named) order

theorem StagedBelow.within (below : disk.StagedBelow bound) (kept : after.StagedWithin disk) :
    after.StagedBelow bound := by
  intro item member stem serial named
  have hidden : item.1.name.isPlain = false := by rw [named]; rfl
  exact below item (kept item member hidden) stem serial named

theorem StagedBelow.of_isPlain (spelled : ∀ item ∈ disk.entries, item.1.name.isPlain = true) :
    disk.StagedBelow bound := by
  intro item member stem serial named
  have plain := spelled item member
  rw [named] at plain
  cases plain

theorem StagedBelow.insert_next (below : disk.StagedBelow bound) (holder : Place) (stem : Bytes) (entry : Entry) :
    (disk.insert ⟨holder, .staged stem bound⟩ entry).StagedBelow (bound + 1) := by
  intro item member other serial named
  rcases mem_insert member with same | kept
  · rw [same] at named
    cases named
    exact Nat.lt_succ_self bound
  · exact Nat.lt_succ_of_lt (below item kept other serial named)

theorem StagedBelow.append (below : disk.StagedBelow bound) (name : Name) (more : Bytes) :
    (disk.append name more).StagedBelow bound := by
  intro item member stem serial named
  obtain ⟨entry, present, _⟩ := mem_append member
  exact below _ present stem serial named

theorem StagedWithin.refl (disk : Disk) : disk.StagedWithin disk := fun _ member _ => member

theorem StagedWithin.trans (second : final.StagedWithin after) (first : after.StagedWithin disk) :
    final.StagedWithin disk :=
  fun item member hidden => first item (second item member hidden) hidden

theorem StagedWithin.erase (disk : Disk) (location : Location) : (disk.erase location).StagedWithin disk :=
  fun _ member _ => (List.mem_filter.mp member).1

theorem StagedWithin.insert (disk : Disk) (location : Location) (spelled : location.name.isPlain = true)
    (entry : Entry) :
    (disk.insert location entry).StagedWithin disk := by
  intro item member hidden
  rcases mem_insert member with same | kept
  · rw [same, spelled] at hidden
    cases hidden
  · exact kept

theorem StagedBelow.insert_plain (below : disk.StagedBelow bound) (spelled : location.name.isPlain = true)
    (entry : Entry) : (disk.insert location entry).StagedBelow bound :=
  below.within (.insert disk location spelled entry)

theorem StagedWithin.eraseTree (disk : Disk) (holder : Place) (name : Bytes) :
    (disk.eraseTree holder name).StagedWithin disk :=
  fun _ member _ => (List.mem_filter.mp (List.mem_filter.mp member).1).1

private theorem StagedWithin.putFile {path : Path} {bytes : Bytes} {mode : Nat}
    (changed : disk.putFile here path bytes mode = .ok after) : after.StagedWithin disk := by
  obtain ⟨⟨holder, name⟩, _, changed⟩ := bind_eq_ok changed
  have written := StagedWithin.insert disk ⟨holder, .plain name⟩ rfl (.file bytes mode)
  dsimp only at changed
  split at changed
  · cases changed
  · split at changed <;> cases changed
    exact written
  · cases changed
    exact written

private theorem StagedWithin.create {path : Path} {entry : Entry}
    (changed : disk.create here path entry = .ok after) : after.StagedWithin disk := by
  obtain ⟨holder, _, changed⟩ := bind_eq_ok changed
  split at changed
  · split at changed
    · cases changed
    · split at changed
      · cases changed
        exact .insert disk _ rfl entry
      · split at changed <;> cases changed
        exact .refl disk
  · cases changed

theorem StagedWithin.put {path : Path} {entry : Entry} (changed : disk.put here path entry = .ok after) :
    after.StagedWithin disk := by
  cases entry with
  | file bytes mode => exact .putFile changed
  | directory | link _ => exact .create changed

theorem StagedWithin.remove {path : Path} (changed : disk.remove here path = .ok after) :
    after.StagedWithin disk := by
  obtain ⟨holder, _, changed⟩ := bind_eq_ok changed
  split at changed
  · split at changed <;> cases changed
    exact .eraseTree disk holder _
  · cases changed

/-! Where nothing stands -/

private theorem Fresh.erase_eq_self {name : Name} (fresh : disk.Fresh name) (holder : Place) :
    disk.erase ⟨holder, name⟩ = disk := by
  apply congrArg Disk.mk
  apply List.filter_eq_self.mpr
  intro item member
  have apart : item.1 ≠ ⟨holder, name⟩ := fun same => fresh item member (congrArg Location.name same)
  simpa using apart

/-- What is inserted where nothing stands can be erased without a trace. -/
theorem Fresh.erase_insert {name : Name} (fresh : disk.Fresh name) (holder : Place) (entry : Entry) :
    (disk.insert ⟨holder, name⟩ entry).erase ⟨holder, name⟩ = disk := by
  have gone : (disk.insert ⟨holder, name⟩ entry).erase ⟨holder, name⟩ =
      (disk.erase ⟨holder, name⟩).erase ⟨holder, name⟩ := by
    simp [Disk.insert, Disk.erase]
  rw [gone, fresh.erase_eq_self, fresh.erase_eq_self]

/-- What is appended to a file that was just made reaches that file alone. -/
theorem Fresh.append_insert {name : Name} (fresh : disk.Fresh name) (holder : Place) (entry : Entry)
    (more : Bytes) :
    (disk.insert ⟨holder, name⟩ entry).append name more = disk.insert ⟨holder, name⟩ (appendTo more entry) := by
  -- Nothing else has the name, so the rest of the table is mapped to itself.
  have kept : disk.append name more = disk := by
    apply congrArg Disk.mk
    refine (List.map_congr_left (g := id) ?_).trans (List.map_id disk.entries)
    intro item member
    exact if_neg (fresh item member)
  have others := congrArg Disk.entries kept
  simp only [Disk.append] at others
  simp [Disk.append, Disk.insert, fresh.erase_eq_self, others]

/-- The first write to a file that was just made takes some of its rights away. -/
theorem Fresh.append_made {name : Name} (fresh : disk.Fresh name) (holder : Place) (mode : Nat) {bytes : Bytes}
    (written : bytes ≠ []) :
    (disk.insert ⟨holder, name⟩ (.file [] mode)).append name bytes =
      disk.insert ⟨holder, name⟩ (.file bytes (modeAfterWrite mode)) := by
  rw [fresh.append_insert, appendTo, if_neg written, List.nil_append]

/-! Staging, publishing and discarding -/

theorem stage_inv {directory : Path} {name : Name} {mode : Nat}
    (staged : disk.stage here directory name mode = .ok after) :
    ∃ holder, disk.resolveDirectory here directory = .ok holder ∧
      after = disk.insert ⟨holder, name⟩ (.file [] mode) := by
  obtain ⟨_, _, staged⟩ := bind_eq_ok staged
  obtain ⟨holder, reached, staged⟩ := bind_eq_ok staged
  split at staged <;> cases staged
  exact ⟨holder, reached, rfl⟩

theorem locate_inv {staged : Staged} {source : Location} {held : Option Entry}
    (located : disk.locate here staged = .ok (source, held)) :
    ∃ holder, disk.resolveDirectory here staged.directory = .ok holder ∧
      source = ⟨holder, staged.name⟩ ∧ held = disk.find? source := by
  obtain ⟨holder, reached, located⟩ := bind_eq_ok located
  cases located
  exact ⟨holder, reached, rfl, rfl⟩

/-- What it takes to rename a staged file to a target: the file where it was made, and a
directory for the target with no directory under its last name. -/
structure Publishable (disk : Disk) (here : Place) (staged : Staged) (target : Path) (source holder : Place)
    (name : Bytes) (entry : Entry) : Prop where
  kept : disk.resolveDirectory here staged.directory = .ok source
  held : disk.find? ⟨source, staged.name⟩ = some entry
  aimed : disk.resolveHolder here target = .ok holder
  last : target.lastStep? = some (.down name)
  short : Name.tooLong (.plain name) = false
  unslashed : target.endsInSlash = false
  free : disk.find? ⟨holder, .plain name⟩ ≠ some .directory

theorem publish_inv {staged : Staged} {target : Path} (published : disk.publish here staged target = .ok after) :
    ∃ source holder name entry, disk.Publishable here staged target source holder name entry ∧
      after = (disk.erase ⟨source, staged.name⟩).insert ⟨holder, .plain name⟩ entry := by
  unfold publish at published
  split at published
  · cases published
  obtain ⟨⟨source, held⟩, located, published⟩ := bind_eq_ok published
  obtain ⟨holder, reached, published⟩ := bind_eq_ok published
  obtain ⟨place, kept, rfl, rfl⟩ := locate_inv located
  split at published
  case h_1 name entry last found =>
    split at published
    · cases published
    next short =>
      split at published
      · cases published
      next unslashed =>
        split at published
        · cases published
        next free =>
          cases published
          exact ⟨place, holder, name, entry, ⟨kept, found, reached, last, Bool.eq_false_iff.mpr short,
            Bool.eq_false_iff.mpr unslashed, free⟩, rfl⟩
  all_goals cases published

theorem discard_inv {staged : Staged} (discarded : disk.discard here staged = .ok after) :
    ∃ source, source.name = staged.name ∧ after = disk.erase source := by
  obtain ⟨⟨source, held⟩, located, discarded⟩ := bind_eq_ok discarded
  obtain ⟨_, _, rfl, _⟩ := locate_inv located
  cases held with
  | none => cases discarded
  | some entry =>
    cases discarded
    exact ⟨_, rfl, rfl⟩

/-- A staged file that was just made is the only one with its name. -/
theorem Fresh.eq_of_find?_insert {name : Name} {holder : Place} {entry other : Entry} {source : Location}
    (fresh : disk.Fresh name) (named : source.name = name)
    (found : (disk.insert ⟨holder, name⟩ entry).find? source = some other) :
    source = ⟨holder, name⟩ ∧ other = entry := by
  rcases mem_insert (mem_of_find? found) with same | kept
  · exact Prod.mk.inj same
  · exact absurd named (fresh _ kept)

/-- A staged file that was just made is found again and discarded without a trace. -/
theorem Fresh.discard_insert {staged : Staged} {holder : Place} (fresh : disk.Fresh staged.name)
    (hidden : staged.name.isPlain = false) (reached : disk.resolveDirectory here staged.directory = .ok holder)
    (entry : Entry) : (disk.insert ⟨holder, staged.name⟩ entry).discard here staged = .ok disk := by
  -- No look-up passes a staged file, so the directory is still where it was.
  have again : (disk.insert ⟨holder, staged.name⟩ entry).resolveDirectory here staged.directory = .ok holder :=
    (resolveDirectory_of_plain (disk.plain_insert_hidden hidden entry) here staged.directory).trans reached
  simp only [discard, locate, again, bind, Except.bind, find?_insert, if_pos, fresh.erase_insert]

end Disk

end CommentFold
