import CommentFold.Path

/-! A disk is a finite table of entries by location. A location is a directory
together with the name of an entry in it, and a directory is known by the names
that lead there from the root. The root itself is in no table. -/

namespace CommentFold

/-- Keeping some keys of a table takes away the items of the others and nothing else. -/
theorem lookup_filter {κ ν : Type} [BEq κ] [LawfulBEq κ] (items : List (κ × ν)) (keep : κ → Bool) (key : κ) :
    (items.filter fun item => keep item.1).lookup key = if keep key then items.lookup key else none := by
  induction items with
  | nil => simp
  | cons item rest ih =>
    obtain ⟨place, value⟩ := item
    by_cases hit : key = place
    · subst place
      by_cases kept : keep key = true
      · simp [kept]
      · simpa [kept] using ih
    · have apart : (key == place) = false := by simpa using hit
      by_cases kept : keep place = true
      · simpa [List.lookup_cons, apart, kept] using ih
      · simpa [List.lookup_cons, apart, kept] using ih

/-- Where a path can lead: the names from the root down. -/
abbrev Place := List Bytes

/-- A staged file has a name that no path can spell. The serial number stands for
the characters that a real disk draws at random, so two staged files never share
a name and nobody hits upon one. -/
inductive Name where
  | plain (bytes : Bytes)
  | staged (stem : Bytes) (serial : Nat)
  deriving DecidableEq, Repr

namespace Name

def randomLength : Nat := 6

def stagedEnding : Bytes := Utf8.encode ".tmp".toList

def questionMark : UInt8 := 63

/-- The name as it is shown, with question marks for what is drawn at random. -/
def bytes : Name → Bytes
  | plain bytes => bytes
  | staged stem _ => stem ++ List.replicate randomLength questionMark ++ stagedEnding

def shown (name : Name) : Text := Utf8.decodeLossy name.bytes

/-- The longest name that a disk takes. -/
def maxLength : Nat := 255

def tooLong (name : Name) : Bool := maxLength < name.bytes.length

end Name

structure Location where
  holder : Place
  name : Name
  deriving DecidableEq, Repr

inductive Entry where
  | file (bytes : Bytes) (mode : Nat)
  | directory
  | link (target : Path)
  deriving DecidableEq, Repr

structure Disk where
  entries : List (Location × Entry)
  deriving DecidableEq, Repr

namespace Disk

def empty : Disk := ⟨[]⟩

def find? (disk : Disk) (location : Location) : Option Entry := disk.entries.lookup location

/-- What stands at a place. -/
def entryAt? (disk : Disk) (place : Place) : Option Entry :=
  match place.getLast? with
  | some name => disk.find? ⟨place.dropLast, .plain name⟩
  | none => some .directory

def erase (disk : Disk) (location : Location) : Disk :=
  ⟨disk.entries.filter fun item => item.1 ≠ location⟩

def insert (disk : Disk) (location : Location) (entry : Entry) : Disk :=
  ⟨(location, entry) :: (disk.erase location).entries⟩

/-- Removes the entry with a plain name and everything below it. -/
def eraseTree (disk : Disk) (holder : Place) (name : Bytes) : Disk :=
  ⟨(disk.erase ⟨holder, .plain name⟩).entries.filter fun item =>
    !(holder ++ [name]).isPrefixOf item.1.holder⟩

/-- Everything below a place, by the names that lead there from it. -/
def below (disk : Disk) (place : Place) : List (List Name × Entry) :=
  let held := disk.entries.filter fun item => place.isPrefixOf item.1.holder
  held.map fun item =>
    ((item.1.holder.drop place.length).map Name.plain ++ [item.1.name], item.2)

@[simp] theorem entryAt?_nil (disk : Disk) : disk.entryAt? [] = some .directory := rfl

@[simp] theorem entryAt?_append (disk : Disk) (holder : Place) (name : Bytes) :
    disk.entryAt? (holder ++ [name]) = disk.find? ⟨holder, .plain name⟩ := by
  simp [entryAt?]

/-- Keeping some locations takes away the entries of the others and nothing else. -/
theorem find?_filter (disk : Disk) (keep : Location → Bool) (location : Location) :
    (Disk.mk (disk.entries.filter fun item => keep item.1)).find? location =
      if keep location then disk.find? location else none :=
  lookup_filter disk.entries keep location

/-- Erasing takes away one entry and no other. -/
theorem find?_erase (disk : Disk) (erased other : Location) :
    (disk.erase erased).find? other = if other = erased then none else disk.find? other := by
  refine (disk.find?_filter (fun location => location ≠ erased) other).trans ?_
  by_cases same : other = erased <;> simp [same]

/-- Inserting changes one entry and no other. -/
theorem find?_insert (disk : Disk) (changed other : Location) (entry : Entry) :
    (disk.insert changed entry).find? other = if other = changed then some entry else disk.find? other := by
  by_cases same : other = changed
  · simp [find?, insert, same]
  · have apart : (other == changed) = false := by simpa using same
    have erased := disk.find?_erase changed other
    simp only [same, if_false] at erased
    simpa [find?, insert, List.lookup_cons, apart, same] using erased

end Disk

end CommentFold
