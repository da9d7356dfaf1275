import CommentFold.Proofs.FoldSuccess
import CommentFold.Proofs.StagingPlaces

/-! The components of a staging directory. Followed by the last name of the target they
are the components of the target, but for the `.` that stands for the directory of a bare
name. So a staged file is made in the directory where a commit puts the entry of the
target. -/

namespace CommentFold

namespace Path

variable {path : Path} {front idle : List Bytes} {name : Bytes}

/-! Components by pieces -/

/-- The component that a path has before those of its pieces. -/
def startComponents (path : Path) : List Component :=
  if path.isAbsolute then [.root] else if path.segments.head? = some [dot] then [.here] else []

/-- The components of pieces, of which an empty one and a `.` have none. -/
def pieceComponents (pieces : List Bytes) : List Component := (Step.ofPieces pieces).filterMap Step.component?

theorem components_eq (path : Path) :
    path.components = path.startComponents ++ pieceComponents (path.bytes.splitOn slash) := rfl

@[simp] theorem pieceComponents_append (front rest : List Bytes) :
    pieceComponents (front ++ rest) = pieceComponents front ++ pieceComponents rest := by
  simp [pieceComponents, Step.ofPieces]

theorem ignoresIdle_pieceComponents : IgnoresIdle pieceComponents := by
  intro pieces last idle
  rw [pieceComponents_append]
  rcases isIdle_iff.mp idle with rfl | rfl
  · exact List.append_nil _
  · have none : pieceComponents [[dot]] = [] := by decide
    rw [none, List.append_nil]

theorem pieceComponents_singleton (proper : isIdle name = false) :
    pieceComponents [name] = if name = [dot, dot] then [.up] else [.name name] := by
  obtain ⟨filled, undotted⟩ := not_isIdle_iff.mp proper
  simp only [pieceComponents, Step.ofPieces, Step.ofSegment, ne_eq, filled, undotted, not_false_eq_true, decide_true,
    List.filter_cons_of_pos, List.filter_nil, List.map_cons, List.map_nil, if_false]
  split <;> rfl

/-- A path that ends in a name has idle pieces behind it and nothing else. -/
theorem exists_pieces_of_pieceComponents {pieces : List Bytes}
    (last : (pieceComponents pieces).getLast? = some (.name name)) :
    ∃ front idle, pieces = front ++ name :: idle ∧ isIdle name = false ∧ name ≠ [dot, dot] ∧
      ∀ piece ∈ idle, isIdle piece = true := by
  induction pieces using List.reverseRecOn with
  | nil => cases last
  | append_singleton front piece ih =>
    cases proper : isIdle piece with
    | true =>
      rw [ignoresIdle_pieceComponents front piece proper] at last
      obtain ⟨front, idle, rfl, solid, undotted, idles⟩ := ih last
      refine ⟨front, idle ++ [piece], by simp, solid, undotted, ?_⟩
      exact List.forall_mem_append.mpr ⟨idles, List.forall_mem_singleton.mpr proper⟩
    | false =>
      rw [pieceComponents_append, pieceComponents_singleton proper] at last
      split at last
      · simp at last
      next undotted =>
        have same : piece = name := by simpa using last
        exact ⟨front, [], by rw [same], same ▸ proper, same ▸ undotted, nofun⟩

theorem exists_pieces_of_fileName? (named : path.fileName? = some name) :
    ∃ front idle, path.bytes.splitOn slash = front ++ name :: idle ∧ isIdle name = false ∧ name ≠ [dot, dot] ∧
      ∀ piece ∈ idle, isIdle piece = true := by
  apply exists_pieces_of_pieceComponents
  unfold fileName? at named
  split at named
  next bytes last =>
    cases named
    rw [components_eq, List.getLast?_append] at last
    cases final : (pieceComponents (path.bytes.splitOn slash)).getLast? with
    | some component =>
      rw [final] at last
      exact last
    | none =>
      -- What a path starts with is no name.
      rw [final, Option.none_or, startComponents] at last
      split at last
      · cases last
      · split at last <;> cases last
  next => cases named

theorem isAbsolute_of_pieces {more : List Bytes} (pieces : path.bytes.splitOn slash = [] :: more)
    (several : more ≠ []) : path.isAbsolute = true := by
  obtain ⟨next, others, cut⟩ := List.exists_cons_of_ne_nil several
  have joined : [slash].intercalate ([] :: next :: others) = path.bytes := by
    rw [← cut, ← pieces, List.intercalate_splitOn]
  simp [isAbsolute, ← joined, List.intercalate_cons_cons]

section

variable (pieces : path.bytes.splitOn slash = front ++ name :: idle) (proper : isIdle name = false)
  (idles : ∀ piece ∈ idle, isIdle piece = true)

include pieces proper idles

/-- A staging directory starts as its target does, if there is anything before the last name. -/
theorem startComponents_stagingDirectory {first : Bytes} {more : List Bytes} (several : front = first :: more) :
    path.stagingDirectory.startComponents = path.startComponents := by
  obtain ⟨rest, cut, _⟩ := splitOn_stagingDirectory pieces proper idles several
  simp only [startComponents, isAbsolute_stagingDirectory pieces proper idles]
  split
  · rfl
  next relative =>
    have filled : first ≠ [] := by
      intro empty
      have start : path.bytes.splitOn slash = [] :: (more ++ name :: idle) := by
        rw [pieces, several, empty, List.cons_append]
      exact relative (isAbsolute_of_pieces start (by simp))
    have same : path.stagingDirectory.segments.head? = path.segments.head? := by
      simp [segments, cut, pieces, several, filled]
    rw [same]

/-- The components of a staging directory, followed by the last name of the target, are those
of the target. The directory of a bare name is written as a `.`. -/
theorem components_stagingDirectory (undotted : name ≠ [dot, dot]) :
    path.stagingDirectory.components ++ [.name name] = path.components ∨
      path.stagingDirectory.components = [.here] ∧ path.components = [.name name] := by
  have last : pieceComponents (name :: idle) = [.name name] := by
    have alone : pieceComponents [name] = [.name name] := by rw [pieceComponents_singleton proper, if_neg undotted]
    exact (ignoresIdle_pieceComponents.append [name] idles).trans alone
  cases several : front with
  | nil =>
    right
    have current : path.stagingDirectory = ⟨[dot]⟩ := by
      rw [stagingDirectory_of_pieces pieces proper idles, several]
      rfl
    have relative := isAbsolute_stagingDirectory pieces proper idles
    obtain ⟨filled, unlike⟩ := not_isIdle_iff.mp proper
    have head : path.segments.head? = some name := by simp [segments, pieces, several, filled]
    refine ⟨by rw [current]; decide, ?_⟩
    rw [components_eq, pieces, several, List.nil_append, last, startComponents, ← relative, current, head]
    simp [unlike, isAbsolute, show dot ≠ slash by decide]
  | cons first more =>
    left
    obtain ⟨rest, cut, same⟩ := splitOn_stagingDirectory pieces proper idles several
    have before : pieceComponents (first :: rest) = pieceComponents (first :: more) :=
      ignoresIdle_pieceComponents.eq [first] same
    rw [components_eq, components_eq, startComponents_stagingDirectory pieces proper idles several, cut, before, pieces,
      several, pieceComponents_append, last, List.append_assoc]

end

end Path

namespace Disk

variable {disk after : Disk} {here : Place} {path : Path} {name : Bytes} {staged : Staged}

/-- A rename moves what was staged beside its target to another name in the same directory. -/
theorem publish_beside (named : path.fileName? = some name) (beside : staged.directory = path.stagingDirectory)
    (published : disk.publish here staged path = .ok after) :
    ∃ holder entry, disk.resolveDirectory here path.stagingDirectory = .ok holder ∧
      disk.find? ⟨holder, staged.name⟩ = some entry ∧
      after = (disk.erase ⟨holder, staged.name⟩).insert ⟨holder, .plain name⟩ entry := by
  obtain ⟨source, holder, final, entry, ready, rfl⟩ := publish_inv published
  have kept : disk.resolveDirectory here path.stagingDirectory = .ok source := beside ▸ ready.kept
  have same : final = name := Option.some.inj ((Path.fileName?_of_lastStep? ready.last).symm.trans named)
  have one : source = holder := by
    obtain ⟨⟨⟩, spelled, _⟩ := bind_eq_ok ready.aimed
    have found : disk.resolveDirectory here path.stagingDirectory = disk.resolveHolder here path :=
      resolveDirectory_stagingDirectory ready.last ready.unslashed spelled
    exact Except.ok.inj (kept.symm.trans (found.trans ready.aimed))
  rw [← one, same]
  exact ⟨source, entry, kept, ready.held, rfl⟩

end Disk

namespace Replacement

/-- A replacement of a path that ends in a name is staged beside it. The staging directory is
a path, and its components and the name are those of the target, but for the `.` that stands
for the directory of a bare name. A commit renames the staged file within this directory,
which is the one it was made in unless the way there has changed. -/
theorem staged_beside {path : Path} {name : Bytes} (named : path.fileName? = some name) :
    path.stagingDirectory.bytes ≠ [] ∧
    (path.stagingDirectory.components ++ [.name name] = path.components ∨
      path.stagingDirectory.components = [.here] ∧ path.components = [.name name]) ∧
    ∀ (host : MemoryHost) (mode : Nat) (replacement : Replacement Staged),
      ((begin path mode : StateM MemoryHost _) host).1.result = .ok replacement →
      ∃ holder, host.disk.resolveDirectory host.here path.stagingDirectory = .ok holder ∧
        ((begin path mode : StateM MemoryHost (Outcome (Replacement Staged))) host).2.disk =
          host.disk.insert ⟨holder, replacement.staged.name⟩ (.file [] mode) ∧
        ∀ later : MemoryHost, ((replacement.commit : StateM MemoryHost _) later).1.result = .ok () →
          ∃ beside entry, later.disk.resolveDirectory later.here path.stagingDirectory = .ok beside ∧
            later.disk.find? ⟨beside, replacement.staged.name⟩ = some entry ∧
            ((replacement.commit : StateM MemoryHost _) later).2.disk =
              (later.disk.erase ⟨beside, replacement.staged.name⟩).insert ⟨beside, .plain name⟩ entry ∧
            (later.here = host.here → later.disk.SameShape host.disk → beside = holder) := by
  refine ⟨path.stagingDirectory_ne_nil, ?_, ?_⟩
  · obtain ⟨front, idle, pieces, proper, undotted, idles⟩ := Path.exists_pieces_of_fileName? named
    exact Path.components_stagingDirectory pieces proper idles undotted
  · intro host mode replacement begun
    rcases begin_cases path mode host with ⟨fault, refused⟩ | ⟨holder, reached, made⟩
    · rw [refused] at begun
      cases begun
    rw [made] at begun ⊢
    cases begun
    refine ⟨holder, reached, rfl, ?_⟩
    intro later committed
    obtain ⟨disk, published⟩ := (commit_ok_iff later _).mp committed
    obtain ⟨beside, entry, again, found, moved⟩ := Disk.publish_beside named rfl published
    refine ⟨beside, entry, again, found, ?_, ?_⟩
    · rw [commit_of_published published]
      exact moved
    · intro home alike
      rw [home, alike.resolveDirectory] at again
      exact Except.ok.inj (again.symm.trans reached)

private def besideName : Bytes := Utf8.encode "a.js".toList

private def besidePath : Path := .ofText "src//./a.js".toList

private def besideHost : MemoryHost := .ofDisk ⟨[(⟨[], .plain (Utf8.encode "src".toList)⟩, .directory)]⟩ []

private def besideStaged : Replacement Staged :=
  ⟨besidePath, ⟨besidePath.stagingDirectory, .staged besidePath.stagingStem 0⟩⟩

private def besideBegun : Outcome (Replacement Staged) × MemoryHost :=
  (begin besidePath 0o644 : StateM MemoryHost _) besideHost

/-- What is staged for a new file in a directory is made there and renamed there. -/
theorem staged_beside_new_file :
    besidePath.fileName? = some besideName ∧
    besidePath.stagingDirectory.components ++ [.name besideName] = besidePath.components ∧
    besideBegun.1.result = .ok besideStaged ∧
    ((besideStaged.commit : StateM MemoryHost _) besideBegun.2).1.result = .ok () ∧
    ∃ holder entry,
      besideBegun.2.disk = besideHost.disk.insert ⟨holder, besideStaged.staged.name⟩ (.file [] 0o644) ∧
      ((besideStaged.commit : StateM MemoryHost _) besideBegun.2).2.disk =
        (besideBegun.2.disk.erase ⟨holder, besideStaged.staged.name⟩).insert ⟨holder, .plain besideName⟩ entry := by
  have named : besidePath.fileName? = some besideName := by decide +kernel
  have begun : besideBegun.1.result = .ok besideStaged := rfl
  have committed : ((besideStaged.commit : StateM MemoryHost _) besideBegun.2).1.result = .ok () := by decide +kernel
  obtain ⟨_, listed, staged⟩ := staged_beside named
  refine ⟨named, ?_, begun, committed, ?_⟩
  · rcases listed with same | ⟨current, _⟩
    · exact same
    · exact absurd current (by decide +kernel)
  · obtain ⟨holder, _, made, renamed⟩ := staged besideHost 0o644 besideStaged begun
    obtain ⟨beside, entry, _, _, moved, alike⟩ := renamed besideBegun.2 committed
    have shape : besideBegun.2.disk = besideHost.disk.insert ⟨holder, besideStaged.staged.name⟩ (.file [] 0o644) := made
    have same : beside = holder := by
      apply alike rfl
      rw [shape]
      exact Disk.sameShape_of_plain (Disk.plain_insert_hidden _ rfl _)
    rw [same] at moved
    exact ⟨holder, entry, shape, moved⟩

end Replacement

end CommentFold
