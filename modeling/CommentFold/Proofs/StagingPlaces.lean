import CommentFold.Proofs.LineEndings
import CommentFold.Proofs.LookUps
import Mathlib.Data.List.DropRight

/-! Where a replacement is staged. A path that ends in a name and its staging directory
have the same steps up to stays, so the staged file is created in the very directory
that holds the entry it will replace. -/

namespace CommentFold

/-- Joining more pieces goes on where joining the first ones ended. -/
theorem intercalate_prefix {α : Type} (separator : List α) {first : List (List α)} (more : List (List α))
    (some : first ≠ []) : separator.intercalate first <+: separator.intercalate (first ++ more) := by
  induction first with
  | nil => exact absurd rfl some
  | cons piece rest ih =>
    cases rest with
    | nil =>
      cases more with
      | nil => exact List.prefix_rfl
      | cons next more =>
        rw [List.singleton_append, List.intercalate_singleton, List.intercalate_cons_cons, List.append_assoc]
        exact List.prefix_append _ _
    | cons next rest =>
      simp only [List.cons_append, List.intercalate_cons_cons] at ih ⊢
      exact List.prefix_append_right_inj _ |>.mpr (ih (List.cons_ne_nil _ _))

/-! Idle pieces at the end -/

namespace Path

theorem isIdle_iff {piece : Bytes} : isIdle piece = true ↔ piece = [] ∨ piece = [dot] := by
  simp [isIdle]

theorem not_isIdle_iff {piece : Bytes} : isIdle piece = false ↔ piece ≠ [] ∧ piece ≠ [dot] := by
  simp [isIdle]

theorem dropIdle_append (front : List Bytes) {idle : List Bytes} (idles : ∀ piece ∈ idle, isIdle piece = true) :
    dropIdle (front ++ idle) = dropIdle front := by
  rw [dropIdle, List.reverse_append, List.dropWhile_append_of_pos (by simpa using idles), dropIdle]

theorem dropIdle_concat (front : List Bytes) {last : Bytes} (proper : isIdle last = false) :
    dropIdle (front ++ [last]) = front ++ [last] :=
  List.rdropWhile_concat_neg _ _ _ (by simp [proper])

/-- What is read off pieces takes no notice of an idle one at the end. -/
def IgnoresIdle {α : Type} (read : List Bytes → α) : Prop :=
  ∀ pieces last, isIdle last = true → read (pieces ++ [last]) = read pieces

namespace IgnoresIdle

variable {α : Type} {read : List Bytes → α}

theorem dropIdle (ignores : IgnoresIdle read) (front pieces : List Bytes) :
    read (front ++ Path.dropIdle pieces) = read (front ++ pieces) := by
  induction pieces using List.reverseRecOn with
  | nil => rfl
  | append_singleton pieces last ih =>
    cases idle : isIdle last with
    | true =>
      rw [dropIdle_append pieces (List.forall_mem_singleton.mpr idle), ih, ← List.append_assoc, ignores _ last idle]
    | false => rw [dropIdle_concat pieces idle]

theorem eq (ignores : IgnoresIdle read) (front : List Bytes) {rest more : List Bytes}
    (same : Path.dropIdle rest = Path.dropIdle more) : read (front ++ rest) = read (front ++ more) := by
  rw [← ignores.dropIdle front rest, same, ignores.dropIdle front more]

theorem append (ignores : IgnoresIdle read) (front : List Bytes) {idle : List Bytes}
    (idles : ∀ piece ∈ idle, isIdle piece = true) : read (front ++ idle) = read front := by
  have dropped : Path.dropIdle idle = [] := dropIdle_append [] idles
  rw [← ignores.dropIdle front idle, dropped, List.append_nil]

end IgnoresIdle

end Path

/-! Steps up to stays -/

namespace Step

/-- The steps without the stays that they end with. -/
def withoutStays (steps : List Step) : List Step := steps.rdropWhile (· = .stay)

theorem withoutStays_concat_stay (steps : List Step) : withoutStays (steps ++ [.stay]) = withoutStays steps :=
  List.rdropWhile_concat_pos _ _ _ (by simp)

/-- The steps of pieces between slashes. -/
def ofPieces (pieces : List Bytes) : List Step := (pieces.filter (· ≠ [])).map ofSegment

theorem ofPieces_concat (pieces : List Bytes) {last : Bytes} (filled : last ≠ []) :
    ofPieces (pieces ++ [last]) = ofPieces pieces ++ [ofSegment last] := by
  simp [ofPieces, filled]

/-- A piece that is no component is at most a stay. -/
theorem ignoresIdle_withoutStays : Path.IgnoresIdle fun pieces => withoutStays (ofPieces pieces) := by
  intro pieces last idle
  rcases Path.isIdle_iff.mp idle with rfl | rfl
  · simp [ofPieces]
  · dsimp only
    rw [ofPieces_concat pieces (List.cons_ne_nil _ _)]
    exact withoutStays_concat_stay _

end Step

namespace Path

variable {path : Path} {front : List Bytes} {name : Bytes}

theorem withoutStays_steps (path : Path) :
    Step.withoutStays path.steps = Step.withoutStays (Step.ofPieces (path.bytes.splitOn slash)) := by
  unfold steps
  split
  · exact Step.withoutStays_concat_stay _
  · rw [List.append_nil]
    rfl

/-- A path that does not end in a slash ends in a piece that is not empty. -/
theorem exists_pieces (path : Path) (filled : path.bytes ≠ []) (unslashed : path.endsInSlash = false) :
    ∃ front last, path.bytes.splitOn slash = front ++ [last] ∧ last ≠ [] := by
  obtain ⟨bytes⟩ := path
  simp only [endsInSlash, decide_eq_false_iff_not] at filled unslashed
  induction bytes using pieces_induction slash with
  | last piece whole => exact ⟨[], piece, List.splitOn_eq_singleton whole, filled⟩
  | ended piece rest whole ih =>
    have more : rest ≠ [] := by
      rintro rfl
      simp at unslashed
    rw [List.getLast?_append_of_ne_nil _ (List.cons_ne_nil _ _), List.getLast?_cons_of_ne_nil more] at unslashed
    obtain ⟨front, last, pieces, filled⟩ := ih more unslashed
    exact ⟨piece :: front, last, by rw [splitOn_cons whole, pieces, List.cons_append], filled⟩

theorem leadingSteps_of_pieces (pieces : path.bytes.splitOn slash = front ++ [name]) (filled : name ≠ []) :
    path.leadingSteps = Step.ofPieces front ∧ path.lastStep? = some (Step.ofSegment name) := by
  have last : path.segments = front.filter (· ≠ []) ++ [name] := by
    simp [segments, pieces, filled]
  simp [leadingSteps, lastStep?, last, Step.ofPieces]

theorem intercalate_ne_nil {first : Bytes} {rest : List Bytes} (filled : ¬(first = [] ∧ rest = [])) :
    [slash].intercalate (first :: rest) ≠ [] := by
  cases rest with
  | nil => simpa using filled
  | cons next rest => simp [List.intercalate_cons_cons]

/-- The path of pieces before a name. -/
def ofPieces : List Bytes → Path
  | [] => ⟨[dot]⟩
  | first :: more =>
    if first = [] ∧ dropIdle more = [] then ⟨[slash]⟩ else ⟨[slash].intercalate (first :: dropIdle more)⟩

theorem check_eq_ok_iff {path : Path} :
    path.check = .ok () ↔ 0 ∉ path.bytes ∧ path.bytes ≠ [] ∧ path.bytes.length < pathLimit := by
  unfold check
  split
  next nul => simp [nul]
  next spelled =>
    split
    next empty => simp [empty]
    next filled =>
      split
      next long => simp [Nat.not_lt.mpr long]
      next short => simp [spelled, filled, Nat.not_le.mp short]

section

variable {idle : List Bytes} (pieces : path.bytes.splitOn slash = front ++ name :: idle)
  (proper : isIdle name = false) (idles : ∀ piece ∈ idle, isIdle piece = true)

include pieces proper idles

/-- A staging directory is written as its target is, up to the last name. -/
theorem stagingDirectory_of_pieces : path.stagingDirectory = ofPieces front := by
  have filled : name ≠ [] := (not_isIdle_iff.mp proper).1
  cases front with
  | nil =>
    have last : dropIdle idle = [] := dropIdle_append [] idles
    have alone : path.parent? = some ⟨[]⟩ := by simp [parent?, pieces, last, filled]
    simp [stagingDirectory, alone, ofPieces]
  | cons first more =>
    have kept : dropIdle (more ++ name :: idle) = more ++ [name] := by
      rw [List.append_cons, dropIdle_append _ idles, dropIdle_concat _ proper]
    simp only [stagingDirectory, parent?, ofPieces, pieces, List.cons_append, List.headD_cons, List.tail_cons, kept,
      List.append_ne_nil_of_right_ne_nil, ne_eq, List.cons_ne_nil, not_false_eq_true, if_false, List.dropLast_concat]
    split
    next root => simp
    next deeper => simp [intercalate_ne_nil deeper]

/-- A staging directory is written as a part of its target, or as the current directory. -/
theorem stagingDirectory_prefix :
    path.stagingDirectory.bytes <+: path.bytes ∨ path.stagingDirectory.bytes = [dot] ∧ name <+: path.bytes := by
  have joined : [slash].intercalate (front ++ name :: idle) = path.bytes := by
    rw [← pieces, List.intercalate_splitOn]
  rw [stagingDirectory_of_pieces pieces proper idles]
  cases front with
  | nil =>
    right
    rw [← joined]
    refine ⟨rfl, ?_⟩
    simpa using intercalate_prefix [slash] idle (List.cons_ne_nil name [])
  | cons first more =>
    left
    rw [← joined, ofPieces]
    split
    next root =>
      have filled : more ++ name :: idle ≠ [] := by simp
      obtain ⟨next, others, cut⟩ := List.exists_cons_of_ne_nil filled
      simp [root.1, cut, List.intercalate_cons_cons]
    next =>
      obtain ⟨dropped, whole⟩ : dropIdle more <+: more ++ name :: idle :=
        (List.rdropWhile_prefix isIdle more).trans (List.prefix_append _ _)
      rw [List.cons_append, ← whole, ← List.cons_append]
      exact intercalate_prefix _ _ (List.cons_ne_nil _ _)

/-- A staging directory has the pieces of its target up to the last name, but for idle pieces
at the end. -/
theorem splitOn_stagingDirectory {first : Bytes} {more : List Bytes} (several : front = first :: more) :
    ∃ rest, path.stagingDirectory.bytes.splitOn slash = first :: rest ∧ dropIdle rest = dropIdle more := by
  rw [stagingDirectory_of_pieces pieces proper idles, several, ofPieces]
  split
  next root =>
    rw [root.1, root.2]
    exact ⟨[[]], by decide, by decide⟩
  next =>
    refine ⟨dropIdle more, ?_, List.rdropWhile_idempotent isIdle more⟩
    apply List.splitOn_intercalate slash ?_ (List.cons_ne_nil _ _)
    intro piece member
    have inside : piece ∈ path.bytes.splitOn slash := by
      rw [pieces, several]
      rcases List.mem_cons.mp member with rfl | later
      · simp
      · simp [(List.rdropWhile_prefix isIdle more).subset later]
    exact not_mem_of_mem_splitOn inside

/-- Up to stays, a staging directory has the steps that lead to the entry of its target. -/
theorem withoutStays_stagingDirectory :
    Step.withoutStays path.stagingDirectory.steps = Step.withoutStays (Step.ofPieces front) := by
  rw [withoutStays_steps]
  cases several : front with
  | nil =>
    rw [stagingDirectory_of_pieces pieces proper idles, several]
    decide
  | cons first more =>
    obtain ⟨rest, cut, same⟩ := splitOn_stagingDirectory pieces proper idles several
    rw [cut]
    exact Step.ignoresIdle_withoutStays.eq [first] same

theorem check_stagingDirectory (spelled : path.check = .ok ()) : path.stagingDirectory.check = .ok () := by
  obtain ⟨whole, filled, short⟩ := check_eq_ok_iff.mp spelled
  have some := path.stagingDirectory_ne_nil
  rcases stagingDirectory_prefix pieces proper idles with part | ⟨current, _⟩
  · exact check_eq_ok_iff.mpr ⟨fun nul => whole (part.subset nul), some, Nat.lt_of_le_of_lt part.length_le short⟩
  · refine check_eq_ok_iff.mpr ⟨?_, some, ?_⟩ <;> rw [current] <;> decide

theorem isAbsolute_stagingDirectory : path.stagingDirectory.isAbsolute = path.isAbsolute := by
  rcases stagingDirectory_prefix pieces proper idles with ⟨rest, whole⟩ | ⟨current, rest, whole⟩
  · obtain ⟨byte, more, cut⟩ := List.exists_cons_of_ne_nil path.stagingDirectory_ne_nil
    simp [isAbsolute, ← whole, cut]
  · obtain ⟨byte, more, rfl⟩ := List.exists_cons_of_ne_nil (not_isIdle_iff.mp proper).1
    have apart : byte ≠ slash := by
      rintro rfl
      have member : slash :: more ∈ path.bytes.splitOn slash := by simp [pieces]
      exact not_mem_of_mem_splitOn member List.mem_cons_self
    simp [isAbsolute, current, ← whole, apart, show dot ≠ slash by decide]

end

theorem fileName?_of_lastStep? (last : path.lastStep? = some (.down name)) : path.fileName? = some name := by
  obtain ⟨segment, final, same⟩ := Option.map_eq_some_iff.mp last
  have whole := List.dropLast_append_getLast? segment final
  have ended : path.components.getLast? = some (.name name) := by
    rw [components, ← whole, List.map_append, List.map_singleton, same]
    simp [Step.component?]
  rw [fileName?, ended]

/-- The pieces of a path that ends in a name. -/
theorem exists_front (last : path.lastStep? = some (.down name)) (unslashed : path.endsInSlash = false) :
    ∃ front, path.bytes.splitOn slash = front ++ [name] ∧ isIdle name = false ∧
      path.leadingSteps = Step.ofPieces front := by
  have filled : path.bytes ≠ [] := by
    intro empty
    simp [lastStep?, segments, empty] at last
  obtain ⟨front, piece, pieces, some⟩ := exists_pieces path filled unslashed
  obtain ⟨leading, same⟩ := leadingSteps_of_pieces pieces some
  have step : Step.ofSegment piece = .down name := Option.some.inj (same.symm.trans last)
  unfold Step.ofSegment at step
  split at step
  · cases step
  next undotted =>
    split at step
    · cases step
    · cases step
      exact ⟨front, pieces, not_isIdle_iff.mpr ⟨some, undotted⟩, leading⟩

end Path

namespace Disk

variable {disk : Disk} {place start final here : Place} {steps : List Step} {path : Path} {name : Bytes}

/-- What a look-up ends in, if it has to be a directory. -/
def directoryAt (disk : Disk) (place : Place) : Except Fault Place :=
  if disk.entryAt? place = some .directory then .ok place else .error .notADirectory

private theorem advance_concat_stay {jump : Place → List Step → Except Fault Place}
    (jumps : ∀ place steps, jump place (steps ++ [.stay]) = jump place steps >>= disk.directoryAt) :
    disk.advance jump place (steps ++ [.stay]) = disk.advance jump place steps >>= disk.directoryAt := by
  induction steps generalizing place with
  | nil =>
    by_cases stands : disk.entryAt? place = some .directory <;>
      simp [advance, directoryAt, bind, Except.bind, stands]
  | cons step rest ih =>
    rw [List.cons_append]
    unfold advance
    split
    · rfl
    · cases step with
      | stay | up => exact ih
      | down name =>
        dsimp only
        split
        · rfl
        · split
          next => rfl
          next target _ =>
            rw [← List.append_assoc]
            exact jumps _ _
          next => exact ih

/-- A stay at the end demands a directory. -/
theorem walk_concat_stay (links : Nat) :
    disk.walk links place (steps ++ [.stay]) = disk.walk links place steps >>= disk.directoryAt := by
  induction links generalizing place steps with
  | zero => exact advance_concat_stay fun _ _ => rfl
  | succ links ih => exact advance_concat_stay fun _ _ => ih

theorem stands_of_walk_stay {links : Nat} (reached : disk.walk links place (steps ++ [.stay]) = .ok final) :
    disk.entryAt? final = some .directory := by
  rw [walk_concat_stay] at reached
  obtain ⟨other, _, ended⟩ := bind_eq_ok reached
  unfold directoryAt at ended
  split at ended
  next stands =>
    cases ended
    exact stands
  next => cases ended

theorem walkToDirectory_concat_stay :
    disk.walkToDirectory start (steps ++ [.stay]) = disk.walkToDirectory start steps := by
  simp only [walkToDirectory, walk_concat_stay]
  cases disk.walk maxLinks start steps with
  | error fault => rfl
  | ok final =>
    by_cases stands : disk.entryAt? final = some .directory <;> simp [directoryAt, bind, Except.bind, stands]

theorem walkToDirectory_withoutStays (steps : List Step) :
    disk.walkToDirectory start (Step.withoutStays steps) = disk.walkToDirectory start steps := by
  induction steps using List.reverseRecOn with
  | nil => rfl
  | append_singleton steps last ih =>
    by_cases stays : last = .stay
    · rw [stays, Step.withoutStays_concat_stay, ih, walkToDirectory_concat_stay]
    · rw [Step.withoutStays, List.rdropWhile_concat_neg _ _ _ (by simpa using stays)]

/-- A staged file is created in the directory that holds the entry it will replace. -/
theorem resolveDirectory_stagingDirectory (last : path.lastStep? = some (.down name))
    (unslashed : path.endsInSlash = false) (spelled : path.check = .ok ()) :
    disk.resolveDirectory here path.stagingDirectory = disk.resolveHolder here path := by
  obtain ⟨front, pieces, proper, leading⟩ := Path.exists_front last unslashed
  have same : path.stagingDirectory.startFrom here = path.startFrom here := by
    simp only [Path.startFrom, Path.isAbsolute_stagingDirectory pieces proper nofun]
  have walked : disk.walkToDirectory (path.startFrom here) path.stagingDirectory.steps =
      disk.walkToDirectory (path.startFrom here) path.leadingSteps := by
    rw [← walkToDirectory_withoutStays, Path.withoutStays_stagingDirectory pieces proper nofun, ← leading,
      walkToDirectory_withoutStays]
  simp only [resolveDirectory, resolveHolder, Path.check_stagingDirectory pieces proper nofun spelled, spelled, same,
    walked]

end Disk

end CommentFold
