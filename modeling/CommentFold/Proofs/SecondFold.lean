import CommentFold.Proofs.FoldSuccess
import CommentFold.Proofs.LookUps
import CommentFold.Proofs.Refolding

/-! Folding a file twice. What the first pass puts in place is found again under the
same path, can be replaced again, and has no comment line left. -/

namespace CommentFold

namespace Disk.Replaceable

variable {disk : Disk} {here place : Place} {path : Path} {location : Location} {bytes : Bytes} {mode : Nat}

/-- A file that a path names is what it leads to. -/
theorem resolve_file (able : disk.Replaceable here path location)
    (standing : disk.find? location = some (.file bytes mode)) :
    ∃ place, disk.resolve here path = .ok place ∧ disk.entryAt? place = some (.file bytes mode) := by
  obtain ⟨holder, name, rfl, reached, last⟩ := named?_inv able.named
  obtain ⟨⟨⟩, spelled, walked⟩ := bind_eq_ok reached
  obtain ⟨other, first, ended⟩ := bind_eq_ok walked
  split at ended
  case isFalse => cases ended
  case isTrue stands =>
    cases ended
    have whole := walk_to_file first stands able.short standing
    rw [← Path.steps_of_lastStep? last able.unslashed] at whole
    refine ⟨holder ++ [name], ?_, by rw [entryAt?_append, standing]⟩
    simp only [resolve, spelled, whole, bind, Except.bind]

/-- Whatever file is put in the place of one that the path leads to, the path leads to
it, and it can be replaced in turn. -/
theorem insert (able : disk.Replaceable here path location) (led : disk.resolve here path = .ok place)
    (standing : disk.entryAt? place = some (.file bytes mode)) (left : Bytes) (kept : Nat) :
    (disk.insert location (.file left kept)).Replaceable here path location ∧
      ∃ final, (disk.insert location (.file left kept)).resolve here path = .ok final ∧
        (disk.insert location (.file left kept)).entryAt? final = some (.file left kept) := by
  obtain ⟨holder, name, rfl, reached, last⟩ := named?_inv able.named
  have solid : disk.entryAt? place ≠ some .directory := by simp [standing]
  obtain ⟨⟨⟩, _, walked⟩ := bind_eq_ok reached
  obtain ⟨other, first, ended⟩ := bind_eq_ok walked
  split at ended
  case isFalse => cases ended
  case isTrue stands =>
    cases ended
    -- The leading steps lead to the holder, so it is the last step that leads to the file.
    have aside : disk.Aside ⟨holder, .plain name⟩ := by
      obtain ⟨⟨⟩, _, whole⟩ := bind_eq_ok led
      rw [Path.steps_of_lastStep? last able.unslashed] at whole
      obtain ⟨middle, early, late⟩ := (walk_leads _ whole).exists_of_append _
      rw [early.unique (walk_leads _ first)] at late
      exact late.aside solid
    have found : (disk.insert ⟨holder, .plain name⟩ (.file left kept)).find? ⟨holder, .plain name⟩ =
        some (.file left kept) := by
      rw [find?_insert, if_pos rfl]
    have holds := resolveHolder_insert (.file left kept) able.free aside reached
    obtain ⟨beside, kept'⟩ := able.kept
    have again : (disk.insert ⟨holder, .plain name⟩ (.file left kept)).Replaceable here path ⟨holder, .plain name⟩ := by
      refine ⟨able.spelled, able.fits, ⟨beside, resolveDirectory_insert _ able.free aside kept'⟩, named?_eq holds last,
        able.short, able.unslashed, ?_⟩
      rw [found]
      simp
    exact ⟨again, again.resolve_file found⟩

end Disk.Replaceable

/-- A second pass, under whatever policy, succeeds where the first did. It finds no
comment line, counts the line feeds that the first pass left, and takes away no more
than a carriage return before each of them. It changes nothing at all exactly if no
line of the banner and no line after it that is no comment line was read with a
carriage return at its end. -/
theorem foldFile_again (host : MemoryHost) (below : host.disk.StagedBelow host.serial) (path : Path)
    (first second : Trailing) :
    let run := (foldFile path first : StateM MemoryHost _) host
    let again := (foldFile path second : StateM MemoryHost _) run.2
    ∀ report, run.1.result = .ok report →
      ∃ (place : Place) (bytes left : Bytes) (mode kept : Nat) (lines read : List Text) (location : Location),
        host.disk.resolve host.here path = .ok place ∧ host.disk.entryAt? place = some (.file bytes mode) ∧
        readLines bytes = lines.map .ok ∧
        host.disk.named? host.here path = some location ∧
        run.2.disk.find? location = some (.file left kept) ∧
        run.2.disk.fetch run.2.here path = .ok ⟨.ok left, .ok kept⟩ ∧
        readLines left = read.map .ok ∧ (∀ line ∈ numbered 3 (read.drop 3), line.kind = .other) ∧
        again.1.result = .ok ⟨path, left.count lineFeed, 0⟩ ∧
        again.2.disk.find? location = some (.file (withoutReturns left) kept) ∧
        again.2.disk.fetch again.2.here path = .ok ⟨.ok (withoutReturns left), .ok kept⟩ ∧
        (∀ other ≠ location, again.2.disk.find? other = run.2.disk.find? other) ∧
        (withoutReturns left = left ↔
          (∀ raw ∈ lines.take 3, raw.getLast? ≠ some '\r') ∧
          ∀ line ∈ numbered 3 (lines.drop 3), line.kind = .other → line.raw.getLast? ≠ some '\r') := by
  intro run again report done
  obtain ⟨place, bytes, mode, document, location, led, standing, folded, able, _, after⟩ := foldFile_inv below done
  obtain ⟨lines, read, contents, same, read_again, plain, refolded, written, unchanged⟩ :=
    Document.fold_again folded second
  let left := Utf8.encode document.contents
  let kept := Disk.modeAfterWrite mode
  let middle : MemoryHost :=
    { host with disk := host.disk.insert location (.file left kept), serial := host.serial + 1 }
  have below_middle : middle.disk.StagedBelow middle.serial :=
    (below.insert_plain (Disk.named?_isPlain able.named) _).mono (Nat.le_succ _)
  obtain ⟨able_middle, between, led_middle, standing_middle⟩ := able.insert led standing left kept
  obtain ⟨done_again, after_again⟩ :=
    foldFile_of_replaceable below_middle led_middle standing_middle refolded able_middle
  -- The mode was settled by the first write.
  rw [written, (Disk.modeAfterWrite_eq_self_iff kept).mpr (Disk.writeKeeps_modeAfterWrite mode)] at after_again
  obtain ⟨_, final, led_final, standing_final⟩ :=
    able_middle.insert led_middle standing_middle (withoutReturns left) kept
  have there : again = (foldFile path second : StateM MemoryHost _) middle := by
    change (foldFile path second : StateM MemoryHost _) run.2 = _
    rw [after]
  refine ⟨place, bytes, left, mode, kept, lines, read, location, led, standing, same, able.named, ?_, ?_, read_again,
    plain, ?_, ?_, ?_, ?_, unchanged⟩
  · rw [after, Disk.find?_insert, if_pos rfl]
  · rw [after]
    exact Disk.fetch_of_file led_middle standing_middle
  · rw [there]
    exact done_again
  · rw [there, after_again, Disk.find?_insert, if_pos rfl]
  · rw [there, after_again]
    exact Disk.fetch_of_file led_final standing_final
  · intro other apart
    rw [there, after_again, after]
    exact (middle.disk.find?_insert location other _).trans (if_neg apart)

private def twiceAt : Location := ⟨[], .plain (Utf8.encode "a.js".toList)⟩

private def twicePath : Path := .ofText "a.js".toList

private def twiceText (body : List String) : Bytes :=
  Utf8.encode ((Banner.required ++ body.map String.toList).flatMap Block.plainLine)

/-- A file with a line that ends in two carriage returns, and a comment after it. -/
private def twiceHost : MemoryHost := .ofDisk ⟨[(twiceAt, .file (twiceText ["x\r\r", "// c"]) 0o644)]⟩ []

private theorem twiceHost_below : twiceHost.disk.StagedBelow twiceHost.serial :=
  .of_isPlain (List.forall_mem_singleton.mpr rfl)

private theorem twiceHost_found : twiceHost.disk.find? twiceAt = some (.file (twiceText ["x\r\r", "// c"]) 0o644) := rfl

private theorem twiceHost_named : twiceHost.disk.named? twiceHost.here twicePath = some twiceAt := rfl

private theorem fold_twiceHost :
    ((foldFile twicePath .leave : StateM MemoryHost _) twiceHost).1.result = .ok ⟨twicePath, 5, 1⟩ ∧
      ((foldFile twicePath .leave : StateM MemoryHost _) twiceHost).2.disk.find? twiceAt =
        some (.file (twiceText ["x\r", "/**", " * c"]) 0o644) := by
  have able : twiceHost.disk.Replaceable twiceHost.here twicePath twiceAt :=
    ⟨rfl, rfl, ⟨[], rfl⟩, twiceHost_named, rfl, rfl, by simp [twiceHost_found]⟩
  obtain ⟨place, led, standing⟩ := able.resolve_file twiceHost_found
  have whole : ∀ raw ∈ ["x\r\r", "// c"].map String.toList, '\n' ∉ raw := by decide
  have folded := Document.fold_written twicePath .leave whole
  have blocks : countBlocks (numbered 3 ((["x\r\r", "// c"].map String.toList).map withoutReturn)) = 1 := by decide
  have written : foldRuns .leave (runs (numbered 3 ((["x\r\r", "// c"].map String.toList).map withoutReturn))) =
      (["x\r", "/**", " * c"].map String.toList).flatMap Block.plainLine := by decide
  obtain ⟨done, after⟩ := foldFile_of_replaceable twiceHost_below led standing folded able
  rw [done, after, blocks, written, ← List.flatMap_append, Disk.find?_insert, if_pos rfl]
  exact ⟨rfl, rfl⟩

private theorem left_whole : ∀ raw ∈ ["x\r", "/**", " * c"].map String.toList, '\n' ∉ raw := by decide

private theorem twice_count : (twiceText ["x\r", "/**", " * c"]).count lineFeed = 6 :=
  count_encode_lines _ (required_whole left_whole)

private theorem twice_returns : withoutReturns (twiceText ["x\r", "/**", " * c"]) = twiceText ["x", "/**", " * c"] := by
  have kept : (["x\r", "/**", " * c"].map String.toList).map withoutReturn = ["x", "/**", " * c"].map String.toList := by
    decide
  rw [twiceText, withoutReturns_encode _ (required_whole left_whole), map_withoutReturn_required, kept, twiceText]

/-- The second pass closes nothing and takes the other carriage return. -/
theorem foldFile_again_drops_return :
    twiceHost.disk.StagedBelow twiceHost.serial ∧
      ((foldFile twicePath .leave : StateM MemoryHost _) twiceHost).1.result = .ok ⟨twicePath, 5, 1⟩ ∧
      ((foldFile twicePath .close : StateM MemoryHost _)
        ((foldFile twicePath .leave : StateM MemoryHost _) twiceHost).2).1.result = .ok ⟨twicePath, 6, 0⟩ ∧
      ((foldFile twicePath .close : StateM MemoryHost _)
        ((foldFile twicePath .leave : StateM MemoryHost _) twiceHost).2).2.disk.find? twiceAt =
        some (.file (twiceText ["x", "/**", " * c"]) 0o644) := by
  obtain ⟨done, left_there⟩ := fold_twiceHost
  obtain ⟨_, _, left, _, kept, _, _, location, _, _, _, named, found, _, _, _, done_again, found_again, _⟩ :=
    foldFile_again twiceHost twiceHost_below twicePath .leave .close _ done
  have there : location = twiceAt := Option.some.inj (named.symm.trans twiceHost_named)
  subst location
  have same := Entry.file.inj (Option.some.inj (found.symm.trans left_there))
  rw [same.1, twice_count] at done_again
  rw [same.1, same.2, twice_returns] at found_again
  exact ⟨twiceHost_below, done, done_again, found_again⟩

end CommentFold
