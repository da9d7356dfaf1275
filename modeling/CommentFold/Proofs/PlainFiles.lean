import CommentFold.Proofs.SecondFold

/-! Files without comments. Folding reads their lines and writes them again, so that
every line ends in a line feed alone: one carriage return before each line feed goes,
and a last line that has no line feed gets one. -/

namespace CommentFold

/-- A file without the carriage return before each line feed, and with a line feed at its end. -/
def normalised (bytes : Bytes) : Bytes :=
  withoutReturns bytes ++ if bytes.getLast? = some lineFeed then [] else [lineFeed]

theorem withoutReturns_of_not_mem {line : Bytes} (whole : lineFeed ∉ line) : withoutReturns line = line := by
  induction line with
  | nil => rfl
  | cons byte rest ih =>
    have later : lineFeed ∉ rest := fun member => whole (List.mem_cons_of_mem _ member)
    have apart : rest.head? ≠ some lineFeed := fun first => later (List.mem_of_head? first)
    rw [withoutReturns, if_neg (fun both => apart both.2), ih later]

theorem normalised_of_not_mem {line : Bytes} (whole : lineFeed ∉ line) : normalised line = line ++ [lineFeed] := by
  have apart : line.getLast? ≠ some lineFeed := fun last => whole (List.mem_of_getLast? last)
  rw [normalised, withoutReturns_of_not_mem whole, if_neg apart]

theorem normalised_ended {line : Bytes} (whole : lineFeed ∉ line) :
    normalised (line ++ [lineFeed]) = dropCarriageReturn line ++ [lineFeed] := by
  rw [normalised, withoutReturns_cons whole, List.getLast?_concat, if_pos rfl, List.append_nil]
  rfl

theorem normalised_cons {line rest : Bytes} (whole : lineFeed ∉ line) (more : rest ≠ []) :
    normalised (line ++ lineFeed :: rest) = dropCarriageReturn line ++ lineFeed :: normalised rest := by
  have last : (line ++ lineFeed :: rest).getLast? = rest.getLast? := by
    rw [List.getLast?_append_of_ne_nil _ (List.cons_ne_nil _ _), List.getLast?_cons_of_ne_nil more]
  rw [normalised, withoutReturns_cons whole, last, List.append_assoc]
  rfl

/-- The lines of a file, each written with a line feed, are the file with its line ends made equal. -/
theorem encode_lines_of_readLines {bytes : Bytes} {lines : List Text} (filled : bytes ≠ [])
    (read : readLines bytes = lines.map .ok) : Utf8.encode (lines.flatMap Block.plainLine) = normalised bytes := by
  induction bytes using lines_induction generalizing lines with
  | last line whole =>
    rw [readLines, splitLines_of_not_mem whole, if_neg filled, List.map_singleton] at read
    obtain ⟨raw, rfl, here⟩ := List.map_eq_singleton_iff.mp read.symm
    rw [encode_lines_cons, encode_of_readLine here.symm, normalised_of_not_mem whole]
    rfl
  | ended line rest whole ih =>
    rw [readLines, splitLines_cons whole, List.map_cons] at read
    obtain ⟨raw, others, rfl, here, later⟩ := List.map_eq_cons_iff.mp read.symm
    rw [encode_lines_cons, encode_of_readLine here.symm]
    cases rest with
    | nil =>
      cases List.map_eq_nil_iff.mp later
      exact (normalised_ended whole).symm
    | cons byte more =>
      rw [normalised_cons whole (List.cons_ne_nil _ _), ih (List.cons_ne_nil _ _) later.symm]

/-- Taking returns away changes nothing where none stands before a line feed. -/
theorem withoutReturns_eq_self_iff_infix (bytes : Bytes) :
    withoutReturns bytes = bytes ↔ ¬ [carriageReturn, lineFeed] <:+: bytes := by
  induction bytes with
  | nil => simp [withoutReturns]
  | cons byte rest ih =>
    have pair : [carriageReturn, lineFeed] <+: byte :: rest ↔ byte = carriageReturn ∧ rest.head? = some lineFeed := by
      cases rest <;> simp [List.cons_prefix_cons, eq_comm]
    rw [List.infix_cons_iff, pair, withoutReturns]
    split
    next both =>
      have shorter := length_withoutReturns_le rest
      refine iff_of_false (fun same => ?_) (fun absent => absent (.inl both))
      rw [same, List.length_cons] at shorter
      omega
    next neither => simp [neither, ih]

/-- A file is left as it is if all its lines end in a line feed and nothing else. -/
theorem normalised_eq_self_iff (bytes : Bytes) :
    normalised bytes = bytes ↔ bytes.getLast? = some lineFeed ∧ ¬ [carriageReturn, lineFeed] <:+: bytes := by
  rw [← withoutReturns_eq_self_iff_infix, normalised]
  split
  next ended => simp [ended]
  next open_end =>
    refine iff_of_false (fun same => open_end ?_) (fun both => open_end both.1)
    rw [← same, List.getLast?_concat]

/-- A file without comment lines keeps all of its text when it is folded. Only the ends
of its lines change, and they do not if each of them is a line feed alone. -/
theorem foldFile_without_comments (host : MemoryHost) (below : host.disk.StagedBelow host.serial) (path : Path)
    (trailing : Trailing) {place : Place} {bytes : Bytes} {mode : Nat}
    (led : host.disk.resolve host.here path = .ok place)
    (standing : host.disk.entryAt? place = some (.file bytes mode))
    (plain : ∀ index raw, 3 ≤ index → (readLines bytes)[index]? = some (.ok raw) → Line.kind ⟨index, raw⟩ = .other) :
    let run := (foldFile path trailing : StateM MemoryHost _) host
    ∀ report, run.1.result = .ok report →
      report = ⟨path, (splitLines bytes).length, 0⟩ ∧
      (∃ location, host.disk.named? host.here path = some location ∧
        run.2.disk.find? location = some (.file (normalised bytes) (Disk.modeAfterWrite mode))) ∧
      run.2.disk.fetch run.2.here path = .ok ⟨.ok (normalised bytes), .ok (Disk.modeAfterWrite mode)⟩ ∧
      (normalised bytes = bytes ↔ bytes.getLast? = some lineFeed ∧ ¬ [carriageReturn, lineFeed] <:+: bytes) := by
  intro run report done
  obtain ⟨place', bytes', mode', document, location, led', standing', folded, able, rfl, after⟩ := foldFile_inv below done
  cases led.symm.trans led'
  cases standing.symm.trans standing'
  obtain ⟨lines, read, starts⟩ := Document.fold_ok_lines folded
  have other : ∀ line ∈ numbered 3 (lines.drop 3), line.kind = .other := by
    intro line member
    obtain ⟨offset, present⟩ := List.mem_iff_getElem?.mp (mem_numbered member)
    rw [List.getElem?_drop] at present
    refine plain (3 + offset) line.raw (Nat.le_add_right _ _) ?_
    rw [read, List.getElem?_map, present]
    rfl
  have filled : bytes ≠ [] := by
    rintro rfl
    have none : lines = [] := List.map_eq_nil_iff.mp read.symm
    have enough := Document.three_le_length starts
    simp [none] at enough
  rw [read, Document.fold_of_other path trailing starts other] at folded
  cases folded
  have written := encode_lines_of_readLines filled read
  simp only [written] at after
  have length : lines.length = (splitLines bytes).length := by simpa [readLines] using (congrArg List.length read).symm
  obtain ⟨_, final, led_final, standing_final⟩ :=
    able.insert led standing (normalised bytes) (Disk.modeAfterWrite mode)
  refine ⟨by rw [length], ⟨location, able.named, ?_⟩, ?_, normalised_eq_self_iff bytes⟩
  · rw [after, Disk.find?_insert, if_pos rfl]
  · rw [after]
    exact Disk.fetch_of_file led_final standing_final

private def returnsBytes : Bytes :=
  Utf8.encode ((Banner.required ++ ["x\r\r".toList]).flatMap Block.plainLine) ++ Utf8.encode "y\r".toList

private def returnsLines : List Text := Banner.required ++ ["x\r".toList, "y\r".toList]

private def returnsPath : Path := .ofText "a.js".toList

private def returnsAt : Location := ⟨[], .plain (Utf8.encode "a.js".toList)⟩

private def returnsHost : MemoryHost := .ofDisk ⟨[(returnsAt, .file returnsBytes 0o644)]⟩ []

private theorem returnsHost_below : returnsHost.disk.StagedBelow returnsHost.serial :=
  .of_isPlain (List.forall_mem_singleton.mpr rfl)

private theorem readLines_returnsBytes : readLines returnsBytes = returnsLines.map .ok := by
  have whole : ∀ raw ∈ ["x\r\r".toList], '\n' ∉ raw := by decide
  have rest : readLines (Utf8.encode "y\r".toList) = ["y\r".toList].map .ok := by decide +kernel
  have kept : ["x\r\r".toList].map withoutReturn = ["x\r".toList] := by decide
  rw [returnsBytes, readLines_required whole, rest, kept, ← List.map_append, List.append_assoc]
  rfl

private theorem returnsLines_other : ∀ raw ∈ returnsLines.drop 3, Line.kind ⟨0, raw⟩ = .other := by decide

private theorem readLines_returnsBytes_other (index : Nat) (raw : Text) (late : 3 ≤ index)
    (present : (readLines returnsBytes)[index]? = some (.ok raw)) : Line.kind ⟨index, raw⟩ = .other := by
  rw [readLines_returnsBytes, List.getElem?_map] at present
  obtain ⟨same, found, equal⟩ := Option.map_eq_some_iff.mp present
  cases equal
  refine returnsLines_other raw (List.mem_of_getElem? (i := index - 3) ?_)
  rw [List.getElem?_drop, Nat.add_sub_cancel' late, found]

private theorem returnsHost_replaceable :
    returnsHost.disk.Replaceable returnsHost.here returnsPath returnsAt ∧
      returnsHost.disk.find? returnsAt = some (.file returnsBytes 0o644) := by
  have found : returnsHost.disk.find? returnsAt = some (.file returnsBytes 0o644) := rfl
  exact ⟨⟨rfl, rfl, ⟨[], rfl⟩, rfl, rfl, rfl, by simp [found]⟩, found⟩

/-- Of two carriage returns before a line feed one stays, and so does the one that was last. -/
theorem foldFile_without_comments_keeps_return :
    returnsHost.disk.StagedBelow returnsHost.serial ∧
      ∃ place, returnsHost.disk.resolve returnsHost.here returnsPath = .ok place ∧
        returnsHost.disk.entryAt? place = some (.file returnsBytes 0o644) ∧
        (∀ index raw, 3 ≤ index → (readLines returnsBytes)[index]? = some (.ok raw) →
          Line.kind ⟨index, raw⟩ = .other) ∧
        ((foldFile returnsPath .close : StateM MemoryHost _) returnsHost).1.result = .ok ⟨returnsPath, 5, 0⟩ ∧
        (∃ location, ((foldFile returnsPath .close : StateM MemoryHost _) returnsHost).2.disk.find? location =
          some (.file (Utf8.encode ((Banner.required ++ ["x\r".toList, "y\r".toList]).flatMap Block.plainLine)) 0o644)) ∧
        normalised returnsBytes ≠ returnsBytes := by
  obtain ⟨able, found⟩ := returnsHost_replaceable
  obtain ⟨place, led, standing⟩ := able.resolve_file found
  have other : ∀ line ∈ numbered 3 (returnsLines.drop 3), line.kind = .other :=
    fun line member => returnsLines_other line.raw (mem_numbered member)
  have folded := Document.fold_of_other returnsPath .close (Document.required_starts ["x\r".toList, "y\r".toList]) other
  rw [← returnsLines, ← readLines_returnsBytes] at folded
  obtain ⟨done, _⟩ := foldFile_of_replaceable returnsHost_below led standing folded able
  obtain ⟨_, ⟨location, _, left⟩, _, same⟩ := foldFile_without_comments returnsHost returnsHost_below returnsPath .close
    led standing readLines_returnsBytes_other _ done
  have text : normalised returnsBytes =
      Utf8.encode ((Banner.required ++ ["x\r".toList, "y\r".toList]).flatMap Block.plainLine) := by decide +kernel
  rw [text] at left
  refine ⟨returnsHost_below, place, led, standing, readLines_returnsBytes_other, done, ⟨location, left⟩, fun kept => ?_⟩
  exact absurd (same.mp kept).1 (by decide +kernel)

end CommentFold
