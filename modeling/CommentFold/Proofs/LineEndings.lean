import CommentFold.Document

/-! Lines as they are written and read again. The bytes of line ends stand for
nothing else in UTF-8, so lines of text come back one for one, and what each of
them may lose is one carriage return at its end. -/

namespace CommentFold

namespace Utf8

theorem encode_append (first second : Text) : encode (first ++ second) = encode first ++ encode second :=
  List.flatMap_append

theorem encode_inj {first second : Text} : encode first = encode second ↔ first = second := by
  refine ⟨?_, congrArg encode⟩
  intro same
  have decoded := decode?_encode first
  rw [same, decode?_encode] at decoded
  exact (Option.some.inj decoded).symm

/-- A byte of ASCII is in the encoding of the character that it stands for and in no other. -/
private theorem mem_encodeChar_iff {byte : UInt8} (ascii : byte.toNat < 128) {c : Char} :
    byte ∈ String.utf8EncodeChar c ↔ c.toNat = byte.toNat := by
  -- In a longer encoding every byte has its highest bit set.
  change byte ∈ String.utf8EncodeChar c ↔ c.val.toNat = byte.toNat
  simp only [String.utf8EncodeChar]
  split
  · simp only [List.mem_singleton, ← UInt8.toNat_inj, UInt8.toNat_ofNat']
    omega
  · split
    · simp only [List.mem_cons, List.not_mem_nil, or_false, ← UInt8.toNat_inj, UInt8.toNat_ofNat']
      omega
    · split
      · simp only [List.mem_cons, List.not_mem_nil, or_false, ← UInt8.toNat_inj, UInt8.toNat_ofNat']
        omega
      · simp only [List.mem_cons, List.not_mem_nil, or_false, ← UInt8.toNat_inj, UInt8.toNat_ofNat']
        omega

theorem mem_encode_iff {byte : UInt8} (ascii : byte.toNat < 128) {text : Text} :
    byte ∈ encode text ↔ ∃ c ∈ text, c.toNat = byte.toNat := by
  simp only [encode, List.mem_flatMap, mem_encodeChar_iff ascii]

theorem lineFeed_mem_encode_iff {text : Text} : lineFeed ∈ encode text ↔ '\n' ∈ text := by
  rw [mem_encode_iff (by decide)]
  constructor
  · intro ⟨c, member, same⟩
    exact (Char.toNat_inj.mp same : c = '\n') ▸ member
  · exact fun member => ⟨'\n', member, rfl⟩

end Utf8

/-- A line without the carriage return that it ends with, if it does. -/
def withoutReturn (raw : Text) : Text := if raw.getLast? = some '\r' then raw.dropLast else raw

theorem length_dropCarriageReturn_le (bytes : Bytes) : (dropCarriageReturn bytes).length ≤ bytes.length := by
  unfold dropCarriageReturn
  split
  · rw [List.length_dropLast]
    exact Nat.sub_le _ _
  · exact Nat.le_refl _

theorem dropCarriageReturn_encode (raw : Text) :
    dropCarriageReturn (Utf8.encode raw) = Utf8.encode (withoutReturn raw) := by
  rcases List.eq_nil_or_concat raw with rfl | ⟨before, c, rfl⟩
  · rfl
  rw [List.concat_eq_append, Utf8.encode_append]
  by_cases ending : c = '\r'
  · subst c
    have byte : Utf8.encode ['\r'] = [carriageReturn] := by decide
    simp [dropCarriageReturn, withoutReturn, byte]
  · have last : (Utf8.encode before ++ Utf8.encode [c]).getLast? ≠ some carriageReturn := by
      intro found
      rw [List.getLast?_append, Option.or_eq_some_iff] at found
      rcases found with found | ⟨empty, _⟩
      · obtain ⟨other, inside, same⟩ := (Utf8.mem_encode_iff (by decide)).mp (List.mem_of_getLast? found)
        rw [List.mem_singleton.mp inside] at same
        exact ending (Char.toNat_inj.mp same : c = '\r')
      · exact Utf8.encode_ne_nil (List.cons_ne_nil c []) (List.getLast?_eq_none_iff.mp empty)
    have kept : withoutReturn (before ++ [c]) = before ++ [c] := if_neg (by simpa using ending)
    rw [dropCarriageReturn, if_neg last, kept, Utf8.encode_append]

theorem withoutReturn_eq_self_iff {raw : Text} : withoutReturn raw = raw ↔ raw.getLast? ≠ some '\r' := by
  unfold withoutReturn
  split
  next ending =>
    simp only [ending, ne_eq, not_true_eq_false, iff_false]
    intro same
    have size := congrArg List.length same
    have filled := List.length_pos_of_mem (List.mem_of_getLast? ending)
    rw [List.length_dropLast] at size
    omega
  next other => simp [other]

/-! Splitting -/

/-- Bytes are a piece without the separator, or such a piece, a separator and more bytes. -/
theorem pieces_induction (separator : UInt8) {motive : Bytes → Prop} (last : ∀ piece, separator ∉ piece → motive piece)
    (ended : ∀ piece rest, separator ∉ piece → motive rest → motive (piece ++ separator :: rest)) (bytes : Bytes) :
    motive bytes := by
  by_cases more : separator ∈ bytes
  · obtain ⟨piece, rest, rfl, whole⟩ := List.eq_append_cons_of_mem more
    exact ended piece rest whole (pieces_induction separator last ended rest)
  · exact last bytes more
termination_by bytes.length
decreasing_by
  rename_i same
  rw [same, List.length_append, List.length_cons]
  omega

theorem splitOn_cons {α : Type} [BEq α] [LawfulBEq α] {separator : α} {piece : List α} (whole : separator ∉ piece)
    (rest : List α) : (piece ++ separator :: rest).splitOn separator = piece :: rest.splitOn separator := by
  rw [List.splitOn_append_cons_self, List.splitOn_eq_singleton whole, List.singleton_append]

theorem not_mem_of_mem_splitOn {separator : UInt8} {bytes piece : Bytes} (member : piece ∈ bytes.splitOn separator) :
    separator ∉ piece := by
  induction bytes using pieces_induction separator with
  | last line whole =>
    rw [List.splitOn_eq_singleton whole] at member
    rwa [List.mem_singleton.mp member]
  | ended first rest whole ih =>
    rw [splitOn_cons whole] at member
    rcases List.mem_cons.mp member with rfl | later
    · exact whole
    · exact ih later

theorem subset_of_mem_splitOn {separator : UInt8} {bytes piece : Bytes} (member : piece ∈ bytes.splitOn separator) :
    piece ⊆ bytes := by
  induction bytes using pieces_induction separator with
  | last line whole =>
    rw [List.splitOn_eq_singleton whole] at member
    rw [List.mem_singleton.mp member]
    exact List.Subset.refl line
  | ended first rest whole ih =>
    rw [splitOn_cons whole] at member
    rcases List.mem_cons.mp member with rfl | later
    · exact List.subset_append_left _ _
    · exact List.Subset.trans (ih later) fun byte inside => by simp [inside]

/-- A file is a line without a line feed, or such a line, a line feed and another file. -/
theorem lines_induction {motive : Bytes → Prop} (last : ∀ line, lineFeed ∉ line → motive line)
    (ended : ∀ line rest, lineFeed ∉ line → motive rest → motive (line ++ lineFeed :: rest)) (bytes : Bytes) :
    motive bytes :=
  pieces_induction lineFeed last ended bytes

theorem splitLines_of_not_mem {line : Bytes} (whole : lineFeed ∉ line) :
    splitLines line = if line = [] then [] else [line] := by
  simp only [splitLines, List.splitOn_eq_singleton whole]
  split <;> simp_all

theorem splitLines_cons {line : Bytes} (whole : lineFeed ∉ line) (rest : Bytes) :
    splitLines (line ++ lineFeed :: rest) = dropCarriageReturn line :: splitLines rest := by
  obtain ⟨first, others, cut⟩ := List.exists_cons_of_ne_nil (List.splitOn_ne_nil lineFeed rest)
  simp only [splitLines, splitOn_cons whole, cut, List.dropLast_cons_cons, List.getLast?_cons_cons, List.map_cons,
    List.cons_append]

theorem lineFeed_not_mem_of_mem_splitLines {bytes line : Bytes} (member : line ∈ splitLines bytes) :
    lineFeed ∉ line := by
  induction bytes using lines_induction with
  | last bytes whole =>
    rw [splitLines_of_not_mem whole] at member
    split at member
    · cases member
    · rwa [List.mem_singleton.mp member]
  | ended first rest whole ih =>
    rw [splitLines_cons whole] at member
    rcases List.mem_cons.mp member with same | later
    · rw [same]
      unfold dropCarriageReturn
      split
      · exact fun inside => whole ((List.dropLast_sublist _).subset inside)
      · exact whole
    · exact ih later

/-! Carriage returns before line feeds -/

/-- The bytes without each carriage return that a line feed follows. -/
def withoutReturns : Bytes → Bytes
  | [] => []
  | byte :: rest =>
    if byte = carriageReturn ∧ rest.head? = some lineFeed then withoutReturns rest
    else byte :: withoutReturns rest

theorem length_withoutReturns_le (bytes : Bytes) : (withoutReturns bytes).length ≤ bytes.length := by
  induction bytes with
  | nil => exact Nat.le_refl _
  | cons byte rest ih =>
    unfold withoutReturns
    split
    · exact Nat.le_succ_of_le ih
    · exact Nat.succ_le_succ ih

theorem withoutReturns_cons {line : Bytes} (whole : lineFeed ∉ line) (rest : Bytes) :
    withoutReturns (line ++ lineFeed :: rest) = dropCarriageReturn line ++ lineFeed :: withoutReturns rest := by
  induction line with
  | nil => simp [withoutReturns, dropCarriageReturn, carriageReturn, lineFeed]
  | cons byte line ih =>
    have later := ih fun member => whole (List.mem_cons_of_mem _ member)
    cases line with
    | nil =>
      by_cases ending : byte = carriageReturn
      · simpa [withoutReturns, dropCarriageReturn, ending] using later
      · simpa [withoutReturns, dropCarriageReturn, ending] using later
    | cons next line =>
      have apart : next ≠ lineFeed := fun same => whole (by simp [same])
      rw [List.cons_append, withoutReturns, if_neg (by simp [apart]), later]
      unfold dropCarriageReturn
      rw [List.getLast?_cons_cons]
      split <;> simp

/-! Texts that are lines, each with a line feed -/

theorem encode_lines_cons (raw : Text) (rest : List Text) :
    Utf8.encode ((raw :: rest).flatMap Block.plainLine) =
      Utf8.encode raw ++ lineFeed :: Utf8.encode (rest.flatMap Block.plainLine) := by
  rw [List.flatMap_cons, Utf8.encode_append, Block.plainLine, Utf8.encode_append, List.append_assoc]
  rfl

theorem count_encode_lines (raws : List Text) (whole : ∀ raw ∈ raws, '\n' ∉ raw) :
    (Utf8.encode (raws.flatMap Block.plainLine)).count lineFeed = raws.length := by
  induction raws with
  | nil => rfl
  | cons raw rest ih =>
    obtain ⟨here, later⟩ := List.forall_mem_cons.mp whole
    have none : (Utf8.encode raw).count lineFeed = 0 :=
      List.count_eq_zero.mpr (mt Utf8.lineFeed_mem_encode_iff.mp here)
    rw [encode_lines_cons, List.count_append, none, List.count_cons_self, ih later, List.length_cons, Nat.zero_add]

theorem readLines_encode_append (raws : List Text) (whole : ∀ raw ∈ raws, '\n' ∉ raw) (rest : Bytes) :
    readLines (Utf8.encode (raws.flatMap Block.plainLine) ++ rest) =
      (raws.map withoutReturn).map .ok ++ readLines rest := by
  induction raws with
  | nil => rfl
  | cons raw more ih =>
    obtain ⟨here, later⟩ := List.forall_mem_cons.mp whole
    have read : readLine (dropCarriageReturn (Utf8.encode raw)) = .ok (withoutReturn raw) := by
      rw [dropCarriageReturn_encode, readLine, Utf8.decode?_encode]
    rw [encode_lines_cons, List.append_assoc, List.cons_append, readLines,
      splitLines_cons (mt Utf8.lineFeed_mem_encode_iff.mp here), List.map_cons, read]
    exact congrArg _ (ih later)

theorem readLines_encode (raws : List Text) (whole : ∀ raw ∈ raws, '\n' ∉ raw) :
    readLines (Utf8.encode (raws.flatMap Block.plainLine)) = (raws.map withoutReturn).map .ok := by
  have read := readLines_encode_append raws whole []
  rwa [List.append_nil, show readLines [] = [] from rfl, List.append_nil] at read

/-! The banner is written as it is read -/

private theorem required_clean : ∀ raw ∈ Banner.required, '\n' ∉ raw ∧ raw.getLast? ≠ some '\r' := by decide +kernel

theorem required_whole {body : List Text} (whole : ∀ raw ∈ body, '\n' ∉ raw) :
    ∀ raw ∈ Banner.required ++ body, '\n' ∉ raw :=
  List.forall_mem_append.mpr ⟨fun raw member => (required_clean raw member).1, whole⟩

theorem map_withoutReturn_required (body : List Text) :
    (Banner.required ++ body).map withoutReturn = Banner.required ++ body.map withoutReturn := by
  have kept : Banner.required.map withoutReturn = Banner.required.map id :=
    List.map_congr_left fun raw member => withoutReturn_eq_self_iff.mpr (required_clean raw member).2
  rw [List.map_append, kept, List.map_id]

/-- The banner is read back as it stands. -/
theorem readLines_required {body : List Text} (whole : ∀ raw ∈ body, '\n' ∉ raw) (rest : Bytes) :
    readLines (Utf8.encode ((Banner.required ++ body).flatMap Block.plainLine) ++ rest) =
      (Banner.required ++ body.map withoutReturn).map .ok ++ readLines rest := by
  rw [readLines_encode_append _ (required_whole whole), map_withoutReturn_required]

theorem withoutReturns_encode (raws : List Text) (whole : ∀ raw ∈ raws, '\n' ∉ raw) :
    withoutReturns (Utf8.encode (raws.flatMap Block.plainLine)) =
      Utf8.encode ((raws.map withoutReturn).flatMap Block.plainLine) := by
  induction raws with
  | nil => rfl
  | cons raw rest ih =>
    obtain ⟨here, later⟩ := List.forall_mem_cons.mp whole
    rw [encode_lines_cons, withoutReturns_cons (mt Utf8.lineFeed_mem_encode_iff.mp here), ih later,
      List.map_cons, encode_lines_cons, dropCarriageReturn_encode]

theorem withoutReturns_eq_self_iff (raws : List Text) (whole : ∀ raw ∈ raws, '\n' ∉ raw) :
    withoutReturns (Utf8.encode (raws.flatMap Block.plainLine)) = Utf8.encode (raws.flatMap Block.plainLine) ↔
      ∀ raw ∈ raws, raw.getLast? ≠ some '\r' := by
  induction raws with
  | nil => simp [Utf8.encode, withoutReturns]
  | cons raw rest ih =>
    obtain ⟨here, later⟩ := List.forall_mem_cons.mp whole
    rw [encode_lines_cons, withoutReturns_cons (mt Utf8.lineFeed_mem_encode_iff.mp here), List.forall_mem_cons,
      ← ih later, ← withoutReturn_eq_self_iff, dropCarriageReturn_encode]
    constructor
    · intro same
      -- Neither part can grow, so both keep their length.
      have sizes := congrArg List.length same
      have first := length_dropCarriageReturn_le (Utf8.encode raw)
      have second := length_withoutReturns_le (Utf8.encode (rest.flatMap Block.plainLine))
      rw [dropCarriageReturn_encode] at first
      simp only [List.length_append, List.length_cons] at sizes
      obtain ⟨kept, others⟩ := List.append_inj same (by omega)
      exact ⟨Utf8.encode_inj.mp kept, (List.cons.inj others).2⟩
    · intro both
      rw [both.1, both.2]

/-! Lines as they are read -/

theorem readLine_eq_ok_iff {line : Bytes} {raw : Text} : readLine line = .ok raw ↔ Utf8.decode? line = some raw := by
  unfold readLine
  split <;> simp_all

theorem readLine_eq_error_iff {line : Bytes} {fault : Fault} :
    readLine line = .error fault ↔ Utf8.decode? line = none ∧ fault = .invalidText := by
  unfold readLine
  cases Utf8.decode? line <;> simp [eq_comm]

theorem encode_of_readLine {line : Bytes} {raw : Text} (read : readLine line = .ok raw) : Utf8.encode raw = line :=
  Utf8.encode_of_decode? (readLine_eq_ok_iff.mp read)

theorem lineFeed_not_mem_of_readLines {bytes : Bytes} {lines : List Text} (read : readLines bytes = lines.map .ok) :
    ∀ raw ∈ lines, '\n' ∉ raw := by
  intro raw member
  have item : (.ok raw : ReadLine) ∈ readLines bytes := read ▸ List.mem_map_of_mem member
  obtain ⟨line, inside, decoded⟩ := List.mem_map.mp item
  rw [← Utf8.lineFeed_mem_encode_iff, encode_of_readLine decoded]
  exact lineFeed_not_mem_of_mem_splitLines inside

end CommentFold
