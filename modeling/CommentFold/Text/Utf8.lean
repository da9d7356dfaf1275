/-! Text and bytes. Text is a list of characters and the contents of a file a list
of bytes, so that the laws of lists are the laws of what folding does to them.
UTF-8 leads from one to the other: reading a file refuses bytes that encode no
text; showing a name replaces them. -/

namespace CommentFold

abbrev Text := List Char

abbrev Bytes := List UInt8

namespace Utf8

def encode (text : Text) : Bytes := text.flatMap String.utf8EncodeChar

/-- The text that the bytes encode, if they encode one. -/
def decode? (bytes : Bytes) : Option Text :=
  (String.fromUTF8? bytes.toByteArray).map String.toList

theorem toByteArray_encode (text : Text) : (encode text).toByteArray = (String.ofList text).toByteArray := by
  rw [String.toByteArray_ofList]
  rfl

/-- What was encoded is read back. -/
theorem decode?_encode (text : Text) : decode? (encode text) = some text := by
  have valid := (String.ofList text).isValidUTF8
  simp only [decode?, toByteArray_encode, String.fromUTF8?, valid, dif_pos, Option.map_some]
  exact congrArg some String.toList_ofList

/-- Bytes that decode to a text are its encoding and no other form of it. -/
theorem encode_of_decode? {bytes : Bytes} {text : Text} (decoded : decode? bytes = some text) :
    encode text = bytes := by
  obtain ⟨whole, found, rfl⟩ := Option.map_eq_some_iff.mp decoded
  have same : whole.toByteArray = bytes.toByteArray := by
    unfold String.fromUTF8? at found
    split at found
    · cases found
      rfl
    · contradiction
  apply List.toByteArray_inj.mp
  rw [toByteArray_encode, String.ofList_toList, same]

theorem decode?_eq_some_iff {bytes : Bytes} {text : Text} :
    decode? bytes = some text ↔ bytes = encode text :=
  ⟨fun decoded => (encode_of_decode? decoded).symm, fun same => same ▸ decode?_encode text⟩

theorem encode_ne_nil {text : Text} (written : text ≠ []) : encode text ≠ [] := by
  intro empty
  have read := decode?_encode text
  rw [empty] at read
  exact written (Option.some.inj (read.symm.trans (decode?_encode [])))

/-! Places in the bytes of a text -/

/-- The start of a text that takes so many bytes. There is none if their number falls
within a character or behind the end. -/
def start? : Text → Nat → Option Text
  | _, 0 => some []
  | [], _ + 1 => none
  | c :: rest, size + 1 =>
    if c.utf8Size ≤ size + 1 then (start? rest (size + 1 - c.utf8Size)).map (c :: ·) else none

theorem length_encode_cons (c : Char) (rest : Text) :
    (encode (c :: rest)).length = c.utf8Size + (encode rest).length := by
  rw [encode, List.flatMap_cons, List.length_append, String.length_utf8EncodeChar, ← encode]

private theorem cons_of_size {c : Char} {first rest : Text} {size : Nat} (within : first <+: c :: rest)
    (long : (encode first).length = size + 1) :
    ∃ more, c :: more = first ∧ more <+: rest ∧ c.utf8Size + (encode more).length = size + 1 := by
  cases first with
  | nil => cases long
  | cons d more =>
    obtain ⟨rfl, inside⟩ := List.cons_prefix_cons.mp within
    rw [length_encode_cons] at long
    exact ⟨more, rfl, inside, long⟩

theorem start?_eq_some_iff {text first : Text} {size : Nat} :
    start? text size = some first ↔ first <+: text ∧ (encode first).length = size := by
  induction text, size using start?.induct generalizing first with
  | case1 text =>
    rw [start?, Option.some.injEq]
    constructor
    · intro empty
      exact ⟨empty ▸ List.nil_prefix, empty ▸ rfl⟩
    · intro ⟨_, short⟩
      cases first with
      | nil => rfl
      | cons c rest => exact absurd (List.length_eq_zero_iff.mp short) (encode_ne_nil (List.cons_ne_nil c rest))
  | case2 size =>
    rw [start?, List.prefix_nil]
    constructor
    · exact nofun
    · intro ⟨empty, long⟩
      rw [empty] at long
      cases long
  | case3 c rest size fits ih =>
    rw [start?, if_pos fits, Option.map_eq_some_iff]
    constructor
    · intro ⟨more, found, same⟩
      obtain ⟨within, long⟩ := ih.mp found
      rw [← same, List.cons_prefix_cons, length_encode_cons]
      exact ⟨⟨rfl, within⟩, by omega⟩
    · intro ⟨within, long⟩
      obtain ⟨more, same, inside, sizes⟩ := cons_of_size within long
      exact ⟨more, ih.mpr ⟨inside, by omega⟩, same⟩
  | case4 c rest size short =>
    rw [start?, if_neg short]
    constructor
    · exact nofun
    · intro ⟨within, long⟩
      obtain ⟨more, _, _, sizes⟩ := cons_of_size within long
      omega

/-- The text behind so many bytes. -/
def rest? (text : Text) (size : Nat) : Option Text := (start? text size).map fun start => text.drop start.length

/-- The text between two places in its bytes. There is none if they are the wrong way round. -/
def between? (text : Text) (first last : Nat) : Option Text := (start? text last).bind (rest? · first)

theorem rest?_eq_some_iff {text rest : Text} {size : Nat} :
    rest? text size = some rest ↔ ∃ start, start ++ rest = text ∧ (encode start).length = size := by
  rw [rest?, Option.map_eq_some_iff]
  constructor
  · intro ⟨start, found, left⟩
    obtain ⟨⟨more, rfl⟩, sized⟩ := start?_eq_some_iff.mp found
    rw [List.drop_left] at left
    exact ⟨start, left ▸ rfl, sized⟩
  · intro ⟨start, whole, sized⟩
    refine ⟨start, start?_eq_some_iff.mpr ⟨⟨rest, whole⟩, sized⟩, ?_⟩
    rw [← whole, List.drop_left]

theorem between?_eq_some_iff {text part : Text} {first last : Nat} :
    between? text first last = some part ↔
      ∃ before, before ++ part <+: text ∧ (encode before).length = first ∧ (encode (before ++ part)).length = last := by
  rw [between?, Option.bind_eq_some_iff]
  constructor
  · intro ⟨within, found, left⟩
    obtain ⟨inside, sized⟩ := start?_eq_some_iff.mp found
    obtain ⟨before, rfl, short⟩ := rest?_eq_some_iff.mp left
    exact ⟨before, inside, short, sized⟩
  · intro ⟨before, inside, short, sized⟩
    exact ⟨_, start?_eq_some_iff.mpr ⟨inside, sized⟩, rest?_eq_some_iff.mpr ⟨before, rfl, short⟩⟩

/-! Bytes that need not encode a text -/

/-- What a leading byte promises: the range of the byte after it and the number
of bytes to come. The narrower ranges keep out overlong forms, surrogates and
what lies beyond the last code point. -/
structure Lead where
  low : UInt8
  high : UInt8
  remaining : Nat

def lead? (byte : UInt8) : Option Lead :=
  if byte < 0x80 then some ⟨0x80, 0xBF, 0⟩
  else if byte < 0xC2 then none
  else if byte < 0xE0 then some ⟨0x80, 0xBF, 1⟩
  else if byte = 0xE0 then some ⟨0xA0, 0xBF, 2⟩
  else if byte = 0xED then some ⟨0x80, 0x9F, 2⟩
  else if byte < 0xF0 then some ⟨0x80, 0xBF, 2⟩
  else if byte = 0xF0 then some ⟨0x90, 0xBF, 3⟩
  else if byte < 0xF4 then some ⟨0x80, 0xBF, 3⟩
  else if byte = 0xF4 then some ⟨0x80, 0x8F, 3⟩
  else none

/-- How many of the bytes continue a sequence, at most as many as it lacks. -/
def continuation : Lead → Bytes → Nat
  | ⟨_, _, 0⟩, _ => 0
  | ⟨_, _, _ + 1⟩, [] => 0
  | ⟨low, high, remaining + 1⟩, byte :: rest =>
    if low ≤ byte && byte ≤ high then continuation ⟨0x80, 0xBF, remaining⟩ rest + 1 else 0

/-- The length of the sequence that the bytes start with, complete or cut short
by the first byte that cannot belong to it. -/
def sequenceLength (first : UInt8) (rest : Bytes) : Nat :=
  match lead? first with
  | none => 1
  | some lead => continuation lead rest + 1

/-- The text of the bytes, with U+FFFD for each longest stretch that starts a
sequence and does not end it, and for each byte that can start none. -/
def decodeLossy : Bytes → Text
  | [] => []
  | first :: rest =>
    let taken := sequenceLength first rest
    (decode? (first :: rest.take (taken - 1))).getD ['\uFFFD'] ++ decodeLossy (rest.drop (taken - 1))
termination_by bytes => bytes.length
decreasing_by simp only [List.length_drop, List.length_cons]; omega

end Utf8

end CommentFold
