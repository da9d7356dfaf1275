import CommentFold.Log.Filter
import Mathlib.Data.List.Basic

/-! Where the reader of log filters breaks off. It finds the places of the parts of a
directive in the text without the blanks around it, and cuts them out of the text with
them. It answers if the one text can be cut at every place of the other. -/

namespace CommentFold

namespace Utf8

/-- No character lies across a place in the bytes of a text. -/
def IsPlace (text : Text) (place : Nat) : Prop := ∃ start, start <+: text ∧ (encode start).length = place

variable {text : Text} {first last : Nat}

theorem rest?_of_isPlace (whole : IsPlace text first) : ∃ rest, rest? text first = some rest := by
  obtain ⟨start, ⟨rest, joined⟩, sized⟩ := whole
  exact ⟨rest, rest?_eq_some_iff.mpr ⟨start, joined, sized⟩⟩

theorem between?_of_isPlace (begins : IsPlace text first) (ends : IsPlace text last) (order : first ≤ last) :
    ∃ part, between? text first last = some part := by
  obtain ⟨before, inside, short⟩ := begins
  obtain ⟨upTo, within, long⟩ := ends
  rcases List.prefix_or_prefix_of_prefix inside within with ⟨part, rfl⟩ | ⟨more, rfl⟩
  · exact ⟨part, between?_eq_some_iff.mpr ⟨before, within, short, long⟩⟩
  · -- The second place is not before the first, so nothing lies between them.
    have none : (encode more).length = 0 := by
      rw [encode, List.flatMap_append, List.length_append, ← encode, ← encode] at short
      omega
    have empty : more = [] := by
      by_cases written : more = []
      · exact written
      · exact absurd (List.length_eq_zero_iff.mp none) (encode_ne_nil written)
    subst empty
    rw [List.append_nil] at short inside
    refine ⟨[], between?_eq_some_iff.mpr ⟨upTo, ?_, short, ?_⟩⟩
    · rwa [List.append_nil]
    · rwa [List.append_nil]

theorem length_encode_of_narrow (narrow : ∀ c ∈ text, c.utf8Size = 1) : (encode text).length = text.length := by
  induction text with
  | nil => rfl
  | cons c rest ih =>
    obtain ⟨here, later⟩ := List.forall_mem_cons.mp narrow
    rw [length_encode_cons, here, ih later, List.length_cons, Nat.add_comm]

end Utf8

namespace Log

open Utf8 (IsPlace)

/-- A text can be cut at a place, and at every later place of what else stands there. -/
def CutsAlong (text : Text) (place : Nat) (rest : Text) : Prop :=
  ∀ before, before <+: rest → IsPlace text (place + (Utf8.encode before).length)

namespace CutsAlong

variable {text rest : Text} {place : Nat}

theorem isPlace (cuts : CutsAlong text place rest) : IsPlace text place := by
  simpa [Utf8.encode] using cuts [] List.nil_prefix

theorem tail {c : Char} (cuts : CutsAlong text place (c :: rest)) : CutsAlong text (place + c.utf8Size) rest := by
  intro before within
  have longer := cuts (c :: before) (List.cons_prefix_cons.mpr ⟨rfl, within⟩)
  rwa [Utf8.length_encode_cons, ← Nat.add_assoc] at longer

/-- What is found lies at such a place, and so does what follows it. -/
theorem find (cuts : CutsAlong text place rest) (stops : List Char) :
    (Placed.ofText place rest).find stops = [] ∨
      ∃ last c later, (Placed.ofText place rest).find stops = (last, c) :: Placed.ofText (last + c.utf8Size) later ∧
        c ∈ stops ∧ place ≤ last ∧ IsPlace text last ∧ CutsAlong text (last + c.utf8Size) later := by
  induction rest generalizing place with
  | nil => exact .inl rfl
  | cons c rest ih =>
    by_cases found : c ∈ stops
    · refine .inr ⟨place, c, rest, ?_, found, Nat.le_refl _, cuts.isPlace, cuts.tail⟩
      simp [Placed.find, Placed.ofText, found]
    · have passed : (Placed.ofText place (c :: rest)).find stops =
          (Placed.ofText (place + c.utf8Size) rest).find stops := by
        simp [Placed.find, Placed.ofText, found]
      rw [passed]
      rcases ih cuts.tail with none | ⟨last, d, later, left, stop, order, whole, on⟩
      · exact .inl none
      · exact .inr ⟨last, d, later, left, stop, by omega, whole, on⟩

/-- Without blanks in front the places are the same with and without blanks around. -/
theorem of_solid (solid : ∀ c, text.head? = some c → isBlank c = false) : CutsAlong text 0 (trim text) := by
  have unindented : dropLeadingBlanks text = text := by
    cases text with
    | nil => rfl
    | cons c rest => simp [dropLeadingBlanks, solid c rfl]
  have within : trim text <+: text := by
    rw [trim, unindented]
    exact ⟨trailingBlanks text, dropTrailingBlanks_append_trailingBlanks text⟩
  intro before inside
  exact ⟨before, inside.trans within, (Nat.zero_add _).symm⟩

/-- A text of characters that take a byte each can be cut anywhere. -/
theorem of_narrow (narrow : ∀ c ∈ text, c.utf8Size = 1) : CutsAlong text 0 (trim text) := by
  have ends : leadingBlanks text ++ (trim text ++ trailingBlanks (dropLeadingBlanks text)) = text := by
    rw [trim, dropTrailingBlanks_append_trailingBlanks, leadingBlanks_append_dropLeadingBlanks]
  intro before ⟨rest, whole⟩
  rw [← whole] at ends
  have inside : ∀ c ∈ before, c.utf8Size = 1 := by
    intro c member
    refine narrow c ?_
    rw [← ends]
    simp [member]
  have long : before.length ≤ text.length := by
    rw [← ends]
    simp only [List.length_append]
    omega
  refine ⟨text.take before.length, List.take_prefix _ _, ?_⟩
  rw [Utf8.length_encode_of_narrow fun c member => narrow c (List.mem_of_mem_take member), List.length_take,
    Utf8.length_encode_of_narrow inside, Nat.zero_add]
  omega

end CutsAlong

/-- A reader gave something good or refused; it did not break off. -/
def Answers {α : Type} (good : α → Prop) : Except Unread α → Prop
  | .ok value => good value
  | .error unread => unread ≠ .brokenOff

namespace Answers

variable {α β : Type} {good : α → Prop} {fine : β → Prop}

theorem bind {result : Except Unread α} {next : α → Except Unread β} (first : Answers good result)
    (later : ∀ value, good value → Answers fine (next value)) : Answers fine (result >>= next) := by
  cases result with
  | ok value => exact later value first
  | error unread => exact first

theorem refused (fault : FilterFault) : Answers good (.error (.refused fault)) := nofun

theorem mapM {f : α → Except Unread β} {items : List α} (each : ∀ item ∈ items, Answers fine (f item)) :
    Answers (fun _ => True) (items.mapM f) := by
  induction items with
  | nil => trivial
  | cons item rest ih =>
    obtain ⟨here, later⟩ := List.forall_mem_cons.mp each
    rw [List.mapM_cons]
    exact here.bind fun _ _ => (ih later).bind fun _ _ => trivial

theorem ne_brokenOff {result : Except Unread α} (answers : Answers good result) : result ≠ .error .brokenOff := by
  rintro rfl
  exact answers rfl

end Answers

theorem cutOut_answers {part? : Option Text} (there : ∃ part, part? = some part) :
    Answers (fun _ => True) (cutOut part?) := by
  obtain ⟨part, rfl⟩ := there
  trivial

section

variable {text rest : Text} {place : Nat}

/-- What is left is at a place where the text can be cut, and so on to its end. -/
def Goes (text : Text) (left : Placed) : Prop :=
  ∃ place rest, left = Placed.ofText place rest ∧ CutsAlong text place rest

theorem Condition.readField_answers (cuts : CutsAlong text place rest) :
    Answers (fun read => Goes text read.2) (readField text place (Placed.ofText place rest)) := by
  unfold readField
  rcases cuts.find ['\x7d'] with none | ⟨last, c, later, found, _, order, whole, on⟩
  · rw [none]
    exact .refused _
  · rw [found]
    refine (cutOut_answers (Utf8.between?_of_isPlace cuts.isPlace whole order)).bind fun written _ => ?_
    split
    · exact .refused _
    · have judged : Answers (fun _ => True) ((FieldTest.parse written).mapError Unread.refused) := by
        cases FieldTest.parse written with
        | ok field => trivial
        | error fault => exact .refused fault
      refine judged.bind fun field _ => ?_
      cases later with
      | nil => exact .refused _
      | cons d later =>
        simp only [Placed.ofText]
        split
        next left =>
          cases left
          exact ⟨_, later, rfl, on.tail⟩
        next => exact .refused _

theorem Condition.read_answers (cuts : CutsAlong text place rest) :
    Answers (fun read => Goes text read.2) (read text place (Placed.ofText place rest)) := by
  unfold read
  rcases cuts.find [']', '\x7b'] with none | ⟨last, c, later, found, stop, order, whole, on⟩
  · rw [none]
    exact .refused _
  · rw [found]
    refine (cutOut_answers (Utf8.between?_of_isPlace cuts.isPlace whole order)).bind fun name _ => ?_
    rcases List.mem_pair.mp stop with rfl | rfl
    · exact ⟨_, later, rfl, on⟩
    · exact (Condition.readField_answers on).bind fun _ goes => goes

theorem Directive.levelFrom_answers (whole : IsPlace text place) :
    Answers (fun _ => True) (levelFrom text place) := by
  refine (cutOut_answers (Utf8.rest?_of_isPlace whole)).bind fun written _ => ?_
  split
  · trivial
  · split
    · trivial
    · exact .refused _

theorem Directive.givenLevel_answers {left : Placed} (goes : Goes text left) :
    Answers (fun _ => True) (givenLevel text left) := by
  obtain ⟨place, rest, rfl, cuts⟩ := goes
  unfold givenLevel
  split
  · trivial
  next place' left same =>
    cases rest with
    | nil => cases same
    | cons c rest =>
      cases same
      exact levelFrom_answers cuts.tail.isPlace
  · exact .refused _

theorem Directive.parse_answers (cuts : CutsAlong text 0 (trim text)) : Answers (fun _ => True) (parse text) := by
  unfold parse
  split
  · exact .refused _
  · rcases cuts.find ['=', '['] with none | ⟨last, c, later, found, stop, order, whole, on⟩
    · rw [none]
      trivial
    · rw [found]
      refine (cutOut_answers (Utf8.between?_of_isPlace cuts.isPlace whole order)).bind fun target _ => ?_
      rcases List.mem_pair.mp stop with rfl | rfl
      · exact (levelFrom_answers on.isPlace).bind fun _ _ => trivial
      · exact (Condition.read_answers on).bind fun read goes => (givenLevel_answers goes).bind fun _ _ => trivial

/-- The reader of filters breaks off only at a directive that starts with a blank and has
a character of more than one byte. -/
theorem Filter.parse_ne_brokenOff
    (plain : ∀ directive ∈ text.splitOn ',',
      (∀ c, directive.head? = some c → isBlank c = false) ∨ ∀ c ∈ directive, c.utf8Size = 1) :
    Filter.parse text ≠ .error .brokenOff := by
  have each : ∀ directive ∈ (text.splitOn ',').filter (· ≠ []),
      Answers (fun _ => True) (Directive.parse directive) := by
    intro directive member
    apply Directive.parse_answers
    rcases plain directive (List.mem_filter.mp member).1 with solid | narrow
    · exact .of_solid solid
    · exact .of_narrow narrow
  exact Answers.ne_brokenOff (Answers.mapM each)

/-- There the blank moves the end of the target into the character. -/
example : Filter.parse " é[span]".toList = .error .brokenOff := rfl

end

end Log

end CommentFold
