import CommentFold.Proofs.LineEndings
import CommentFold.Proofs.Processing

/-! Well-formed command lines. Flags and paths may stand in any order, and the value of
a flag is part of its word or the word after it. All ways to write the same paths with
or without the flag that closes the last block are read as the same work, whatever
they say about the log. -/

namespace CommentFold.CommandLine

namespace Word

theorem ofArgument_plain {bytes : Bytes} (spelled : bytes = [dash] ∨ bytes.head? ≠ some dash) :
    ofArgument bytes = .plain bytes := by
  rcases spelled with rfl | undashed
  · rfl
  · cases bytes with
    | nil => rfl
    | cons first rest =>
      have other : first ≠ dash := by simpa using undashed
      match rest with
      | [] => rfl
      | [second] => simp only [ofArgument, if_neg other]
      | second :: third :: rest => simp only [ofArgument, if_neg other]

private theorem ofArgument_dashes (first : UInt8) (rest : Bytes) :
    ofArgument (dash :: dash :: first :: rest) = ofLong (first :: rest) := rfl

/-- A name of a flag, with or without a value. -/
theorem ofArgument_long {name : Bytes} (filled : name ≠ []) (whole : equalsSign ∉ name) (rest : Bytes)
    (ended : rest = [] ∨ rest.head? = some equalsSign) :
    ofArgument (dash :: dash :: name ++ rest) = .long name rest.tail? := by
  obtain ⟨first, letters, rfl⟩ := List.exists_cons_of_ne_nil filled
  have all : ∀ byte ∈ first :: letters, decide (byte ≠ equalsSign) = true :=
    fun byte member => decide_eq_true fun same => whole (same ▸ member)
  have split := ofArgument_dashes first (letters ++ rest)
  rw [← List.cons_append] at split
  rw [List.cons_append, List.cons_append, split, ofLong, List.takeWhile_append_of_pos all,
    List.dropWhile_append_of_pos all]
  rcases ended with rfl | next
  · simp
  · obtain ⟨value, rfl⟩ := List.head?_eq_some_iff.mp next
    simp

end Word

namespace Flag

/-- The flag as a word. -/
def word (flag : Flag) : Bytes := dash :: dash :: Utf8.encode flag.name

theorem ofName?_name (flag : Flag) : ofName? (Utf8.encode flag.name) = some flag := by
  cases flag <;> rfl

private theorem name_plain (flag : Flag) : Utf8.encode flag.name ≠ [] ∧ equalsSign ∉ Utf8.encode flag.name := by
  cases flag <;> decide

theorem ofArgument_word (flag : Flag) : Word.ofArgument flag.word = .long (Utf8.encode flag.name) none := by
  simpa [word] using Word.ofArgument_long flag.name_plain.1 flag.name_plain.2 [] (.inl rfl)

theorem ofArgument_word_valued (flag : Flag) (value : Bytes) :
    Word.ofArgument (flag.word ++ equalsSign :: value) = .long (Utf8.encode flag.name) (some value) :=
  Word.ofArgument_long flag.name_plain.1 flag.name_plain.2 (equalsSign :: value) (.inr rfl)

end Flag

/-- How a flag is given its value. -/
inductive Spelling where
  | attached
  | separate
  deriving DecidableEq, Repr

/-- A part of a command line that can stand anywhere in it. -/
inductive Item where
  | closing
  | valued (flag : Flag) (spelling : Spelling) (value : Bytes)
  | path (bytes : Bytes)
  deriving DecidableEq, Repr

namespace Item

def words : Item → List Bytes
  | closing => [Flag.closeTrailingBlock.word]
  | valued flag .attached value => [flag.word ++ equalsSign :: value]
  | valued flag .separate value => [flag.word, value]
  | path bytes => [bytes]

/-- The flag takes the value in this spelling. -/
def Takes : Flag → Spelling → Bytes → Prop
  | .logFilter, spelling, value =>
    (match spelling with
      | .attached => value ≠ []
      | .separate => value.head? ≠ some dash) ∧
    ∃ text filter, Utf8.decode? value = some text ∧ Log.Filter.parse text = .ok filter
  | .logFormat, _, value =>
    ∃ text format, Utf8.decode? value = some text ∧ text.map Char.toLower = Log.Format.name format
  | _, _, _ => False

def Valid : Item → Prop
  | closing => True
  | valued flag spelling value => Takes flag spelling value
  | path bytes => bytes ≠ [] ∧ (bytes = [dash] ∨ bytes.head? ≠ some dash)

def flag? : Item → Option Flag
  | closing => some .closeTrailingBlock
  | valued flag _ _ => some flag
  | path _ => none

def path? : Item → Option Path
  | path bytes => some ⟨bytes⟩
  | _ => none

/-- What an item sets. -/
def adjust (settings : Settings) : Item → Settings
  | closing => { settings with closes := true }
  | valued .logFilter _ value => { settings with filter? := Utf8.decode? value }
  | valued .logFormat _ value => { settings with format? := (Utf8.decode? value).bind Log.Format.ofText? }
  | valued .. => settings
  | path bytes => { settings with paths := settings.paths ++ [⟨bytes⟩] }

theorem undashed_of_takes {flag : Flag} {value : Bytes} (takes : Takes flag .separate value) :
    value.head? ≠ some dash := by
  cases flag with
  | logFilter => exact takes.1
  | logFormat =>
    obtain ⟨text, format, decoded, named⟩ := takes
    intro first
    have inside : dash ∈ Utf8.encode text := by
      rw [← Utf8.decode?_eq_some_iff.mp decoded]
      exact List.mem_of_head? first
    obtain ⟨c, member, same⟩ := (Utf8.mem_encode_iff (by decide)).mp inside
    cases Char.toNat_inj.mp (show c.toNat = '-'.toNat from same)
    have lowered : '-' ∈ Log.Format.name format := named ▸ List.mem_map_of_mem (f := Char.toLower) member
    cases format <;> exact absurd lowered (by decide)
  | closeTrailingBlock | help | version => exact takes.elim

end Item

namespace Settings

/-- The flag was set. -/
def has (settings : Settings) : Flag → Bool
  | .closeTrailingBlock => settings.closes
  | .logFilter => settings.filter?.isSome
  | .logFormat => settings.format?.isSome
  | .help | .version => false

/-- An item sets its own flag. -/
theorem has_adjust (settings : Settings) {item : Item} {flag : Flag} (other : item.flag? ≠ some flag) :
    (item.adjust settings).has flag = settings.has flag := by
  cases item with
  | closing => cases flag <;> first | rfl | exact absurd rfl other
  | valued own spelling value => cases own <;> cases flag <;> first | rfl | exact absurd rfl other
  | path bytes => cases flag <;> rfl

end Settings

section

variable {settings settled : Settings} {pending : Pending}

theorem assign_of_takes {flag : Flag} {spelling : Spelling} {value : Bytes} (takes : Item.Takes flag spelling value)
    (free : settled.has flag = false) :
    flag.takesValue = true ∧ assign settled flag value = .ok (Item.adjust settled (.valued flag spelling value)) := by
  cases flag with
  | logFilter =>
    obtain ⟨_, text, filter, decoded, _⟩ := takes
    have unset : ¬settled.filter?.isSome = true := Bool.eq_false_iff.mp free
    refine ⟨rfl, ?_⟩
    simp only [assign, if_neg unset, decoded, Item.adjust]
  | logFormat =>
    obtain ⟨text, format, decoded, named⟩ := takes
    have unset : ¬settled.format?.isSome = true := Bool.eq_false_iff.mp free
    have known : Log.Format.ofText? text = some format := by
      unfold Log.Format.ofText?
      rw [named]
      cases format <;> decide
    refine ⟨rfl, ?_⟩
    simp only [assign, if_neg unset, decoded, known, Item.adjust, Option.bind_some]
  | closeTrailingBlock | help | version => exact takes.elim

theorem addPath_ok (waiting : settle settings pending = .ok settled) {bytes : Bytes} (filled : bytes ≠ []) :
    ∃ next left, addPath settings pending bytes = .ok (next, left) ∧
      settle next left = .ok (Item.adjust settled (.path bytes)) := by
  have alone : settle settled (.paths [bytes]) = .ok (Item.adjust settled (.path bytes)) :=
    if_neg (by simpa using filled.symm)
  cases pending with
  | paths values =>
    refine ⟨settings, .paths (values ++ [bytes]), rfl, ?_⟩
    simp only [settle] at waiting ⊢
    split at waiting
    · cases waiting
    next sound =>
      cases waiting
      rw [if_neg (by simpa [sound] using filled.symm)]
      simp [Item.adjust]
  | nothing | value flag value? =>
    refine ⟨settled, .paths [bytes], ?_, alone⟩
    simp only [addPath, waiting, bind, Except.bind]

theorem readPaths_ok (waiting : settle settings pending = .ok settled) {escaped : List Bytes} (filled : [] ∉ escaped) :
    readPaths settings pending escaped =
      .ok (.fold { settled with paths := settled.paths ++ escaped.map Path.mk }) := by
  induction escaped generalizing settings pending settled with
  | nil => simp [readPaths, waiting, bind, Except.bind]
  | cons bytes rest ih =>
    simp only [List.mem_cons, not_or] at filled
    obtain ⟨next, left, added, waits⟩ := addPath_ok waiting (Ne.symm filled.1)
    simp only [readPaths, added, bind, Except.bind, ih waits filled.2]
    simp [Item.adjust]

/-- What is read after an item is read as if the item was settled before. -/
theorem readFrom_item (waiting : settle settings pending = .ok settled) {item : Item} (valid : item.Valid)
    (free : ∀ flag, item.flag? = some flag → settled.has flag = false) :
    ∃ next left, settle next left = .ok (item.adjust settled) ∧
      ∀ rest, readFrom settings pending (item.words ++ rest) = readFrom next left rest := by
  cases item with
  | closing =>
    refine ⟨_, .nothing, rfl, fun rest => ?_⟩
    have unset : ¬settled.closes = true := Bool.eq_false_iff.mp (free _ rfl)
    rw [Item.words, List.singleton_append, readFrom, Flag.ofArgument_word]
    simp only [Flag.ofName?_name, waiting, setClosing, if_neg unset, bind, Except.bind, Item.adjust]
  | valued flag spelling value =>
    obtain ⟨takesValue, assigned⟩ := assign_of_takes valid (free flag rfl)
    cases spelling with
    | attached =>
      refine ⟨_, .nothing, rfl, fun rest => ?_⟩
      rw [Item.words, List.singleton_append, readFrom, Flag.ofArgument_word_valued]
      simp only [Flag.ofName?_name, takesValue, if_true, waiting, assigned, bind, Except.bind]
    | separate =>
      refine ⟨settled, .value flag (some value), assigned, fun rest => ?_⟩
      have plain := Word.ofArgument_plain (.inr (Item.undashed_of_takes valid))
      have waits : readFrom settled (.value flag none) (value :: rest) =
          readFrom settled (.value flag (some value)) rest := by
        rw [readFrom, plain]
      rw [Item.words, List.cons_append, List.singleton_append, readFrom, Flag.ofArgument_word]
      simp only [Flag.ofName?_name, waiting, bind, Except.bind]
      cases flag with
      | logFilter | logFormat => exact waits
      | closeTrailingBlock | help | version => cases takesValue
  | path bytes =>
    obtain ⟨filled, spelled⟩ := valid
    obtain ⟨next, left, added, waits⟩ := addPath_ok waiting filled
    refine ⟨next, left, waits, fun rest => ?_⟩
    rw [Item.words, List.singleton_append, readFrom, Word.ofArgument_plain spelled]
    simp only [added, bind, Except.bind]
    split
    · cases waiting
    · rfl

/-- From one item to any number of them. -/
theorem readFrom_items (waiting : settle settings pending = .ok settled) {items : List Item}
    (valid : ∀ item ∈ items, item.Valid) (once : (items.filterMap Item.flag?).Nodup)
    (free : ∀ flag ∈ items.filterMap Item.flag?, settled.has flag = false) :
    ∃ next left, settle next left = .ok (items.foldl Item.adjust settled) ∧
      ∀ rest, readFrom settings pending (items.flatMap Item.words ++ rest) = readFrom next left rest := by
  induction items generalizing settings settled pending with
  | nil => exact ⟨settings, pending, waiting, fun _ => rfl⟩
  | cons item items ih =>
    obtain ⟨here, later⟩ := List.forall_mem_cons.mp valid
    obtain ⟨next, left, waits, reads⟩ := readFrom_item waiting here fun flag own =>
      free flag (List.mem_filterMap.mpr ⟨item, List.mem_cons_self, own⟩)
    have rest_once : (items.filterMap Item.flag?).Nodup := by
      rw [List.filterMap_cons] at once
      split at once
      · exact once
      · exact (List.nodup_cons.mp once).2
    have rest_free : ∀ flag ∈ items.filterMap Item.flag?, (item.adjust settled).has flag = false := by
      intro flag member
      rw [Settings.has_adjust settled]
      · obtain ⟨other, inside, own⟩ := List.mem_filterMap.mp member
        exact free flag (List.mem_filterMap.mpr ⟨other, List.mem_cons_of_mem _ inside, own⟩)
      · intro own
        rw [List.filterMap_cons, own] at once
        exact (List.nodup_cons.mp once).1 member
    obtain ⟨last, final, waits, ends⟩ := ih waits later rest_once rest_free
    refine ⟨last, final, waits, fun rest => ?_⟩
    rw [List.flatMap_cons, List.append_assoc, reads, ends]

end

/-- A well-formed command line: flags that are set once, and paths, of which some may
stand behind an escape. -/
structure Wording where
  items : List Item
  escaped? : Option (List Bytes)
  valid : ∀ item ∈ items, item.Valid
  once : (items.filterMap Item.flag?).Nodup
  written : ∀ paths, escaped? = some paths → [] ∉ paths

namespace Wording

variable (wording : Wording)

def arguments : List Bytes :=
  wording.items.flatMap Item.words ++
    match wording.escaped? with
    | some paths => [dash, dash] :: paths
    | none => []

/-- All its paths, in their order. -/
def paths : List Path := wording.items.filterMap Item.path? ++ (wording.escaped?.getD []).map Path.mk

def closes : Bool := .closing ∈ wording.items

def trailing : Trailing := if wording.closes then .close else .leave

/-- What its items set. -/
def settings : Settings := wording.items.foldl Item.adjust .initial

theorem readArguments_eq :
    readArguments wording.arguments =
      .ok (.fold { wording.settings with paths := wording.settings.paths ++ (wording.escaped?.getD []).map Path.mk }) := by
  have unset : ∀ flag ∈ wording.items.filterMap Item.flag?, Settings.initial.has flag = false := by
    intro flag _
    cases flag <;> rfl
  have started : settle .initial .nothing = .ok .initial := rfl
  obtain ⟨next, left, waits, reads⟩ := readFrom_items started wording.valid wording.once unset
  rw [readArguments, arguments, reads]
  cases escaped : wording.escaped? with
  | none =>
    rw [readFrom]
    exact readPaths_ok waits List.not_mem_nil
  | some paths =>
    rw [readFrom]
    exact readPaths_ok waits (wording.written paths escaped)

end Wording

/-! What the items set together -/

theorem paths_foldl_adjust (settings : Settings) (items : List Item) :
    (items.foldl Item.adjust settings).paths = settings.paths ++ items.filterMap Item.path? := by
  induction items generalizing settings with
  | nil => simp
  | cons item rest ih =>
    rw [List.foldl_cons, ih]
    cases item with
    | closing => rfl
    | valued flag spelling value => cases flag <;> rfl
    | path bytes => simp [Item.adjust, Item.path?]

theorem closes_foldl_adjust (settings : Settings) (items : List Item) :
    (items.foldl Item.adjust settings).closes = (settings.closes || decide (.closing ∈ items)) := by
  induction items generalizing settings with
  | nil => simp
  | cons item rest ih =>
    rw [List.foldl_cons, ih]
    cases item with
    | closing => simp [Item.adjust]
    | valued flag spelling value => cases flag <;> simp [Item.adjust]
    | path bytes => simp [Item.adjust]

/-- Valid items leave a filter that can be read. -/
theorem parse_foldl_adjust {settings : Settings} {items : List Item} (valid : ∀ item ∈ items, item.Valid)
    (parsed : ∃ filter, Log.Filter.parse settings.filter = .ok filter) :
    ∃ filter, Log.Filter.parse (items.foldl Item.adjust settings).filter = .ok filter := by
  induction items generalizing settings with
  | nil => exact parsed
  | cons item rest ih =>
    obtain ⟨here, later⟩ := List.forall_mem_cons.mp valid
    refine ih later ?_
    cases item with
    | closing => exact parsed
    | valued flag spelling value =>
      cases flag with
      | logFilter =>
        obtain ⟨_, text, filter, decoded, read⟩ := here
        exact ⟨filter, by simpa [Item.adjust, Settings.filter, decoded] using read⟩
      | logFormat | closeTrailingBlock | help | version => exact parsed
    | path bytes => exact parsed

namespace Wording

variable (wording : Wording)

/-- A well-formed command line starts the work on its paths. -/
theorem run_eq_process (host : MemoryHost) :
    let run := (run wording.arguments : StateM MemoryHost ExitStatus) host
    let ended := process wording.trailing wording.paths host
    run.1 = ended.1 ∧ run.2.unlogged = ended.2.unlogged := by
  have unset : Settings.initial.filter? = none := rfl
  obtain ⟨filter, parsed⟩ := parse_foldl_adjust wording.valid (parses_of_unset unset)
  have paths : wording.settings.paths ++ (wording.escaped?.getD []).map Path.mk = wording.paths := by
    rw [settings, paths_foldl_adjust]
    rfl
  have closing : wording.settings.closes = wording.closes := by
    rw [settings, closes_foldl_adjust]
    rfl
  have ran := run_of_settings wording.readArguments_eq parsed host
  simp only [Settings.trailing, paths, closing] at ran
  exact ran

end Wording

/-- Two well-formed command lines with the same paths that both close the last block or
both leave it end in the same status, on the same disk, with the same output and the
same complaints. These are what folding and confirming the paths in their order leads to. -/
theorem run_of_same_paths {first second : Wording} (paths : first.paths = second.paths)
    (closes : first.closes = second.closes) (host : MemoryHost) :
    let one := (run first.arguments : StateM MemoryHost ExitStatus) host
    let other := (run second.arguments : StateM MemoryHost ExitStatus) host
    let ended := process (if first.closes then .close else .leave) first.paths host
    (one.1 = other.1 ∧ one.2.disk = other.2.disk ∧ one.2.output = other.2.output ∧ one.2.errors = other.2.errors) ∧
      one.1 = ended.1 ∧ one.2.disk = ended.2.disk ∧ one.2.output = ended.2.output ∧ one.2.errors = ended.2.errors := by
  intro one other ended
  obtain ⟨status, left⟩ : one.1 = ended.1 ∧ one.2.unlogged = ended.2.unlogged := first.run_eq_process host
  obtain ⟨status', left'⟩ : other.1 = ended.1 ∧ other.2.unlogged = ended.2.unlogged := by
    have ran := second.run_eq_process host
    rw [Wording.trailing, ← closes, ← paths] at ran
    exact ran
  have same := left.trans left'.symm
  refine ⟨⟨status.trans status'.symm, ?_, ?_, ?_⟩, status, ?_, ?_, ?_⟩
  · exact congrArg (fun host => host.disk) same
  · exact congrArg (fun host => host.output) same
  · exact congrArg (fun host => host.errors) same
  · exact congrArg (fun host => host.disk) left
  · exact congrArg (fun host => host.output) left
  · exact congrArg (fun host => host.errors) left

private def wordedPath : Bytes := Utf8.encode "a.js".toList

/-- The path stands between flags. -/
private def flagsAround : Wording where
  items := [.valued .logFilter .separate (Utf8.encode "info".toList), .path wordedPath, .closing]
  escaped? := none
  valid := by
    obtain ⟨filter, parsed⟩ : ∃ filter, Log.Filter.parse "info".toList = .ok filter := parses_of_isOk rfl
    simp only [List.forall_mem_cons, List.not_mem_nil, false_implies, implies_true, and_true]
    refine ⟨⟨by decide, "info".toList, filter, Utf8.decode?_encode _, parsed⟩, ?_, trivial⟩
    exact ⟨by decide, .inr (by decide)⟩
  once := by decide
  written := nofun

/-- The path stands behind an escape. -/
private def flagsBefore : Wording where
  items := [.closing, .valued .logFormat .attached (Utf8.encode "JSON".toList)]
  escaped? := some [wordedPath]
  valid := by
    simp only [List.forall_mem_cons, List.not_mem_nil, false_implies, implies_true, and_true]
    exact ⟨trivial, "JSON".toList, .json, Utf8.decode?_encode _, by decide⟩
  once := by decide
  written := by
    rintro _ ⟨⟩
    decide

/-- A file, and an output that takes a part of the confirmation. -/
private def wordedHost : MemoryHost :=
  { MemoryHost.ofDisk ⟨[(⟨[], .plain wordedPath⟩, .file
      (Utf8.encode ((Banner.required ++ ["// c".toList]).flatMap Block.plainLine)) 0o644)]⟩ [] with
    output := .limited 5 .nothingTaken }

/-- Where the flags stand and what they say about the log makes no difference. -/
theorem run_flagsBefore :
    flagsAround.arguments ≠ flagsBefore.arguments ∧
      let one := (run flagsAround.arguments : StateM MemoryHost ExitStatus) wordedHost
      let other := (run flagsBefore.arguments : StateM MemoryHost ExitStatus) wordedHost
      one.1 = other.1 ∧ one.2.disk = other.2.disk ∧ one.2.output = other.2.output ∧ one.2.errors = other.2.errors := by
  have paths : flagsAround.paths = flagsBefore.paths := rfl
  have closes : flagsAround.closes = flagsBefore.closes := rfl
  exact ⟨by decide, (run_of_same_paths paths closes wordedHost).1⟩

end CommentFold.CommandLine
