import CommentFold.Document

/-! Which failure a pass reports. Items are judged one at a time and in order,
and the judgement of an item knows its index and nothing else. The pass reports
the first complaint there is; the end of the input is itself a complaint while
lines of the banner are missing. -/

namespace CommentFold

namespace Banner

/-- Whether a line starts with the text that is required at an index. -/
def Matches (index : Nat) (raw : Text) : Prop :=
  ∃ start, required[index]? = some start ∧ start <+: raw

theorem length_required : required.length = 3 := rfl

theorem accepts_iff_matches {index : Nat} (early : index < 3) {raw : Text} :
    accepts index raw = true ↔ Matches index raw := by
  rw [← length_required] at early
  simp [accepts, Matches, List.getElem?_eq_getElem early]

end Banner

namespace Document

/-- What is wrong at an index, given the item there. -/
def complaint? (path : Path) (index : Nat) : Option ReadLine → Option Failure
  | none => if index < Banner.required.length then some (.bannerMismatch path index) else none
  | some (.error fault) => some (.unreadable path (some index) fault)
  | some (.ok raw) => if Banner.accepts index raw then none else some (.bannerMismatch path index)

theorem complaint?_item_eq_none_iff {path : Path} {index : Nat} {item : ReadLine} :
    complaint? path index (some item) = none ↔ ∃ raw, item = .ok raw ∧ Banner.accepts index raw = true := by
  cases item <;> simp [complaint?]

theorem complaint?_eq_bannerMismatch_iff {path : Path} {index line : Nat} {found? : Option ReadLine} :
    complaint? path index found? = some (.bannerMismatch path line) ↔
      index = line ∧ index < 3 ∧
        (found? = none ∨ ∃ raw, found? = some (.ok raw) ∧ ¬ Banner.Matches index raw) := by
  match found? with
  | none =>
    by_cases early : index < 3 <;> simp [complaint?, Banner.length_required, early]
  | some (.error fault) => simp [complaint?]
  | some (.ok raw) =>
    by_cases early : index < 3
    · simp [complaint?, early, Banner.accepts_iff_matches early, and_comm]
    · simp [complaint?, early, Banner.accepts_of_length_le (Nat.not_lt.mp early) raw]

theorem complaint?_eq_unreadable_iff {path : Path} {index : Nat} {line? : Option Nat} {fault : Fault}
    {found? : Option ReadLine} :
    complaint? path index found? = some (.unreadable path line? fault) ↔
      line? = some index ∧ found? = some (.error fault) := by
  match found? with
  | none => simp [complaint?]
  | some (.error other) => simp [complaint?, eq_comm]
  | some (.ok raw) => simp [complaint?]

/-- A complaint names the path and the index at which it is made. -/
theorem complaint?_shape {path : Path} {index : Nat} {found? : Option ReadLine} {failure : Failure}
    (made : complaint? path index found? = some failure) :
    failure = .bannerMismatch path index ∨ ∃ fault, failure = .unreadable path (some index) fault := by
  match found? with
  | none => simp_all [complaint?]
  | some (.error fault) => exact .inr ⟨fault, (Option.some.inj made).symm⟩
  | some (.ok raw) => simp_all [complaint?]

/-- The first complaint about items, of which the first has the given index. -/
def firstComplaint? (path : Path) : Nat → List ReadLine → Option Failure
  | index, [] => complaint? path index none
  | index, item :: rest => (complaint? path index (some item)).or (firstComplaint? path (index + 1) rest)

theorem firstComplaint?_eq_some_iff {path : Path} {index : Nat} {items : List ReadLine} {failure : Failure} :
    firstComplaint? path index items = some failure ↔
      ∃ offset, complaint? path (index + offset) items[offset]? = some failure ∧
        ∀ earlier < offset, ∃ item, items[earlier]? = some item ∧
          complaint? path (index + earlier) (some item) = none := by
  induction items generalizing index with
  | nil =>
    constructor
    · intro found
      exact ⟨0, found, fun earlier before => absurd before (Nat.not_lt_zero _)⟩
    · intro ⟨offset, found, passed⟩
      cases offset with
      | zero => exact found
      | succ offset =>
        obtain ⟨item, present, _⟩ := passed 0 (Nat.zero_lt_succ _)
        simp at present
  | cons item rest ih =>
    cases here : complaint? path index (some item) with
    | some first =>
      simp only [firstComplaint?, here, Option.some_or, Option.some.injEq]
      constructor
      · intro same
        subst first
        exact ⟨0, by simpa using here, fun earlier before => absurd before (Nat.not_lt_zero _)⟩
      · intro ⟨offset, found, passed⟩
        cases offset with
        | zero => simpa [here] using found
        | succ offset =>
          obtain ⟨other, present, quiet⟩ := passed 0 (Nat.zero_lt_succ _)
          cases Option.some.inj present
          simp [here] at quiet
    | none =>
      simp only [firstComplaint?, here, Option.none_or, ih]
      constructor
      · intro ⟨offset, found, passed⟩
        refine ⟨offset + 1, by simpa [Nat.add_right_comm, Nat.add_assoc] using found, ?_⟩
        intro earlier before
        cases earlier with
        | zero => exact ⟨item, rfl, here⟩
        | succ earlier => simpa [Nat.add_right_comm, Nat.add_assoc] using passed earlier (by omega)
      · intro ⟨offset, found, passed⟩
        cases offset with
        | zero => simp [here] at found
        | succ offset =>
          refine ⟨offset, by simpa [Nat.add_right_comm, Nat.add_assoc] using found, ?_⟩
          intro earlier before
          simpa [Nat.add_right_comm, Nat.add_assoc] using passed (earlier + 1) (by omega)

theorem firstComplaint?_eq_none_iff {path : Path} {index : Nat} {items : List ReadLine} :
    firstComplaint? path index items = none ↔
      Banner.required.length ≤ index + items.length ∧
        ∀ offset item, items[offset]? = some item → complaint? path (index + offset) (some item) = none := by
  induction items generalizing index with
  | nil => simp [firstComplaint?, complaint?]
  | cons item rest ih =>
    rw [firstComplaint?, Option.or_eq_none_iff, ih]
    constructor
    · intro ⟨here, enough, later⟩
      refine ⟨by rw [List.length_cons]; omega, ?_⟩
      intro offset other present
      cases offset with
      | zero => cases Option.some.inj present; exact here
      | succ offset => simpa [Nat.add_right_comm, Nat.add_assoc] using later offset other present
    · intro ⟨enough, quiet⟩
      refine ⟨quiet 0 item rfl, by rw [List.length_cons] at enough; omega, ?_⟩
      intro offset other present
      simpa [Nat.add_right_comm, Nat.add_assoc] using quiet (offset + 1) other present

theorem takeBanner_cons (path : Path) (index left : Nat) (raw : Text) (items : List ReadLine) :
    takeBanner path index (left + 1) (.ok raw :: items) =
      if Banner.accepts index raw then
        (takeBanner path (index + 1) left items).map fun (banner, body) => (raw :: banner, body)
      else .error (.bannerMismatch path index) := by
  rw [takeBanner, Banner.check]
  split
  · simp only [bind, Except.bind]
    cases takeBanner path (index + 1) left items <;> rfl
  · rfl

/-- Reading the banner splits off the lines that were asked for, if all may stand there. -/
theorem takeBanner_eq_ok_iff {path : Path} {index left : Nat} {items body : List ReadLine} {banner : List Text} :
    takeBanner path index left items = .ok (banner, body) ↔
      items = banner.map .ok ++ body ∧ banner.length = left ∧
        ∀ offset raw, banner[offset]? = some raw → Banner.accepts (index + offset) raw = true := by
  induction left generalizing index items banner with
  | zero =>
    constructor
    · rintro ⟨⟩
      exact ⟨rfl, rfl, by simp⟩
    · rintro ⟨rfl, length, _⟩
      cases List.eq_nil_of_length_eq_zero length
      rfl
  | succ left ih =>
    constructor
    · intro taken
      match items with
      | [] | .error fault :: _ => cases taken
      | .ok raw :: items =>
        rw [takeBanner_cons] at taken
        split at taken
        case isFalse => cases taken
        case isTrue accepted =>
          cases rest : takeBanner path (index + 1) left items with
          | error failure =>
            rw [rest] at taken
            cases taken
          | ok parts =>
            rw [rest] at taken
            cases taken
            obtain ⟨rfl, length, later⟩ := ih.mp rest
            refine ⟨rfl, by rw [List.length_cons, length], ?_⟩
            intro offset other present
            cases offset with
            | zero =>
              cases Option.some.inj present
              exact accepted
            | succ offset => simpa [Nat.add_assoc, Nat.add_comm 1] using later offset other present
    · rintro ⟨rfl, length, accepted⟩
      obtain ⟨raw, rest, rfl⟩ := List.exists_cons_of_length_eq_add_one length
      have later : takeBanner path (index + 1) left (rest.map .ok ++ body) = .ok (rest, body) := by
        refine ih.mpr ⟨rfl, by simpa using length, ?_⟩
        intro offset other present
        simpa [Nat.add_assoc, Nat.add_comm 1] using accepted (offset + 1) other present
      have first : Banner.accepts index raw = true := accepted 0 raw rfl
      rw [List.map_cons, List.cons_append, takeBanner_cons, if_pos first, later]
      rfl

/-- Reading the banner ends with the first complaint, if it falls on the banner,
and otherwise splits off the lines that were asked for. -/
theorem takeBanner_cases (path : Path) {index left : Nat} (items : List ReadLine)
    (within : index + left = Banner.required.length) :
    (∃ failure, takeBanner path index left items = .error failure ∧
      firstComplaint? path index items = some failure) ∨
    ∃ banner body, takeBanner path index left items = .ok (banner, body) ∧
      items = banner.map .ok ++ body ∧ banner.length = left ∧
      firstComplaint? path index items = firstComplaint? path Banner.required.length body := by
  induction left generalizing index items with
  | zero =>
    subst within
    exact .inr ⟨[], items, rfl, rfl, rfl, rfl⟩
  | succ left ih =>
    have early : index < Banner.required.length := by omega
    match items with
    | [] => exact .inl ⟨_, rfl, by simp [firstComplaint?, complaint?, early]⟩
    | .error fault :: rest => exact .inl ⟨_, rfl, rfl⟩
    | .ok raw :: rest =>
      rw [takeBanner_cons]
      by_cases accepted : Banner.accepts index raw = true
      · have quiet : firstComplaint? path index (.ok raw :: rest) = firstComplaint? path (index + 1) rest := by
          simp [firstComplaint?, complaint?, accepted]
        have shifted : index + 1 + left = Banner.required.length := by omega
        rw [if_pos accepted, quiet]
        rcases ih rest shifted with ⟨failure, taken, first⟩ | ⟨banner, body, taken, whole, length, same⟩
        · exact .inl ⟨failure, by rw [taken]; rfl, first⟩
        · exact .inr ⟨raw :: banner, body, by rw [taken]; rfl, by rw [whole]; rfl, by rw [List.length_cons, length], same⟩
      · exact .inl ⟨_, if_neg accepted, by simp [firstComplaint?, complaint?, accepted]⟩

theorem foldBody_error_iff {path : Path} {trailing : Trailing} {writer : BlockWriter} {index : Nat}
    {items : List ReadLine} {failure : Failure} (late : Banner.required.length ≤ index) :
    (foldBody path trailing writer index items).result = .error failure ↔
      firstComplaint? path index items = some failure := by
  induction items generalizing writer index with
  | nil => simp [foldBody, firstComplaint?, complaint?, Nat.not_lt.mpr late]
  | cons item rest ih =>
    cases item with
    | error fault => simp [foldBody, firstComplaint?, complaint?]
    | ok raw =>
      have accepted := Banner.accepts_of_length_le late raw
      simpa [foldBody, firstComplaint?, complaint?, accepted] using ih (by omega)

/-- A pass fails exactly if there is a complaint, and with the first. -/
theorem fold_error_iff {path : Path} {trailing : Trailing} {items : List ReadLine} {failure : Failure} :
    (fold path trailing items).result = .error failure ↔ firstComplaint? path 0 items = some failure := by
  rcases takeBanner_cases path items (Nat.zero_add _) with ⟨first, taken, found⟩ | ⟨banner, body, taken, _, _, same⟩
  · simp [fold, taken, Outcome.failed, found]
  · rw [same]
    simpa [fold, taken] using foldBody_error_iff (Nat.le_refl _)

/-- The same failure, told by the index at which it arises: everything before is a
line that may stand there. -/
theorem fold_error_iff_at {path : Path} {trailing : Trailing} {items : List ReadLine} {failure : Failure} :
    (fold path trailing items).result = .error failure ↔
      ∃ index, complaint? path index items[index]? = some failure ∧
        ∀ earlier < index, ∃ raw, items[earlier]? = some (.ok raw) ∧ Banner.accepts earlier raw = true := by
  rw [fold_error_iff, firstComplaint?_eq_some_iff]
  simp only [Nat.zero_add, complaint?_item_eq_none_iff]
  constructor
  · intro ⟨index, made, passed⟩
    refine ⟨index, made, ?_⟩
    intro earlier before
    obtain ⟨item, present, raw, rfl, accepted⟩ := passed earlier before
    exact ⟨raw, present, accepted⟩
  · intro ⟨index, made, passed⟩
    refine ⟨index, made, ?_⟩
    intro earlier before
    obtain ⟨raw, present, accepted⟩ := passed earlier before
    exact ⟨_, present, raw, rfl, accepted⟩

theorem path_of_fold_error {path : Path} {trailing : Trailing} {items : List ReadLine} {failure : Failure}
    (failed : (fold path trailing items).result = .error failure) : failure.path = path := by
  obtain ⟨index, made, _⟩ := fold_error_iff_at.mp failed
  rcases complaint?_shape made with rfl | ⟨fault, rfl⟩
  · rfl
  · rfl

theorem fold_ok_iff {path : Path} {trailing : Trailing} {items : List ReadLine} :
    (∃ document, (fold path trailing items).result = .ok document) ↔ firstComplaint? path 0 items = none := by
  cases reached : (fold path trailing items).result with
  | error failure => simp [fold_error_iff.mp reached]
  | ok document =>
    have quiet : firstComplaint? path 0 items = none := by
      cases found : firstComplaint? path 0 items with
      | none => rfl
      | some failure =>
        have failed : (fold path trailing items).result = .error failure := fold_error_iff.mpr found
        rw [reached] at failed
        cases failed
    simp [quiet]

/-- What follows the item that a failure is about cannot change it. -/
theorem fold_error_of_take {path : Path} {trailing : Trailing} {items : List ReadLine} {failure : Failure}
    {index : Nat} (failed : (fold path trailing items).result = .error failure)
    (line : failure.line? = some index) (present : index < items.length) (others : List ReadLine) :
    (fold path trailing (items.take (index + 1) ++ others)).result = .error failure := by
  obtain ⟨place, made, passed⟩ := fold_error_iff_at.mp failed
  have same : place = index := by
    rcases complaint?_shape made with rfl | ⟨fault, rfl⟩ <;> exact Option.some.inj line
  subst place
  have kept : ∀ earlier ≤ index, (items.take (index + 1) ++ others)[earlier]? = items[earlier]? := by
    intro earlier before
    rw [List.getElem?_append_left (by rw [List.length_take]; omega), List.getElem?_take_of_lt (by omega)]
  refine fold_error_iff_at.mpr ⟨index, ?_, ?_⟩
  · rw [kept index (Nat.le_refl _)]
    exact made
  · intro earlier before
    rw [kept earlier (Nat.le_of_lt before)]
    exact passed earlier before

theorem fold_bannerMismatch_iff {path : Path} {trailing : Trailing} {items : List ReadLine} {index : Nat} :
    (fold path trailing items).result = .error (.bannerMismatch path index) ↔
      index < 3 ∧
      (∀ earlier < index, ∃ raw, items[earlier]? = some (.ok raw) ∧ Banner.Matches earlier raw) ∧
      (items[index]? = none ∨ ∃ raw, items[index]? = some (.ok raw) ∧ ¬ Banner.Matches index raw) := by
  rw [fold_error_iff_at]
  simp only [complaint?_eq_bannerMismatch_iff]
  constructor
  · intro ⟨place, ⟨same, early, wrong⟩, passed⟩
    subst place
    refine ⟨early, ?_, wrong⟩
    intro earlier before
    obtain ⟨raw, present, accepted⟩ := passed earlier before
    exact ⟨raw, present, (Banner.accepts_iff_matches (by omega)).mp accepted⟩
  · intro ⟨early, passed, wrong⟩
    refine ⟨index, ⟨rfl, early, wrong⟩, ?_⟩
    intro earlier before
    obtain ⟨raw, present, start⟩ := passed earlier before
    exact ⟨raw, present, (Banner.accepts_iff_matches (by omega)).mpr start⟩

theorem fold_unreadable_iff {path : Path} {trailing : Trailing} {items : List ReadLine} {index : Nat}
    {fault : Fault} :
    (fold path trailing items).result = .error (.unreadable path (some index) fault) ↔
      items[index]? = some (.error fault) ∧
      (∀ earlier < index, ∃ raw, items[earlier]? = some (.ok raw)) ∧
      ∀ earlier < min index 3, ∀ raw, items[earlier]? = some (.ok raw) → Banner.Matches earlier raw := by
  rw [fold_error_iff_at]
  simp only [complaint?_eq_unreadable_iff, Option.some.injEq]
  constructor
  · intro ⟨place, ⟨same, unread⟩, passed⟩
    subst place
    refine ⟨unread, ?_, ?_⟩
    · intro earlier before
      obtain ⟨raw, present, _⟩ := passed earlier before
      exact ⟨raw, present⟩
    · intro earlier before raw present
      obtain ⟨other, found, accepted⟩ := passed earlier (by omega)
      rw [present] at found
      cases found
      exact (Banner.accepts_iff_matches (by omega)).mp accepted
  · intro ⟨unread, read, starts⟩
    refine ⟨index, ⟨rfl, unread⟩, ?_⟩
    intro earlier before
    obtain ⟨raw, present⟩ := read earlier before
    refine ⟨raw, present, ?_⟩
    by_cases early : earlier < 3
    · exact (Banner.accepts_iff_matches early).mpr (starts earlier (by omega) raw present)
    · exact Banner.accepts_of_length_le (Nat.not_lt.mp early) raw

theorem fold_succeeds_iff {path : Path} {trailing : Trailing} {items : List ReadLine} :
    (∃ document, (fold path trailing items).result = .ok document) ↔
      3 ≤ items.length ∧ (∀ item ∈ items, ∃ raw, item = .ok raw) ∧
      ∀ index < 3, ∃ raw, items[index]? = some (.ok raw) ∧ Banner.Matches index raw := by
  rw [fold_ok_iff, firstComplaint?_eq_none_iff]
  simp only [Nat.zero_add, complaint?_item_eq_none_iff, Banner.length_required]
  constructor
  · intro ⟨enough, quiet⟩
    refine ⟨enough, ?_, ?_⟩
    · intro item member
      obtain ⟨index, present⟩ := List.mem_iff_getElem?.mp member
      obtain ⟨raw, same, _⟩ := quiet index item present
      exact ⟨raw, same⟩
    · intro index early
      have present := List.getElem?_eq_getElem (Nat.lt_of_lt_of_le early enough)
      obtain ⟨raw, same, accepted⟩ := quiet index _ present
      rw [same] at present
      exact ⟨raw, present, (Banner.accepts_iff_matches early).mp accepted⟩
  · intro ⟨enough, readable, starts⟩
    refine ⟨enough, ?_⟩
    intro index item present
    obtain ⟨raw, rfl⟩ := readable item (List.mem_of_getElem? present)
    refine ⟨raw, rfl, ?_⟩
    by_cases early : index < 3
    · obtain ⟨other, found, start⟩ := starts index early
      rw [present] at found
      cases found
      exact (Banner.accepts_iff_matches early).mpr start
    · exact Banner.accepts_of_length_le (Nat.not_lt.mp early) raw

/-- Every outcome of a pass by the input alone. The banner is wrong at the first
index where its line is missing or different, unless reading fails before; reading
fails at the first item that could not be read, unless the banner is wrong before;
and nothing after the item that fails counts. -/
theorem fold_outcome_by_first_fault (path : Path) (trailing : Trailing) (items : List ReadLine) :
    (∀ index, (fold path trailing items).result = .error (.bannerMismatch path index) ↔
      index < 3 ∧
      (∀ earlier < index, ∃ raw, items[earlier]? = some (.ok raw) ∧ Banner.Matches earlier raw) ∧
      (items[index]? = none ∨ ∃ raw, items[index]? = some (.ok raw) ∧ ¬ Banner.Matches index raw)) ∧
    (∀ index fault, (fold path trailing items).result = .error (.unreadable path (some index) fault) ↔
      items[index]? = some (.error fault) ∧
      (∀ earlier < index, ∃ raw, items[earlier]? = some (.ok raw)) ∧
      ∀ earlier < min index 3, ∀ raw, items[earlier]? = some (.ok raw) → Banner.Matches earlier raw) ∧
    ((∃ document, (fold path trailing items).result = .ok document) ↔
      3 ≤ items.length ∧ (∀ item ∈ items, ∃ raw, item = .ok raw) ∧
      ∀ index < 3, ∃ raw, items[index]? = some (.ok raw) ∧ Banner.Matches index raw) ∧
    (∀ failure, (fold path trailing items).result = .error failure →
      ∃ index, failure = .bannerMismatch path index ∨ ∃ fault, failure = .unreadable path (some index) fault) ∧
    ∀ failure index, (fold path trailing items).result = .error failure → failure.line? = some index →
      index < items.length → ∀ others,
        (fold path trailing (items.take (index + 1) ++ others)).result = .error failure := by
  refine ⟨fun _ => fold_bannerMismatch_iff, fun _ _ => fold_unreadable_iff, fold_succeeds_iff, ?_, ?_⟩
  · intro failure failed
    obtain ⟨index, made, _⟩ := fold_error_iff_at.mp failed
    exact ⟨index, complaint?_shape made⟩
  · intro failure index failed line present others
    exact fold_error_of_take failed line present others

end Document

end CommentFold
