import CommentFold.Runs
import Mathlib.Data.List.SplitBy

/-! Runs are the one way to cut a body where the kind of its lines changes and
nowhere else. A line that is added at the end of a body either joins its last run
or starts a new one. -/

namespace CommentFold

/-- A body cut into stretches of one kind, of which no two neighbours have the
same kind. -/
structure MaximalRuns (lines : List Line) (cut : List (List Line)) : Prop where
  whole : cut.flatten = lines
  nonempty : [] ∉ cut
  uniform : ∀ run ∈ cut, ∀ line ∈ run, ∀ other ∈ run, line.kind = other.kind
  apart : cut.IsChain fun run next => ∀ line ∈ run, ∀ other ∈ next, line.kind ≠ other.kind

private theorem isChain_kind_iff {run : List Line} :
    (run.IsChain fun line next => line.kind = next.kind) ↔
      ∀ line ∈ run, ∀ other ∈ run, line.kind = other.kind := by
  constructor
  · intro chained line member other another
    have kinds : (run.map Line.kind).IsChain Eq := (List.isChain_map Line.kind).mpr chained
    exact kinds.pairwise.forall_of_forall (fun _ _ => rfl) (List.mem_map_of_mem member) (List.mem_map_of_mem another)
  · intro uniform
    apply List.Pairwise.isChain
    exact List.pairwise_of_forall_mem_list uniform

/-- Where two runs of one kind each meet, comparing the lines at the seam is
comparing all of them. -/
private theorem seam_iff {run next : List Line} (first : run ≠ []) (second : next ≠ [])
    (uniform : ∀ line ∈ run, ∀ other ∈ run, line.kind = other.kind)
    (uniform' : ∀ line ∈ next, ∀ other ∈ next, line.kind = other.kind) :
    (∃ ha hb, decide ((run.getLast ha).kind = (next.head hb).kind) = false) ↔
      ∀ line ∈ run, ∀ other ∈ next, line.kind ≠ other.kind := by
  constructor
  · intro ⟨_, _, differ⟩ line member other another same
    apply of_decide_eq_false differ
    rw [uniform _ (List.getLast_mem first) line member, same, uniform' other another _ (List.head_mem second)]
  · intro differ
    exact ⟨first, second, decide_eq_false (differ _ (List.getLast_mem first) _ (List.head_mem second))⟩

theorem maximalRuns_iff {lines : List Line} {cut : List (List Line)} :
    MaximalRuns lines cut ↔ runs lines = cut := by
  rw [runs, List.splitBy_eq_iff]
  simp only [decide_eq_true_eq, isChain_kind_iff]
  constructor
  · intro ⟨whole, nonempty, uniform, apart⟩
    refine ⟨whole.symm, nonempty, uniform, ?_⟩
    exact (List.IsChain.iff_of_mem_imp fun run next first second =>
      seam_iff (ne_of_mem_of_not_mem first nonempty) (ne_of_mem_of_not_mem second nonempty)
        (uniform run first) (uniform next second)).mpr apart
  · intro ⟨whole, nonempty, uniform, apart⟩
    refine ⟨whole.symm, nonempty, uniform, ?_⟩
    exact (List.IsChain.iff_of_mem_imp fun run next first second =>
      seam_iff (ne_of_mem_of_not_mem first nonempty) (ne_of_mem_of_not_mem second nonempty)
        (uniform run first) (uniform next second)).mp apart

theorem maximalRuns_runs (lines : List Line) : MaximalRuns lines (runs lines) := maximalRuns_iff.mpr rfl

namespace MaximalRuns

variable {lines : List Line} {earlier later : List (List Line)} {run : List Line}

/-- A body ends in its last run. -/
theorem getLast?_eq (maximal : MaximalRuns lines (earlier ++ [run])) : lines.getLast? = run.getLast? := by
  have filled : run ≠ [] := fun empty => maximal.nonempty (by simp [empty])
  rw [← maximal.whole, List.flatten_append, List.flatten_singleton, List.getLast?_append_of_ne_nil _ filled]

/-- A body starts in its first run. -/
theorem head?_eq (maximal : MaximalRuns lines (run :: later)) : lines.head? = run.head? := by
  have filled : run ≠ [] := fun empty => maximal.nonempty (by simp [empty])
  rw [← maximal.whole, List.flatten_cons, List.head?_append_of_ne_nil _ filled]

end MaximalRuns

/-- The last line of a body is in a run that reaches the end, with lines of its kind only. -/
theorem exists_last_run {lines : List Line} {last : Line} (ends : lines.getLast? = some last) :
    ∃ earlier first rest, runs lines = earlier ++ [first :: rest] ∧ ∀ line ∈ first :: rest, line.kind = last.kind := by
  have maximal := maximalRuns_runs lines
  rcases List.eq_nil_or_concat (runs lines) with empty | ⟨earlier, run, cut⟩
  · cases List.splitBy_eq_nil.mp empty
    cases ends
  · rw [cut, List.concat_eq_append] at maximal
    rw [maximal.getLast?_eq] at ends
    have inside := List.mem_of_getLast? ends
    obtain ⟨first, rest, rfl⟩ := List.exists_cons_of_ne_nil (List.ne_nil_of_mem inside)
    refine ⟨earlier, first, rest, cut.trans List.concat_eq_append, ?_⟩
    intro line member
    exact maximal.uniform _ (by simp) line member last inside

/-- Two bodies with lines of different kinds at the seam have the runs that they have alone. -/
theorem runs_append_apart {lines more : List Line}
    (apart : ∀ last ∈ lines.getLast?, ∀ first ∈ more.head?, last.kind ≠ first.kind) :
    runs (lines ++ more) = runs lines ++ runs more :=
  List.splitBy_append fun last here first there => decide_eq_false (apart last here first there)

/-- Two bodies with lines of one kind at the seam share the run that stands there. -/
theorem runs_append_joined {lines more : List Line} {earlier later : List (List Line)} {run next : List Line}
    (cut : runs lines = earlier ++ [run]) (cut' : runs more = next :: later)
    (same : ∀ line ∈ run, ∀ other ∈ next, line.kind = other.kind) :
    runs (lines ++ more) = earlier ++ (run ++ next) :: later := by
  have before := cut ▸ maximalRuns_runs lines
  have after := cut' ▸ maximalRuns_runs more
  obtain ⟨line, inside⟩ := List.exists_mem_of_ne_nil run (fun empty => before.nonempty (by simp [empty]))
  obtain ⟨other, inside'⟩ := List.exists_mem_of_ne_nil next (fun empty => after.nonempty (by simp [empty]))
  have uniform := before.uniform run (by simp)
  have uniform' := after.uniform next List.mem_cons_self
  -- All lines of the shared run have the kind of one of them.
  have kind : ∀ member ∈ run ++ next, member.kind = line.kind := by
    refine List.forall_mem_append.mpr ⟨fun member held => uniform member held line inside, ?_⟩
    exact fun member held => (same line inside member held).symm
  obtain ⟨chained, _, seam⟩ := List.isChain_append.mp before.apart
  obtain ⟨seam', chained'⟩ := List.isChain_cons.mp after.apart
  apply maximalRuns_iff.mp
  constructor
  · rw [← before.whole, ← after.whole]
    simp
  · have filled := before.nonempty
    have filled' := after.nonempty
    simp only [List.mem_append, List.mem_cons, not_or] at filled filled' ⊢
    exact ⟨filled.1, fun empty => filled.2.1 (List.append_eq_nil_iff.mp empty.symm).1.symm, filled'.2⟩
  · intro member held
    rcases List.mem_append.mp held with early | late
    · exact before.uniform member (List.mem_append_left _ early)
    · rcases List.mem_cons.mp late with rfl | late
      · exact fun first here second there => (kind first here).trans (kind second there).symm
      · exact after.uniform member (List.mem_cons_of_mem _ late)
  · refine List.isChain_append.mpr ⟨chained, List.isChain_cons.mpr ⟨?_, chained'⟩, ?_⟩
    · intro following first member held
      rw [kind member held, same line inside other inside']
      exact seam' following first other inside'
    · intro previous last shared first member held
      cases Option.some.inj first
      intro another held'
      rw [kind another held']
      exact seam previous last run rfl member held line inside

/-- Two lines of one kind at a seam are in the run that both bodies share. -/
theorem runs_append_of_same {lines more : List Line} {last first : Line} (ends : lines.getLast? = some last)
    (starts : more.head? = some first) (same : last.kind = first.kind) :
    ∃ earlier run next later, runs lines = earlier ++ [run] ∧ runs more = next :: later ∧ last ∈ run ∧
      next.head? = some first ∧ runs (lines ++ more) = earlier ++ (run ++ next) :: later := by
  have before := maximalRuns_runs lines
  have after := maximalRuns_runs more
  rcases List.eq_nil_or_concat (runs lines) with empty | ⟨earlier, run, cut⟩
  · cases List.splitBy_eq_nil.mp empty
    cases ends
  cases cut' : runs more with
  | nil =>
    cases List.splitBy_eq_nil.mp cut'
    cases starts
  | cons next later =>
    rw [List.concat_eq_append] at cut
    rw [cut] at before
    rw [cut'] at after
    rw [before.getLast?_eq] at ends
    rw [after.head?_eq] at starts
    have inside := List.mem_of_getLast? ends
    refine ⟨earlier, run, next, later, rfl.trans cut, rfl, inside, starts, runs_append_joined cut cut' ?_⟩
    intro line held other held'
    rw [before.uniform run (by simp) line held last inside, same]
    exact after.uniform next List.mem_cons_self first (List.mem_of_head? starts) other held'

/-- A line after a body starts a run, unless the last run has its kind: then it
joins that run. -/
theorem runs_concat_cases (lines : List Line) (line : Line) :
    (runs (lines ++ [line]) = runs lines ++ [[line]] ∧
      ∀ run ∈ (runs lines).getLast?, ∀ other ∈ run, other.kind ≠ line.kind) ∨
    ∃ earlier run, runs lines = earlier ++ [run] ∧ run ≠ [] ∧ (∀ other ∈ run, other.kind = line.kind) ∧
      runs (lines ++ [line]) = earlier ++ [run ++ [line]] := by
  rcases List.eq_nil_or_concat (runs lines) with empty | ⟨earlier, run, cut⟩
  · cases List.splitBy_eq_nil.mp empty
    exact .inl ⟨rfl, by simp [empty]⟩
  · rw [List.concat_eq_append] at cut
    have before := cut ▸ maximalRuns_runs lines
    have member : run ∈ earlier ++ [run] := by simp
    have nonempty : run ≠ [] := ne_of_mem_of_not_mem member before.nonempty
    obtain ⟨first, inside⟩ := List.exists_mem_of_ne_nil run nonempty
    by_cases joins : first.kind = line.kind
    · have same : ∀ other ∈ run, other.kind = line.kind :=
        fun other member' => (before.uniform run member other member' first inside).trans joins
      exact .inr ⟨earlier, run, cut, nonempty, same, runs_append_joined cut rfl (by simpa using same)⟩
    · have new : ∀ other ∈ run, other.kind ≠ line.kind :=
        fun other member' equal => joins ((before.uniform run member first inside other member').trans equal)
      refine .inl ⟨runs_append_apart ?_, by simpa [cut] using new⟩
      intro last ends next starts
      rw [before.getLast?_eq] at ends
      cases Option.some.inj starts
      exact new last (List.mem_of_getLast? ends)

end CommentFold
