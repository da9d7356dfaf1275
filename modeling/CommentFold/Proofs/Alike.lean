import CommentFold.CommandLine.Run

/-! One program on two hosts. A relation between what one host does and what another
does, which respects sequences and all requests, relates whole runs. -/

namespace CommentFold

variable {m n : Type → Type} {σ : Type} [Monad m] [Monad n]

/-- Related steps make related sequences. -/
structure Sequential (related : ∀ ⦃α : Type⦄, m α → n α → Prop) : Prop where
  pure {α : Type} (value : α) : related (pure value : m α) (pure value : n α)
  bind {α β : Type} {first : m α} {second : n α} {next : α → m β} {later : α → n β} :
    related first second → (∀ value, related (next value) (later value)) → related (first >>= next) (second >>= later)

variable [Storage m σ] [Storage n σ]

/-- Requests about staged files are related. -/
structure Staging (related : ∀ ⦃α : Type⦄, m α → n α → Prop) : Prop extends Sequential related where
  stage (directory : Path) (stem : Bytes) (mode : Nat) :
    related (Storage.stage directory stem mode : m _) (Storage.stage directory stem mode : n _)
  append (staged : σ) (bytes : Bytes) :
    related (Storage.append staged bytes : m _) (Storage.append staged bytes : n _)
  publish (staged : σ) (target : Path) :
    related (Storage.publish staged target : m _) (Storage.publish staged target : n _)
  discard (staged : σ) : related (Storage.discard staged : m _) (Storage.discard staged : n _)

namespace Staging

variable {related : ∀ ⦃α : Type⦄, m α → n α → Prop} (staging : Staging related)

include staging

theorem drop (replacement : Replacement σ) : related (replacement.drop : m Unit) (replacement.drop : n Unit) :=
  staging.bind (staging.discard replacement.staged) fun _ => staging.pure ()

theorem begin (target : Path) (mode : Nat) :
    related (Replacement.begin target mode : m (Outcome (Replacement σ))) (Replacement.begin target mode) := by
  refine staging.bind (staging.stage _ _ _) ?_
  rintro (fault | ⟨staged, name⟩)
  · exact staging.pure _
  · exact staging.pure _

theorem appendBytes (replacement : Replacement σ) (bytes : Bytes) :
    related (replacement.append bytes : m (Outcome Unit)) (replacement.append bytes) := by
  refine staging.bind (staging.append _ _) ?_
  rintro (fault | ⟨⟩)
  · exact staging.pure _
  · exact staging.pure _

theorem commit (replacement : Replacement σ) : related (replacement.commit : m (Outcome Unit)) replacement.commit := by
  refine staging.bind (staging.publish _ _) ?_
  rintro (fault | ⟨⟩)
  · exact staging.bind (staging.drop replacement) fun _ => staging.pure _
  · exact staging.pure _

theorem complete (replacement : Replacement σ) (bytes : Bytes) :
    related (replacement.complete bytes : m (Outcome Unit)) (replacement.complete bytes) := by
  refine staging.bind (staging.appendBytes replacement bytes) ?_
  rintro ⟨events, fault | ⟨⟩⟩
  · exact staging.bind (staging.drop replacement) fun _ => staging.pure _
  · exact staging.commit replacement

variable [LawfulMonad m] [LawfulMonad n]

theorem andThen {α β : Type} (outcome : Outcome α) {next : α → m (Outcome β)} {later : α → n (Outcome β)}
    (respected : ∀ value, related (next value) (later value)) :
    related (outcome.andThen next) (outcome.andThen later) := by
  obtain ⟨events, failure | value⟩ := outcome
  · exact staging.pure _
  · simp only [Outcome.andThen_ok, map_eq_pure_bind]
    exact staging.bind (respected value) fun _ => staging.pure _

theorem replaceFile (path : Path) (source : Source) (document : Document) :
    related (replaceFile path source document : m (Outcome Report)) (replaceFile path source document) := by
  unfold CommentFold.replaceFile
  cases source.mode with
  | error fault => exact staging.pure _
  | ok mode =>
    refine staging.bind (staging.begin path mode) fun begun => staging.andThen begun fun replacement => ?_
    exact staging.bind (staging.complete replacement _) fun completed =>
      staging.andThen completed fun _ => staging.pure _

theorem foldFile (path : Path) (trailing : Trailing)
    (fetched : related (Storage.fetch path : m (Except Fault Source)) (Storage.fetch path)) :
    related (foldFile path trailing : m (Outcome Report)) (foldFile path trailing) := by
  refine staging.bind fetched ?_
  rintro (fault | source)
  · exact staging.pure _
  · exact staging.andThen _ fun document => staging.replaceFile path source document

end Staging

variable [Console m] [Console n]

/-- All requests of a run are related. -/
structure Running (related : ∀ ⦃α : Type⦄, m α → n α → Prop) : Prop extends Staging related where
  fetch (path : Path) : related (Storage.fetch path : m _) (Storage.fetch path : n _)
  print (bytes : Bytes) : related (Console.print bytes : m _) (Console.print bytes : n _)
  complain (bytes : Bytes) : related (Console.complain bytes : m _) (Console.complain bytes : n _)
  log (line : Text) : related (Console.log line : m _) (Console.log line : n _)

namespace Running

open CommandLine

variable {related : ∀ ⦃α : Type⦄, m α → n α → Prop} (running : Running related)

include running

private theorem record (plan : LogPlan) (scope? : Option Scope) (events : List Event) :
    related (plan.record scope? events : m Unit) (plan.record scope? events : n Unit) := by
  induction events with
  | nil => exact running.pure ()
  | cons event rest ih =>
    unfold LogPlan.record
    cases Log.line? plan.filter plan.format scope? event with
    | none => exact ih
    | some line => exact running.bind (running.log line) fun _ => ih

private theorem confirm (text : Text) :
    related (CommandLine.print text : m _) (CommandLine.print text : n _) := by
  refine running.bind (running.print _) ?_
  rintro (fault | ⟨⟩)
  · exact running.pure _
  · exact running.pure _

variable [LawfulMonad m] [LawfulMonad n]

theorem foldEach (plan : LogPlan) (trailing : Trailing) (paths : List Path) :
    related (foldEach plan trailing paths : m _) (foldEach plan trailing paths : n _) := by
  induction paths with
  | nil => exact running.pure _
  | cons path rest ih =>
    refine running.bind (running.toStaging.foldFile path trailing (running.fetch path)) ?_
    rintro ⟨events, failure | report⟩
    · exact running.bind (running.record _ _ _) fun _ => running.pure _
    · refine running.bind (running.record _ _ _) fun _ => running.bind (running.confirm _) ?_
      rintro (fault | ⟨⟩)
      · exact running.pure _
      · exact ih

private theorem execute (filter : Log.Filter) (settings : Settings) :
    related (CommandLine.execute filter settings : m _) (CommandLine.execute filter settings : n _) :=
  running.bind (running.record _ _ _) fun _ => running.foldEach _ _ _

omit [LawfulMonad m] [LawfulMonad n] in
private theorem conclude {action : m (Except RunFault Unit)} {again : n (Except RunFault Unit)}
    (alike : related action again) : related (CommandLine.conclude action) (CommandLine.conclude again) := by
  refine running.bind alike ?_
  rintro (fault | ⟨⟩)
  · exact running.bind (running.complain _) fun _ => running.pure _
  · exact running.pure _

theorem runWith (reader : Log.FilterReader) (arguments : List Bytes) :
    related (CommandLine.runWith reader arguments : m ExitStatus)
      (CommandLine.runWith reader arguments : n ExitStatus) := by
  unfold CommandLine.runWith answer?
  cases readArguments arguments with
  | error fault => exact running.conclude (running.pure _)
  | ok request =>
    cases request with
    | help | version => exact running.conclude (running.confirm _)
    | fold settings =>
      dsimp only
      cases reader settings.filter with
      | ok filter => exact running.conclude (running.execute filter settings)
      | error unread =>
        cases unread with
        | refused fault => exact running.conclude (running.pure _)
        | brokenOff => exact running.pure _

end Running

end CommentFold
