import CommentFold.Log.Directive

/-! Log filters. A filter is a list of directives separated by commas; each sets
a level for the topics that start with its target, and a bare level does so for
all topics. The most specific directive that covers an event decides, and of
equals the last. Where none does, nothing shows. A directive about scopes adds to
this what happens in them, wherever it comes from. -/

namespace CommentFold.Log

abbrev Filter := List Directive

/-- How a run reads its log filter. A reader is meant to give a filter or to refuse the
text; that one can break off instead is part of what a run has to live with. -/
abbrev FilterReader := Text → Except Unread Filter

namespace Filter

def parse (text : Text) : Except Unread Filter :=
  ((text.splitOn ',').filter (· ≠ [])).mapM Directive.parse

/-- The level of the most specific directive. -/
def decision (filter : Filter) : Level :=
  (List.foldl (fun best directive => if Directive.isAsSpecific directive best then directive else best)
    ⟨[], none, .off⟩ filter).level

/-- The level up to which events with some fields show. -/
def eventLimit (filter : Filter) (topic : Text) (fields : List Text) : Level :=
  decision (filter.filter (·.coversEvent topic fields))

/-- The level up to which a scope shows as an item of the log. -/
def itemLimit (filter : Filter) (topic : Text) : Level :=
  decision (filter.filter (·.coversItem topic))

/-- The directives that no later one replaces. -/
def standing : Filter → Filter
  | [] => []
  | directive :: rest =>
    if rest.any (·.replaces directive) then standing rest else directive :: standing rest

/-- The level up to which events in a scope show: the highest of the directives
about the scope whose conditions its fields meet. There is none if no directive
is about the scope. -/
def scopeLimit? (filter : Filter) (topic name : Text) (fields : List (Text × Text)) : Option Level :=
  match filter.standing.filter (·.coversScope topic name (fields.map (·.1))) with
  | [] => none
  | covering =>
    let met := covering.filter fun directive => directive.condition?.any (·.holds fields)
    some ((met.map (·.level)).foldl Level.max .off)

end Filter

end CommentFold.Log
