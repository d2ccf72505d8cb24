import EventSourcing.Logging.Directive

/-!
# Log filters

A filter is a list of directives with commas between them. The closest directive about the place
and the fields of an event says which levels are let through; besides, whatever happens inside of a
span is let through up to the level that the directives about the span set.
-/

namespace EventSourcing.Logging

/-- The directives of a filter, in order. -/
abbrev Filter := List Directive

/-! ## Reading -/

/-- Reads some directives, up to the first that cannot be read. -/
def parseAll : List String → Except FilterFault (List Directive)
  | [] => .ok []
  | text :: texts => do
    let directive ← Directive.parse text
    let directives ← parseAll texts
    return directive :: directives

def commaPieces : List Char → List (List Char)
  | [] => [[]]
  | c :: cs =>
    if c = ',' then [] :: commaPieces cs
    else
      match commaPieces cs with
      | [] => [[c]]
      | piece :: pieces => (c :: piece) :: pieces

/-- Reads a filter. A filter without directives lets errors through. -/
def Filter.parse (text : String) : Except FilterFault Filter := do
  let pieces := (commaPieces text.toList).filter fun piece => !piece.isEmpty
  let directives ← parseAll (pieces.map String.ofList)
  return if directives.isEmpty then [⟨{}, some .error⟩] else directives

/-! ## What directives are about -/

namespace Subject

def coversTarget (subject : Subject) (target : String) : Bool :=
  match subject.target with
  | none => true
  | some start => start.toList.isPrefixOf target.toList

/-- The subject covers events of a part of the program that have some fields, wherever they
happen. -/
def coversEvent (subject : Subject) (target : String) (names : List String) : Bool :=
  subject.coversTarget target && subject.span.isNone &&
    match subject.field with
    | none => true
    | some (name, none) => names.contains name
    | some (_, some _) => false

/-- The subject covers a span: it asks for a name or a field, and the span has it. -/
def coversSpan (subject : Subject) (span : Trace.Span) : Bool :=
  (subject.span.isSome || subject.field.isSome) && subject.coversTarget span.target &&
    subject.span.all (· == span.name) && subject.field.all fun f => span.fieldNames.contains f.1

/-- What the subject asks of a value is true of a span. -/
def holdsOf (subject : Subject) (span : Trace.Span) : Bool :=
  match subject.field with
  | some (name, some condition) => (span.fields.lookup name).any condition.holdsOf
  | _ => true

def asksForValue (subject : Subject) : Bool := subject.field.any fun f => f.2.isSome

/-- How far the subject narrows down a part of the program. -/
def targetLength (subject : Subject) : Nat := (subject.target.map fun t => t.length + 1).getD 0

/-- Of two subjects that cover the same event the first is the closer one: it names more of the part
of the program, or else a field, or else the later field of two. -/
def closerThan (subject other : Subject) : Bool :=
  other.targetLength < subject.targetLength ||
    other.targetLength == subject.targetLength &&
      match subject.field, other.field with
      | some (name, _), some (otherName, _) => otherName < name
      | some _, none => true
      | none, _ => false

end Subject

namespace Filter

/-- The directives that none of the later ones replaces, being on the same subject. -/
def inForce : Filter → Filter
  | [] => []
  | d :: ds => if ds.any fun e => e.subject == d.subject then inForce ds else d :: inForce ds

/-- The ceiling for events of a part of the program that have some fields: that of the closest
directive. -/
def ceilingFor (filter : Filter) (target : String) (names : List String) : Ceiling :=
  let closest := (filter.inForce.filter fun d => d.subject.coversEvent target names).foldl
    (fun best d =>
      match best with
      | some other => if d.subject.closerThan other.subject then some d else best
      | none => some d) (none : Option Directive)
  closest.bind Directive.ceiling

/-- The most verbose level at which spans are watched: that of all directives, also of those that
were replaced, and every level if the value of a field matters. -/
def reach (filter : Filter) : Nat :=
  if filter.any fun d => d.subject.asksForValue then Trace.Level.trace.verbosity
  else filter.foldl (fun best d => max best d.ceiling.verbosity) 0

def ceilingIn (filter : Filter) (span : Trace.Span) : Ceiling :=
  if span.level.verbosity ≤ filter.reach then
    (filter.inForce.filter fun d => d.subject.coversSpan span && d.subject.holdsOf span).foldl
      (fun best d => if best.verbosity < d.ceiling.verbosity then d.ceiling else best)
      (none : Ceiling)
  else none

/-- The events of a program's trace, from its start, that a filter lets through; `around` are the
spans that are open, innermost first. -/
def through (filter : Filter) (around : List Trace.Span) : List Trace.Entry → List Trace.Entry
  | [] => []
  | .opened span :: entries => filter.through (span :: around) entries
  | .closed _ :: entries => filter.through (around.drop 1) entries
  | .record _ _ :: entries => filter.through around entries
  | .event level target fields message :: entries =>
    let names := "message" :: fields.map Prod.fst
    if (filter.ceilingFor target names).admits level ||
        around.any fun span => (filter.ceilingIn span).admits level then
      .event level target fields message :: filter.through around entries
    else filter.through around entries

end Filter

/-- Blanks around a level make it the name of a part of the program. -/
example : (Filter.parse " debug").toOption =
    some [⟨{ target := some " debug" }, some .trace⟩] := by
  decide +kernel

/-- A blank in front shifts the pieces of a directive. -/
example : (Filter.parse "warn, a=info").toOption = none := by decide +kernel

/-- A level may be a number with a sign and zeros in front. -/
example : (Filter.parse "a=+005").toOption = some [⟨{ target := some "a" }, some .trace⟩] := by
  decide +kernel

/-- A directive about the spans of a part of the program in which a field has a value. -/
example : (Filter.parse "a[b\x7bc=2\x7d]=info").toOption =
    some [⟨⟨some "a", some "b", some ("c", some (.number 2))⟩, some .info⟩] := by
  decide +kernel

end EventSourcing.Logging
