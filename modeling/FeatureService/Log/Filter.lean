import FeatureService.Log.Directive

/-!
# Log filters

A filter is a list of directives with commas between them. The directive with the
longest start that an event's target has decides; of equal starts one that asks
for a field comes first, and otherwise the last one counts. An event that no
directive covers is not logged.
-/

namespace FeatureService

/-- The directives of a filter in the order in which they were given. -/
structure LogFilter where
  directives : List LogDirective
  deriving DecidableEq

namespace LogFilter

def pieces (text : List Char) : List (List Char) :=
  text.splitOn ','

/-- The filter that some directives make. Without directives only errors are logged. -/
def ofDirectives (directives : List LogDirective) : LogFilter :=
  ⟨if directives.isEmpty then [⟨none, .anywhere, some .error⟩] else directives⟩

def parse (text : String) : Except LogFilterError LogFilter := do
  .ok (ofDirectives (← ((pieces text.toList).filter (!·.isEmpty)).mapM LogDirective.parse))

/-- The filter of a service where none is given: its own events from `info` up,
those of others from `warn` up. -/
def default : LogFilter :=
  ⟨[⟨none, .anywhere, some .warn⟩, ⟨some "geoformat", .anywhere, some .info⟩]⟩

/-- The first candidate that is a filter, or the default. There is none where a
candidate splits a character before that. -/
def choose : List (Option String) → Option LogFilter
  | [] => some default
  | none :: rest => choose rest
  | some text :: rest =>
      match parse text with
      | .ok filter => some filter
      | .error .malformed => choose rest
      | .error .splitCharacter => none

def deciding? (filter : LogFilter) (event : LogEvent) : Option LogDirective :=
  filter.directives.foldl
    (fun best directive =>
      if directive.covers event && best.all fun held => held.reach ≤ directive.reach then
        some directive
      else best) none

def admits (filter : LogFilter) (event : LogEvent) : Bool :=
  match (filter.deciding? event).bind LogDirective.level with
  | some level => event.level.rank ≤ level.rank
  | none => false

end LogFilter

end FeatureService
