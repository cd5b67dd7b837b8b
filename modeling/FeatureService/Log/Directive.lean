import FeatureService.Json.Numeral
import FeatureService.Log.Event
import FeatureService.Log.FieldValue
import FeatureService.Text.Blank
import FeatureService.Text.Bytes

/-!
# Directives of a log filter

A directive says up to which level events of a target are logged. It gives a
level for all targets, the start of a target, or both with an equals sign. Behind
the start of a target it may ask, between brackets, for a span or for a field of
the event.

White space around a directive is not read, and yet its parts are cut out of the
whole text, at the places that they have without it. So white space in front of a
directive moves every part.
-/

namespace FeatureService

/-- What a directive asks of an event beside its target. -/
inductive LogScope where
  | anywhere
  /-- The event has a field. -/
  | field (name : String)
  /-- The event lies in a span that the directive describes. -/
  | span
  deriving DecidableEq

/-- Up to which level events of a target are logged. Nothing is logged at no
level. -/
structure LogDirective where
  target : Option String
  scope : LogScope
  level : Option LogLevel
  deriving DecidableEq

inductive LogFilterError where
  | malformed
  /-- A part of a directive starts or ends inside a character. -/
  | splitCharacter
  deriving DecidableEq

namespace LogDirective

def levelWords : List (String × Option LogLevel) :=
  [("off", none), ("error", some .error), ("warn", some .warn), ("info", some .info),
   ("debug", some .debug), ("trace", some .trace)]

/-- The number that a word of ASCII digits names. A plus sign may stand in front. -/
def number? (word : List Char) : Option Nat :=
  let digits := if word.head? = some '+' then word.tail else word
  if digits.isEmpty || !digits.all Char.isDigit then none else some (Numeral.natural digits)

def level? (word : List Char) : Option (Option LogLevel) :=
  match number? word with
  | some number => levelWords[number]?.map Prod.snd
  | none =>
      (levelWords.find? fun entry => Text.equalIgnoringCase entry.1 (String.ofList word)).map
        Prod.snd

/-- Whether the target of a directive may start with a character. -/
def isStart (c : Char) : Bool :=
  Text.isAlphanumeric c || c == '-' || c == ':' || c == '_'

/-- A directive of a single word: a level, or the start of a target at every
level. -/
def ofWord (word : List Char) : LogDirective :=
  match level? word with
  | some level => ⟨none, .anywhere, level⟩
  | none => ⟨some (String.ofList word), .anywhere, some .trace⟩

/-- The level behind an equals sign. Every level is logged where none is given. -/
def levelBehind? (word : List Char) : Option (Option LogLevel) :=
  if word.isEmpty then some (some .trace) else level? word

/-- The scope of a field, which may have a value, in a span. A field with a value is
one of a span. -/
def scopeOf? (span field : List Char) : Option LogScope :=
  match field.splitOn '=' with
  | _ :: value :: _ => if FieldValue.isValid value then some .span else none
  | _ =>
      if field.isEmpty then none
      else if span.isEmpty then some (.field (String.ofList field))
      else some .span

/-! ## Reading -/

def part (text : List Char) (start finish : Nat) : Except LogFilterError (List Char) :=
  match Text.cut? text start finish with
  | some part => .ok part
  | none => .error .splitCharacter

def given {α : Type} : Option α → Except LogFilterError α
  | some value => .ok value
  | none => .error .malformed

def levelFrom (text : List Char) (start : Nat) : Except LogFilterError (Option LogLevel) := do
  given (levelBehind? (← part text start (Text.byteCount text)))

/-- The scope that starts at a place with `body`: the name of a span, a field
between braces, or both. Gives the place behind the closing bracket and what
follows it. -/
def scopeFrom (text : List Char) (start : Nat) (body : List Char) :
    Except LogFilterError (LogScope × Nat × List Char) := do
  let isMark (c : Char) := c == ']' || c == '\x7b'
  let finish := start + Text.byteCount (body.takeWhile (!isMark ·))
  match body.dropWhile (!isMark ·) with
  | [] => .error .malformed
  | mark :: inner =>
      let span ← part text start finish
      if mark = ']' then .ok (.span, finish + 1, inner)
      else
        let start := finish + 1
        let finish := start + Text.byteCount (inner.takeWhile (· != '\x7d'))
        match inner.dropWhile (· != '\x7d') with
        | [] => .error .malformed
        | _ :: rest =>
            let scope ← given (scopeOf? span (← part text start finish))
            match rest with
            | ']' :: rest => .ok (scope, finish + 2, rest)
            | _ => .error .malformed

/-- Reads what follows the start of a target, which ends at a place. -/
def behindTarget (text : List Char) (finish : Nat) :
    List Char → Except LogFilterError (LogScope × Option LogLevel)
  | '=' :: _ => do .ok (.anywhere, ← levelFrom text (finish + 1))
  | _ :: body => do
      let (scope, finish, rest) ← scopeFrom text (finish + 1) body
      match rest with
      | [] => .ok (scope, some .trace)
      | '=' :: _ => .ok (scope, ← levelFrom text (finish + 1))
      | _ => .error .malformed
  | [] => .error .malformed

/-- Reads one directive. A word by itself keeps the white space around it, so it is
a target even where it names a level. -/
def parse (text : List Char) : Except LogFilterError LogDirective := do
  let body := Text.trim text
  let isMark (c : Char) := c == '=' || c == '['
  let behind := body.dropWhile (!isMark ·)
  let finish := Text.byteCount (body.takeWhile (!isMark ·))
  if !(body.head?.any fun first => isStart first || first == '[') then .error .malformed
  else if behind.isEmpty then .ok (ofWord text)
  else
    let target ← part text 0 finish
    let (scope, level) ← behindTarget text finish behind
    .ok ⟨if target.isEmpty then none else some (String.ofList target), scope, level⟩

/-! ## Events -/

/-- Whether a directive covers an event. Events have one field, their message,
and lie in no span. -/
def covers (directive : LogDirective) (event : LogEvent) : Bool :=
  (directive.target.all fun start => start.toList.isPrefixOf event.target.toList)
    && match directive.scope with
      | .anywhere => true
      | .field name => name == LogEvent.messageField
      | .span => false

/-- How much a directive asks of an event. All of a field counts less than one
character of a target. -/
def reach (directive : LogDirective) : Nat :=
  let target := match directive.target with
    | none => 0
    | some start => start.length + 1
  2 * target + if directive.scope = .anywhere then 0 else 1

end LogDirective

end FeatureService
