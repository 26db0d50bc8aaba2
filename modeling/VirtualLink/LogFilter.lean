import VirtualLink.Config
import VirtualLink.Text.Alphanumeric
import VirtualLink.Text.Blank
import VirtualLink.Text.Cut
import VirtualLink.Text.Number
import VirtualLink.Text.Pattern

namespace VirtualLink

/-- What a directive asks of a field: that it is there, and perhaps that its value fits a pattern. -/
structure FieldTest where
  name : String
  value : Option String := none
deriving DecidableEq, Inhabited

/-- Reads `name` or `name=value`. What follows a second equals sign does not count. A value is a pattern or a number,
and of these only a number can start with a plus. -/
def FieldTest.ofText? (text : String) : Option FieldTest :=
  match text.splitOn "=" with
  | [""] => none
  | name :: value :: _ =>
    let isSigned := value.startsWith "+" && isNumber (value.drop 1).toString
    if isSigned || isPattern value then some { name, value := some value } else none
  | [name] => some { name }
  | [] => none

/-- What a filter lets through, up to a level: the events of a target and of all targets that start with it, with
the fields it names, inside the spans it names; or, where it does not say, all events. -/
structure LogDirective where
  target : Option String := none
  span : Option String := none
  field : Option FieldTest := none
  /-- No level lets nothing through. -/
  level : Option Level
deriving DecidableEq, Inhabited

namespace LogDirective

/-- Reads how much to let through: a level by name in any case or by rank, `off`, or `0`. -/
def threshold? (text : String) : Option (Option Level) :=
  match Level.ofText? text with
  | some level => some (some level)
  | none =>
    let digits := if text.startsWith "+" then (text.drop 1).toString else text
    if text.toLower = "off" then some none
    else if digits ≠ "" ∧ digits.all Char.isDigit then
      match Nat.ofDigitChars 10 digits.toList 0 with
      | 0 => some none
      | rank => (Level.ofRank? rank).map some
    else none

/-- Letters and digits may start a directive, and so may hyphens, colons and underscores. -/
def mayStart (c : Char) : Bool :=
  isAlphanumeric c || c == '-' || c == ':' || c == '_'

/-- Why a text is no directive. -/
inductive Fault
  | malformed
  /-- A part would start or end inside a character. -/
  | torn
deriving DecidableEq

/-- The text between two places, counted in bytes. -/
def cut (text : List Char) (start stop : Nat) : Except Fault String :=
  match dropBytes? start text >>= takeBytes? (stop - start) with
  | some part => .ok (String.ofList part)
  | none => .error .torn

/-- The text from a place on. -/
def tail (text : List Char) (start : Nat) : Except Fault String :=
  match dropBytes? start text with
  | some part => .ok (String.ofList part)
  | none => .error .torn

/-- The part of a directive that is being read, with the place where it starts. -/
inductive Stage
  | start
  /-- A level or a target. -/
  | word (start : Nat)
  | span (start : Nat)
  | field (start : Nat)
  | fieldDone
  | spanDone
  | level (start : Nat)

/-- Takes the character at a place of a text. -/
def advance (text : List Char) (place : Nat) (c : Char) (draft : LogDirective) :
    Stage → Except Fault (LogDirective × Stage)
  | .start =>
    if c = '[' then return (draft, .span (place + 1))
    else if mayStart c then return (draft, .word place)
    else throw .malformed
  | .word start => do
    if c = '=' then return ({ draft with target := some (← cut text start place) }, .level (place + 1))
    else if c = '[' then return ({ draft with target := some (← cut text start place) }, .span (place + 1))
    else return (draft, .word start)
  | .span start => do
    if c = ']' then return ({ draft with span := some (← cut text start place) }, .spanDone)
    else if c = '\x7b' then
      let name ← cut text start place
      return ({ draft with span := if name = "" then none else some name }, .field (place + 1))
    else return (draft, .span start)
  | .field start => do
    if c = '\x7d' then
      match FieldTest.ofText? (← cut text start place) with
      | some field => return ({ draft with field := some field }, .fieldDone)
      | none => throw .malformed
    else return (draft, .field start)
  | .fieldDone => if c = ']' then return (draft, .spanDone) else throw .malformed
  | .spanDone => if c = '=' then return (draft, .level (place + 1)) else throw .malformed
  | .level start => return (draft, .level start)

def advanceAll (text : List Char) (place : Nat) (draft : LogDirective) (stage : Stage) :
    List Char → Except Fault (LogDirective × Stage)
  | [] => return (draft, stage)
  | c :: rest => do
    let (draft, stage) ← advance text place c draft stage
    advanceAll text (place + c.utf8Size) draft stage rest

/-- Ends a directive, of which the last part goes on to the end of the text. -/
def finish (text : List Char) (draft : LogDirective) : Stage → Except Fault LogDirective
  | .word start => do
    let word ← tail text start
    match threshold? word with
    | some level => return { draft with level }
    | none => return { draft with target := some word }
  | .level start => do
    let word ← tail text start
    if word = "" then return draft
    match threshold? word with
    | some level => return { draft with level }
    | none => throw .malformed
  | .spanDone => return draft
  | _ => throw .malformed

/-- Reads `target[span{field=value}]=level`, of which every part may be missing. Without a level everything is let
through. Blanks at both ends do not count for where the parts are, but the parts are cut from the text with them, so
that a place can be inside a character. -/
def ofText (text : String) : Except Fault LogDirective := do
  let (draft, stage) ← advanceAll text.toList 0 { level := some .trace } .start (trimBlanks text.toList)
  finish text.toList draft stage

/-- A byte more of target outweighs a field. -/
def weight (directive : LogDirective) : Nat :=
  2 * (directive.target.map String.utf8ByteSize).getD 0 + (if directive.field.isSome then 1 else 0)

/-- The fields of every event. No event is inside a span, and no value of a field is compared outside one. -/
def eventFields : List String :=
  ["message"]

def concerns (directive : LogDirective) (event : Event) : Bool :=
  directive.target.all (fun target => event.target.startsWith target)
    && directive.span.isNone
    && directive.field.all fun field => field.value.isNone && eventFields.contains field.name

end LogDirective

/-- Says which events reach the log. -/
structure LogFilter where
  directives : List LogDirective
deriving DecidableEq, Inhabited

namespace LogFilter

/-- Reads directives between commas and passes over malformed ones, but a torn one spoils the filter. Without any only
errors pass. -/
def ofText? (text : String) : Option LogFilter :=
  let readings := (text.splitOn ",").map LogDirective.ofText
  if readings.any fun reading => reading matches .error .torn then none
  else
    match readings.filterMap Except.toOption with
    | [] => some ⟨[{ level := some .error }]⟩
    | directives => some ⟨directives⟩

/-- The directive that decides about an event: of those that concern it the weightiest, and of equals the last. -/
def deciding? (filter : LogFilter) (event : Event) : Option LogDirective :=
  (filter.directives.filter (·.concerns event)).foldl (fun best next =>
    match best with
    | some former => if former.weight ≤ next.weight then some next else best
    | none => some next) none

def passes (filter : LogFilter) (event : Event) : Bool :=
  match (filter.deciding? event).bind LogDirective.level with
  | some level => event.level.rank ≤ level.rank
  | none => false

/-- The lines of the events that pass. -/
def lines (filter : LogFilter) (events : List Event) : List String :=
  (events.filter filter.passes).map Event.line

/-- A log that is not configured tells what matters for information. -/
def ofLogging (logging : Option Logging) : LogFilter :=
  ⟨[{ level := some ((logging.bind fun logging => Level.ofText? logging.level).getD .info) }]⟩

end LogFilter

/-- How the log is written: what passes, and whether each line is an object or text. -/
structure LogSetup where
  filter : LogFilter
  structured : Bool
deriving DecidableEq, Inhabited

namespace LogSetup

/-- Directives from the environment, even none, go before the level of a configuration. With a torn one among them
there is no setup. -/
def choose? (environment : Option String) (logging : Option Logging) : Option LogSetup := do
  let filter ← match environment with
    | some text => LogFilter.ofText? text
    | none => some (.ofLogging logging)
  return { filter, structured := logging.any fun logging => logging.format == "json" }

/-- The first setup stays; the answer is whether this is the first. -/
def install (setup : LogSetup) : Option LogSetup → LogSetup × Bool
  | none => (setup, true)
  | some first => (first, false)

end LogSetup

end VirtualLink
