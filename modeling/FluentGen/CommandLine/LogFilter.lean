import FluentGen.CommandLine.LogField
import FluentGen.Text.Utf8
/-!
# The filter of the log

A filter is a list of directives between commas. A directive is a level, or a target, a span in
brackets, or both, with a level behind an equals sign; it lets everything through when the level is
left out. A span may ask for a field in braces, and for a value of it behind an equals sign.

A filter holds static directives, which ask for nothing but targets and fields, and dynamic ones,
which need to know the spans; a field alone is both. When a filter is printed, the more specific
directives come first, and of several that ask for the same only the last is left.

## Main definitions
* `LogLevel`, `LogDirective`, `LogFilter`: filters.
* `LogDirective.parse?`, `LogFilter.parse?`, `LogFilter.display`: reading and printing a filter.
* `LogFilter.ofVariable`: the filter for the value of an environment variable.
-/
namespace FluentGen

/-- How much is let through. -/
inductive LogLevel where
  | off
  | error
  | warn
  | info
  | debug
  | trace
  deriving DecidableEq, Repr

namespace LogLevel

/-- All levels, from the one that lets nothing through on. -/
def all : List LogLevel :=
  [.off, .error, .warn, .info, .debug, .trace]

/-- The name of a level. -/
def label : LogLevel → String
  | .off => "off"
  | .error => "error"
  | .warn => "warn"
  | .info => "info"
  | .debug => "debug"
  | .trace => "trace"

/-- The level with a name, in any case of letters, or with a number. -/
def ofText? (text : String) : Option LogLevel :=
  match Text.word? text.toList with
  | some index => all[index]?
  | none => all.find? fun level => level.label == text.toLower

end LogLevel

/-- A level for what has a target, is in a span, and has a field, or for everything. -/
structure LogDirective where
  target : Option String := none
  span : Option String := none
  field : Option LogField := none
  level : LogLevel := .trace
  deriving DecidableEq, Repr

/-- What is left to read of a directive. Its form is read without the blanks around the directive;
its parts are cut out of the whole text, at the same positions in bytes. -/
structure DirectiveText where
  whole : List Char
  form : List Char
  position : Nat
  deriving DecidableEq, Repr

namespace DirectiveText

/-- The directive before anything is read. -/
def ofText (text : String) : DirectiveText :=
  ⟨text.toList, (Text.trim text).toList, 0⟩

/-- What is left from the next of some characters on. -/
def find (rest : DirectiveText) (isEnd : Char → Bool) : DirectiveText :=
  { rest with
    form := rest.form.dropWhile (!isEnd ·)
    position := rest.position + Text.byteCount (rest.form.takeWhile (!isEnd ·)) }

/-- What is left after the next character, which takes one byte. -/
def skip (rest : DirectiveText) : DirectiveText :=
  { rest with form := rest.form.drop 1, position := rest.position + 1 }

/-- The part between two positions. -/
def upTo? (start stop : DirectiveText) : Option String :=
  (Text.slice? start.position stop.position start.whole).map String.ofList

/-- All that is left. -/
def toEnd? (start : DirectiveText) : Option String :=
  (Text.splitAtByte? start.position start.whole).map (String.ofList ·.2)

end DirectiveText

namespace LogDirective

/-- Reads the level, which everything that is left belongs to. -/
def readLevel (directive : LogDirective) (rest : DirectiveText) : Option LogDirective := do
  let text ← rest.toEnd?
  if text.isEmpty then return directive
  else return { directive with level := ← LogLevel.ofText? text }

/-- Reads what may follow a span. -/
def readEnd (directive : LogDirective) (rest : DirectiveText) : Option LogDirective :=
  match rest.form with
  | [] => some directive
  | '=' :: _ => directive.readLevel rest.skip
  | _ => none

/-- Reads a field after its opening brace. -/
def readField (directive : LogDirective) (start : DirectiveText) : Option LogDirective :=
  let rest := start.find (· == '}')
  match rest.form with
  | '}' :: ']' :: _ => do
    let text ← start.upTo? rest
    if text.isEmpty then none
    else readEnd { directive with field := ← LogField.ofText? text.toList } rest.skip.skip
  | _ => none

/-- Reads a span after its opening bracket. -/
def readSpan (directive : LogDirective) (start : DirectiveText) : Option LogDirective :=
  let rest := start.find fun c => c == ']' || c == '{'
  match rest.form with
  | ']' :: _ => do readEnd { directive with span := ← start.upTo? rest } rest.skip
  | '{' :: _ => do
    let span ← start.upTo? rest
    readField { directive with span := if span.isEmpty then none else some span } rest.skip
  | _ => none

/-- Whether a target or a level may start with a character. -/
def isStart (c : Char) : Bool :=
  Text.isAlphanumeric c || c == '-' || c == ':' || c == '_'

/-- Reads a directive. -/
def parse? (text : String) : Option LogDirective :=
  let start := DirectiveText.ofText text
  match start.form with
  | [] => none
  | '[' :: _ => readSpan {} start.skip
  | first :: _ =>
    let rest := start.find fun c => c == '=' || c == '['
    if !isStart first then none
    else match rest.form with
      | '=' :: _ => do readLevel { target := ← start.upTo? rest } rest.skip
      | '[' :: _ => do readSpan { target := ← start.upTo? rest } rest.skip
      | _ => some ((LogLevel.ofText? text).elim { target := text } fun level => { level })

/-- Whether a directive asks for nothing but a target and a field. -/
def isStatic (directive : LogDirective) : Bool :=
  directive.span.isNone && directive.field.all (·.value.isNone)

/-- Whether a directive asks for a span or a field. -/
def isDynamic (directive : LogDirective) : Bool :=
  directive.span.isSome || directive.field.isSome

/-- The text of a directive. -/
def display (directive : LogDirective) : String :=
  let field := directive.field.elim "" fun field => "\x7b" ++ field.display ++ "\x7d"
  let span := if directive.isDynamic then "[" ++ directive.span.getD "" ++ field ++ "]" else ""
  let subject := directive.target.getD "" ++ span
  (if directive.target.isSome || directive.isDynamic then subject ++ "=" else "") ++
    directive.level.label

/-- Which of two directives is more specific: the length of the target decides, then whether there
is a span or a field, and between equals what they are called. -/
def order (left right : LogDirective) : Ordering :=
  (compare (left.target.map (·.utf8ByteSize)) (right.target.map (·.utf8ByteSize))).then <|
    (compare left.span.isSome right.span.isSome).then <|
    (compare left.field.isSome right.field.isSome).then <|
    (compare left.target right.target).then <|
    (compare left.span right.span).then <|
    match left.field, right.field with
    | some left, some right => left.order right
    | _, _ => .eq

/-- Adds a directive at its place, in the stead of one that asks for the same. -/
def insertInto (directive : LogDirective) : List LogDirective → List LogDirective
  | [] => [directive]
  | other :: others =>
    match directive.order other with
    | .gt => directive :: other :: others
    | .eq => directive :: others
    | .lt => other :: directive.insertInto others

end LogDirective

/-- The directives of a filter, in the order in which they are printed. -/
structure LogFilter where
  statics : List LogDirective := []
  dynamics : List LogDirective := []
  deriving DecidableEq, Repr

namespace LogFilter

/-- The filter with some directives. Those that are both static and dynamic come after the others
that are static. -/
def ofDirectives (directives : List LogDirective) : LogFilter :=
  let (dynamics, statics) := directives.partition (·.isDynamic)
  { statics :=
      (statics ++ dynamics.filter (·.isStatic)).foldl (fun found d => d.insertInto found) []
    dynamics := dynamics.foldl (fun found d => d.insertInto found) [] }

/-- Reads a filter. Between two commas there may be nothing. -/
def parse? (text : String) : Option LogFilter := do
  let parts := ((text.toList.splitOn ',').map String.ofList).filter (!·.isEmpty)
  return ofDirectives (← parts.mapM LogDirective.parse?)

/-- The text of a filter. -/
def display (filter : LogFilter) : String :=
  ",".intercalate ((filter.statics ++ filter.dynamics).map LogDirective.display)

/-- The filter for the value of an environment variable. Warnings pass when the variable is not set
or cannot be read. -/
def ofVariable (value : Option String) : LogFilter :=
  (value.bind parse?).getD { statics := [{ level := .warn }] }

example : (ofVariable none).display = "warn" := by decide +kernel
example : (ofVariable "info,generator=debug").display = "generator=debug,info" := by decide +kernel
example : (ofVariable "a[b\x7bc=d\x7d]").display = "a[b\x7bc=d\x7d]=trace" := by decide +kernel
example : (ofVariable "[s\x7bn=9\x7d]=info,[s\x7bn=10\x7d]=info").display =
    "[s\x7bn=10\x7d]=info,[s\x7bn=9\x7d]=info" := by decide +kernel
example : (ofVariable "a=b=c").display = "warn" := by decide +kernel

end LogFilter

end FluentGen
