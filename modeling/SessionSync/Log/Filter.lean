import SessionSync.Text.Lowercase
import SessionSync.Text.Pieces

/-!
# What is logged

Log messages have a level and come from a named source. A filter is a list of directives; the one
with the longest name that the source begins with says from which level on messages are kept, and
what no directive is about is dropped (`Filter.levelOf`).
-/

namespace SessionSync.Log

/-! ## Levels -/

/-- How much is kept, from nothing to everything. -/
inductive Level
  /-- Nothing. -/
  | off
  /-- Errors. -/
  | error
  /-- Warnings, too. -/
  | warn
  /-- What is done, too. -/
  | info
  /-- How it is done, too. -/
  | debug
  /-- Everything. -/
  | trace
  deriving Repr, DecidableEq

namespace Level

/-- The levels with their names. -/
def named : List (String × Level) :=
  [("off", .off), ("error", .error), ("warn", .warn), ("info", .info), ("debug", .debug),
    ("trace", .trace)]

/-- The name of a level. -/
def name (l : Level) : String :=
  match l with
  | .off => "off"
  | .error => "error"
  | .warn => "warn"
  | .info => "info"
  | .debug => "debug"
  | .trace => "trace"

/-- Reads the rank of a level, a number with an optional sign in front. -/
def ofRank? (s : List Char) : Option Level :=
  let digits := if s.head? = some '+' then s.tail else s
  if digits.isEmpty || !digits.all Char.isDigit then none
  else
    let rank := digits.foldl (fun n c => 10 * n + (c.toNat - '0'.toNat)) 0
    (named[rank]?).map (·.2)

/-- Reads a level by its name, in upper or lower case, or by its rank from 0 to 5. -/
def ofText? (s : List Char) : Option Level :=
  match named.find? fun e => e.1.toList = s.map Char.toLower with
  | some e => some e.2
  | none => ofRank? s

end Level

/-! ## Filters -/

/-- Says from which level on the messages of some sources are kept. -/
structure Directive where
  /-- What the names of the sources begin with. -/
  source : List Char
  /-- From which level on messages are kept. -/
  level : Level
  /-- Whether the directive is only about what happens within certain spans of time. -/
  withinSpan : Bool := false
  deriving Repr, DecidableEq

/-- A list of directives. -/
abbrev Filter := List Directive

/-- Whether the name of a source may begin with a character. -/
def beginsSource (c : Char) : Bool :=
  c.isAlphanum || c = '_' || c = ':' || c = '-' || 0x80 ≤ c.toNat

/-- Reads what follows the name of the sources: a span in brackets, tells whether there is one. -/
def readSpan? (rest : List Char) : Option (Bool × List Char) :=
  match rest with
  | '[' :: more =>
    match more.dropWhile (· ≠ ']') with
    | ']' :: after => some (!(more.takeWhile (· ≠ ']')).isEmpty, after)
    | _ => none
  | _ => some (false, rest)

/-- Reads a directive: a level alone, or the name of sources, a span in brackets or both, with a
level behind `=`. Without a level everything is kept. No level stands behind a name that begins with
a blank. -/
def Directive.ofText? (s : List Char) : Option Directive :=
  let visible := s.dropWhile Text.isWhiteSpace
  if !visible.head?.any fun c => beginsSource c || c = '[' then none
  else match Level.ofText? s with
  | some level => some { source := [], level }
  | none =>
    let source := s.takeWhile fun c => c ≠ '=' && c ≠ '['
    match readSpan? (s.dropWhile fun c => c ≠ '=' && c ≠ '[') with
    | some (withinSpan, []) => some { source, level := .trace, withinSpan }
    | some (withinSpan, '=' :: level) =>
      if visible.length < s.length then none
      else if level = [] then some { source, level := .trace, withinSpan }
      else (Level.ofText? level).map fun level => { source, level, withinSpan }
    | _ => none

namespace Filter

/-- Reads a filter: directives with commas in between, all of which must be readable. Between two
commas there may be nothing; a filter without directives keeps errors. -/
def ofText? (s : String) : Option Filter :=
  match ((Text.pieces ',' s.toList).filter (· ≠ [])).mapM Directive.ofText? with
  | some [] => some [{ source := [], level := .error }]
  | read => read

/-- The more specific of two directives, of two alike the later. -/
def moreSpecific (best : Option Directive) (d : Directive) : Option Directive :=
  match best with
  | none => some d
  | some b => if b.source.length ≤ d.source.length then some d else some b

/-- The level from which on the messages of a source are kept. -/
def levelOf (f : Filter) (source : String) : Level :=
  let about := f.filter fun d => !d.withinSpan && d.source.isPrefixOf source.toList
  match about.foldl moreSpecific none with
  | some d => d.level
  | none => .off

/-- The sources of the program itself. -/
def ownSources : List String := ["account_reconcilor", "account_reconcilor_lib"]

/-- The level that a configuration names; what names none counts as `info`. -/
def configuredLevel (level : String) : Level :=
  let name := String.ofList (Text.lowercase (Text.trim level.toList))
  match Level.named.find? (·.1 = name) with
  | some (_, .off) => .info
  | some (_, l) => l
  | none => .info

/-- The filter for a configured level: the program itself at that level, all else from warnings on.
-/
def ofLevel (level : String) : Filter :=
  ownSources.map (fun s => { source := s.toList, level := configuredLevel level })
    ++ [{ source := [], level := .warn }]

/-- The filter in force: the one asked for, if it can be read, and else that of the configuration.
-/
def inForce (level : String) (asked : Option String) : Filter :=
  (asked.bind ofText?).getD (ofLevel level)

end Filter

end SessionSync.Log
