/-!
# Arguments

What the arguments of a process ask for. `tokens` sorts them by their looks, and `parse` reads the
tokens up to the name of a command and then behind it. The value of an option is looked at when the
next option is met or the arguments end, so that an explanation asked for further on is given only
if what stands before it is in order.
-/

namespace SessionSync.CommandLine

/-! ## What can be asked for -/

/-- A command. -/
inductive Command
  /-- Keep the session in step until told to stop. -/
  | run
  /-- Keep a refresh token for an account. -/
  | add (email refreshToken : String)
  /-- Drop the refresh token of an account. -/
  | remove (email : String)
  /-- Tell which accounts hold refresh tokens. -/
  | list
  deriving Repr, DecidableEq

/-- What the arguments come to. -/
inductive Request
  /-- A command, perhaps with a data directory. -/
  | command (dataFolder : Option String) (c : Command)
  /-- An explanation of the arguments. -/
  | help
  /-- Nothing: the arguments are wrong. -/
  | invalid
  deriving Repr, DecidableEq

/-- The commands with their names and how many words follow each. -/
def commandNames : List (String × Nat) :=
  [("run", 0), ("add-account", 2), ("remove-account", 1), ("list-accounts", 0)]

/-- The command of a name with the words that follow it. -/
def commandOf? : String → List String → Option Command
  | "run", [] => some .run
  | "add-account", [email, refreshToken] => some (.add email refreshToken)
  | "remove-account", [email] => some (.remove email)
  | "list-accounts", [] => some .list
  | _, _ => none

/-! ## Tokens -/

/-- What stands in the arguments. -/
inductive Token
  /-- The option for the data directory, with its value. -/
  | dataFolder (value : String)
  /-- The option that asks for an explanation. -/
  | help
  /-- An option that does not exist, or lacks its value. -/
  | wrong
  /-- `--`, after which nothing is an option. -/
  | endOfOptions
  /-- A word. -/
  | word (text : String)
  deriving Repr, DecidableEq

/-- Whether an argument looks like an option. -/
def looksLikeOption (s : String) : Bool :=
  match s.toList with
  | '-' :: _ :: _ => true
  | _ => false

/-- The name of a long option and what stands behind its `=`. -/
def nameAndValue (s : List Char) : String × Option String :=
  (String.ofList (s.takeWhile (· ≠ '=')),
    match s.dropWhile (· ≠ '=') with
    | _ :: value => some (String.ofList value)
    | [] => none)

/-- The name of the option for the data directory. -/
def dataFolderOption : String := "data-dir"

/-- The token of an argument that does not need the next one. -/
def tokenOf (s : String) : Token :=
  match s.toList with
  | ['-', '-'] => .endOfOptions
  | '-' :: '-' :: rest =>
    match nameAndValue rest with
    | (name, some value) => if name = dataFolderOption then .dataFolder value else .wrong
    | (name, none) => if name = "help" then .help else .wrong
  | '-' :: 'h' :: _ => .help
  | '-' :: _ :: _ => .wrong
  | _ => .word s

/-- The tokens of arguments. The option for the data directory takes the next argument as its value,
unless that looks like an option. -/
def tokens : List String → List Token
  | [] => []
  | s :: rest =>
    if s = "--" then .endOfOptions :: rest.map .word
    else if s = "--" ++ dataFolderOption then
      match rest with
      | [] => [.wrong]
      | value :: rest =>
        (if looksLikeOption value then .wrong else .dataFolder value) :: tokens rest
    else tokenOf s :: tokens rest

/-! ## The value of the option -/

/-- The option as far as it has been read. -/
structure Reading where
  /-- The value that has been looked at. -/
  accepted : Option String := none
  /-- A value that has not been looked at. -/
  pending : Option String := none
  deriving Repr, DecidableEq

namespace Reading

/-- Looks at the value that waits for it. An empty value is refused, and so is a second one. -/
def settle (r : Reading) : Option Reading :=
  match r.pending with
  | none => some r
  | some value => if value = "" || r.accepted.isSome then none else some { accepted := some value }

/-- Reads a value, after looking at the one before. -/
def add (r : Reading) (value : String) : Option Reading :=
  r.settle.map fun r => { r with pending := some value }

end Reading

/-! ## Levels -/

/-- What a part of the arguments comes to. -/
inductive Part
  /-- The words, with the option as far as it has been read. -/
  | words (reading : Reading) (texts : List String)
  /-- The name of a command, and what stands behind it. -/
  | command (reading : Reading) (name : String) (rest : List Token)
  /-- An explanation is asked for. -/
  | help
  /-- The arguments are wrong. -/
  | invalid
  deriving Repr, DecidableEq

/-- Reads what stands behind a command that takes so many words. -/
def readWords (reading : Reading) (room : Nat) (texts : List String) : List Token → Part
  | [] => .words reading texts
  | .endOfOptions :: rest => readWords reading room texts rest
  | .help :: _ => if reading.settle.isSome then .help else .invalid
  | .wrong :: _ => .invalid
  | .word text :: rest =>
    if texts.length < room then readWords reading room (texts ++ [text]) rest else .invalid
  | .dataFolder value :: rest =>
    match reading.add value with
    | some reading => readWords reading room texts rest
    | none => .invalid

/-- Reads up to the name of a command. -/
def readFront (reading : Reading) : List Token → Part
  | [] => .words reading []
  | .endOfOptions :: rest => if rest.isEmpty then .words reading [] else .invalid
  | .help :: _ => if reading.settle.isSome then .help else .invalid
  | .wrong :: _ => .invalid
  | .word name :: rest => .command reading name rest
  | .dataFolder value :: rest =>
    match reading.add value with
    | some reading => readFront reading rest
    | none => .invalid

/-! ## All arguments -/

/-- Whether words behind `help` name something that can be explained: the whole, or one command. -/
def isHelpTopic : List Token → Bool
  | [] => true
  | [.word name] => name = "help" || commandNames.any (·.1 = name)
  | _ => false

/-- What the arguments behind the name of a command come to. -/
def parseCommand (front : Reading) (name : String) (rest : List Token) : Request :=
  if name = "help" then (if isHelpTopic rest then .help else .invalid)
  else match commandNames.find? (·.1 = name) with
    | none => .invalid
    | some (_, room) =>
      match readWords {} room [] rest with
      | .help => .help
      | .words back texts =>
        match front.settle, back.settle, commandOf? name texts with
        | some front, some back, some c => .command (back.accepted <|> front.accepted) c
        | _, _, _ => .invalid
      | _ => .invalid

/-- What the arguments come to. Without the name of a command the session is kept in step; the data
directory that stands behind the command counts before the one in front of it. -/
def parse (arguments : List String) : Request :=
  match readFront {} (tokens arguments) with
  | .help => .help
  | .invalid => .invalid
  | .words front _ =>
    match front.settle with
    | some front => .command front.accepted .run
    | none => .invalid
  | .command front name rest => parseCommand front name rest

end SessionSync.CommandLine
