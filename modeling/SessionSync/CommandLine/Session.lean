import SessionSync.CommandLine.Accounts
import SessionSync.Config.File
import SessionSync.Disk.DataFolder
import SessionSync.Log.Journal

/-!
# A process

What a process does with its arguments: it finds or makes the data directory, reads the
configuration, opens the log, and carries out its command. Everything that can go wrong on the way
ends it, and what was made by then stays. A reader of URLs is brought along for the configuration.
-/

namespace SessionSync.CommandLine

/-- What a process finds around it. -/
structure Surroundings where
  /-- Where directories are. -/
  places : Places
  /-- What is to be logged, if that is asked for. -/
  logFilter : Option String
  /-- The day. -/
  date : String
  /-- The time. -/
  now : Int64

/-- Why a process ended without having done what it was to do. -/
inductive ProcessError
  /-- The data directory that was named cannot be made. -/
  | createFolder (path : String)
  /-- The data directory cannot be found or made. -/
  | dataFolder
  /-- There is no usable configuration. -/
  | config (e : ConfigError)
  /-- There is no log. -/
  | log (e : Log.JournalError)
  /-- The command failed. -/
  | account (e : AccountError)
  deriving Repr, DecidableEq

/-- The message of a process that failed. -/
def ProcessError.message : ProcessError → String
  | .createFolder path => s!"failed to create {path}"
  | .dataFolder => "failed to resolve data directory"
  | .config _ => "failed to load config"
  | .log _ => "failed to initialise logging"
  | .account e => e.message

/-- What a process comes to. -/
inductive ProcessResult
  /-- The arguments are explained, because that was asked for or because they are wrong. -/
  | usage (wrong : Bool)
  /-- It has printed lines and ended. -/
  | finished (lines : List String)
  /-- It has failed. -/
  | failed (e : ProcessError)
  /-- It keeps running with the data directory and the configuration. -/
  | serving (path : Path) (c : Config)

/-- Makes the data directory, which is named in the arguments or found. -/
def openDataFolder (root : Folder) (s : Surroundings) (named : Option String) :
    Except ProcessError Path × Folder :=
  match named with
  | some text =>
    match makeFolders root text with
    | (some path, root) => (.ok path, root)
    | (none, root) => (.error (.createFolder text), root)
  | none =>
    match s.places.dataFolder? with
    | none => (.error .dataFolder, root)
    | some text =>
      match makeFolders root text with
      | (some path, root) => (.ok path, root)
      | (none, root) => (.error .dataFolder, root)

/-- Carries out a command with a configuration. -/
def carryOut (disk : Disk) (s : Surroundings) (path : Path) (config : Config) (c : Command) :
    ProcessResult × Disk :=
  let account (c : AccountCommand) : ProcessResult × Disk :=
    match runAccountCommand disk s.now c with
    | (.ok lines, disk) => (.finished lines, disk)
    | (.error e, disk) => (.failed (.account e), disk)
  match c with
  | .run => (.serving path config, disk)
  | .add email refreshToken => account (.add email refreshToken)
  | .remove email => account (.remove email)
  | .list => account .list

/-- Does what a command asks for in a data directory. -/
def runIn (read : UrlReader) (disk : Disk) (s : Surroundings) (path : Path) (c : Command) :
    ProcessResult × Disk :=
  match loadConfig read disk with
  | (.error e, disk) => (.failed (.config e), disk)
  | (.ok config, disk) =>
    match Log.openJournal none disk s.date config.logLevel s.logFilter with
    | (.error e, disk) => (.failed (.log e), disk)
    | (.ok _, disk) => carryOut disk s path config c

/-- What a process does with its arguments in a tree of directories. -/
def run (read : UrlReader) (root : Folder) (s : Surroundings) (arguments : List String) :
    ProcessResult × Folder :=
  match parse arguments with
  | .help => (.usage false, root)
  | .invalid => (.usage true, root)
  | .command named c =>
    match openDataFolder root s named with
    | (.error e, root) => (.failed e, root)
    | (.ok path, root) =>
      let (result, disk) := runIn read (root.folderAt? path) s path c
      (result, root.replaceAt path (disk.getD []))

end SessionSync.CommandLine
