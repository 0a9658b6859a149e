import SessionSync.Config.Basic
import SessionSync.Disk.Folder
import SessionSync.Disk.Replace
import SessionSync.Json.Printer
import SessionSync.Text.Utf8

/-!
# The configuration file

`checkConfig` says which configurations are accepted and names the first setting that is at fault;
`loadConfig` reads the file of a data directory, making one with the defaults if there is none, and
`saveConfig` writes it. What makes a text a URL is not decided here: whoever checks or reads a
configuration brings a reader of URLs along.
-/

namespace SessionSync

/-- Why there is no usable configuration. -/
inductive ConfigError
  /-- The file system refused. -/
  | disk
  /-- The file does not hold a configuration. -/
  | malformed
  /-- An address is not one of the web. -/
  | invalidEndpoint (name url : String)
  /-- A period is zero or longer than a day. -/
  | invalidInterval (name : String) (value : UInt64)
  deriving Repr, DecidableEq

/-- The message of a failure of the configuration. -/
def ConfigError.message : ConfigError → String
  | .disk => "failed to access config file"
  | .malformed => "failed to parse config file"
  | .invalidEndpoint name url => s!"endpoint {name} is not a valid http(s) URL: {url}"
  | .invalidInterval name value =>
    s!"{name} must be between 1 and {Schedule.maxIntervalSecs} seconds, got {value}"

/-! ## Checking -/

/-- Whether a period can be kept to. -/
def isInterval (secs : UInt64) : Bool :=
  secs ≠ 0 && secs ≤ Schedule.maxIntervalSecs

/-- A reader of URLs: the scheme of the absolute URL that a text is, in lower case, or none if it is
not one. -/
abbrev UrlReader := String → Option String

/-- Whether a text is a URL of the web. -/
def UrlReader.acceptsWeb (read : UrlReader) (url : String) : Bool :=
  match read url with
  | some scheme => scheme = "http" || scheme = "https"
  | none => false

/-- Refuses settings of which one does not pass, naming the first with its value. -/
def refuseFirst (passes : α → Bool) (fault : String → α → ConfigError)
    (settings : List (String × α)) : Except ConfigError Unit :=
  match settings.find? fun f => !passes f.2 with
  | some (name, value) => .error (fault name value)
  | none => .ok ()

/-- Refuses addresses that are not of the web, naming the first. -/
def checkEndpoints (read : UrlReader) (e : Endpoints) : Except ConfigError Unit :=
  refuseFirst read.acceptsWeb .invalidEndpoint e.named

/-- Refuses periods that cannot be kept to, naming the first. -/
def checkIntervals (r : Schedule) : Except ConfigError Unit :=
  refuseFirst isInterval .invalidInterval r.named

/-- Refuses configurations with a bad address or, where those are good, a bad period. -/
def checkConfig (read : UrlReader) (c : Config) : Except ConfigError Unit := do
  checkEndpoints read c.endpoints
  checkIntervals c.schedule

/-! ## The file -/

/-- The name of the configuration file. -/
def configFile : String := "config.json"

/-- The bytes of the file that holds a configuration. -/
def Config.toBytes (c : Config) : List UInt8 :=
  Text.Utf8.encode c.toJson.pretty

/-- The configuration that the bytes of a file hold. -/
def configOfBytes (read : UrlReader) (bytes : List UInt8) : Except ConfigError Config :=
  match Text.Utf8.decode? bytes with
  | none => .error .disk
  | some text =>
    match (Json.parse? text).bind Config.ofJson? with
    | none => .error .malformed
    | some c => (checkConfig read c).map fun _ => c

/-- Writes the configuration file in place. -/
def saveConfig (disk : Disk) (c : Config) : Except ConfigError Unit × Disk :=
  match disk with
  | none => (.error .disk, none)
  | some folder =>
    if folder.isFolder configFile then (.error .disk, some folder)
    else (.ok (), some (folder.put configFile (.file c.toBytes)))

/-- Reads the configuration file. If there is none, the defaults hold and are written where that is
possible. -/
def loadConfig (read : UrlReader) (disk : Disk) : Except ConfigError Config × Disk :=
  match disk.bind (·.get? configFile) with
  | none => (.ok {}, (saveConfig disk {}).2)
  | some (.folder _) => (.error .disk, disk)
  | some (.file bytes) => (configOfBytes read bytes, disk)

end SessionSync
