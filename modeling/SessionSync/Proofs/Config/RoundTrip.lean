import SessionSync.Config.File
import SessionSync.Proofs.Store.BookRoundTrip
import SessionSync.Url.Basic

/-!
# The configuration file is read as it was written

A configuration comes back from its bytes as it was, whatever its texts and numbers are, so reading
a file that was saved fails only where the configuration itself is refused. Which texts are URLs
makes no difference to that: everything here holds for every reader of URLs.

* `Config.ofJson?_toJson` — the records, one lemma for each.
* `configOfBytes_toBytes` — the bytes: what is left is the check.
* `refuseFirst_eq_ok_iff`, `refuseFirst_eq_error_iff` — settings checked one after the other.
* `checkConfig_eq_ok_iff`, `checkConfig_eq_error_iff` — the check: what it accepts, and what it
  says of the rest.
* `loadConfig_of_saved` — the file.
-/

namespace SessionSync

/-! ## Records -/

namespace Json

theorem toBool?_bool (b : Bool) : (bool b).toBool? = some b := rfl

theorem written_bool (b : Bool) : Written (bool b) := trivial

end Json

namespace Schedule

theorem written_toJson (r : Schedule) : r.toJson.Written := by
  refine Json.written_ofFields ?_
  simp [Json.written_bool, Json.written_ofInt]

theorem ofJson?_toJson (r : Schedule) : ofJson? r.toJson = some r := by
  have hslots : r.toJson.slots? ["enabled", "interval_secs", "account_sync_secs"] =
      some [some (.bool r.enabled), some (.ofInt r.intervalSecs.toNat),
        some (.ofInt r.accountSyncSecs.toNat)] := rfl
  simp [ofJson?, hslots, Json.withDefault, Json.toBool?_bool, Json.toUInt64?_ofInt]

end Schedule

namespace Endpoints

theorem written_toJson (e : Endpoints) : e.toJson.Written := by
  refine Json.written_ofFields fun f hf => ?_
  obtain ⟨g, -, rfl⟩ := List.mem_map.1 hf
  exact Json.written_ofString g.2

theorem ofJson?_toJson (e : Endpoints) : ofJson? e.toJson = some e := by
  have hslots : e.toJson.slots? ["list_accounts_url", "user_info_url", "merge_session_url",
      "logout_url", "token_url"] =
      some [some (.ofString e.listAccounts), some (.ofString e.userInfo),
        some (.ofString e.mergeSession), some (.ofString e.logout), some (.ofString e.token)] := rfl
  simp [ofJson?, named, hslots, Json.withDefault, Json.toText?_ofString]

end Endpoints

namespace ClientIdentity

theorem written_toJson (c : ClientIdentity) : c.toJson.Written := by
  refine Json.written_ofFields ?_
  simp [Json.written_ofString]

theorem ofJson?_toJson (c : ClientIdentity) : ofJson? c.toJson = some c := by
  have hslots : c.toJson.slots? ["client_id", "client_secret"] =
      some [some (.ofString c.id), some (.ofString c.secret)] := rfl
  simp [ofJson?, hslots, Json.withDefault, Json.toText?_ofString]

end ClientIdentity

namespace Config

theorem written_toJson (c : Config) : c.toJson.Written := by
  refine Json.written_ofFields fun e he => ?_
  rcases List.mem_append.1 he with he | he
  · simp only [List.mem_cons, List.not_mem_nil, or_false] at he
    rcases he with rfl | rfl | rfl | rfl | rfl
    · exact Json.written_ofString c.logLevel
    · exact c.schedule.written_toJson
    · exact c.endpoints.written_toJson
    · exact Json.written_ofInt c.httpTimeoutSecs.toNat
    · exact c.client.written_toJson
  · cases hprimary : c.primaryAccount with
    | none => simp [hprimary] at he
    | some a =>
      rw [hprimary, List.mem_singleton] at he
      subst he
      exact Json.written_ofString a

/-- A configuration is read as it was written. -/
theorem ofJson?_toJson (c : Config) : ofJson? c.toJson = some c := by
  obtain ⟨logLevel, schedule, endpoints, httpTimeoutSecs, client, primaryAccount⟩ := c
  cases primaryAccount with
  | none =>
    have hslots : (toJson ⟨logLevel, schedule, endpoints, httpTimeoutSecs, client, none⟩).slots?
        ["log_level", "reconcile", "endpoints", "http_timeout_secs", "oauth_client",
          "primary_account"] =
        some [some (.ofString logLevel), some schedule.toJson, some endpoints.toJson,
          some (.ofInt httpTimeoutSecs.toNat), some client.toJson, none] := rfl
    simp [ofJson?, hslots, Json.withDefault, Json.optional, Json.toText?_ofString,
      Json.toUInt64?_ofInt, Schedule.ofJson?_toJson, Endpoints.ofJson?_toJson,
      ClientIdentity.ofJson?_toJson]
  | some a =>
    have hslots : (toJson ⟨logLevel, schedule, endpoints, httpTimeoutSecs, client, some a⟩).slots?
        ["log_level", "reconcile", "endpoints", "http_timeout_secs", "oauth_client",
          "primary_account"] =
        some [some (.ofString logLevel), some schedule.toJson, some endpoints.toJson,
          some (.ofInt httpTimeoutSecs.toNat), some client.toJson, some (.ofString a)] := rfl
    have hprimary : Json.toOption? Json.toText? (.ofString a) = some (some a) := rfl
    simp [ofJson?, hslots, Json.withDefault, Json.optional, hprimary, Json.toText?_ofString,
      Json.toUInt64?_ofInt, Schedule.ofJson?_toJson, Endpoints.ofJson?_toJson,
      ClientIdentity.ofJson?_toJson]

end Config

/-- A configuration comes back from its bytes, and what is left is the check. -/
theorem configOfBytes_toBytes (read : UrlReader) (c : Config) :
    configOfBytes read c.toBytes = (checkConfig read c).map fun _ => c := by
  unfold configOfBytes Config.toBytes
  rw [Text.Utf8.decode?_encode]
  simp only [Json.parse?_pretty c.written_toJson, Option.bind_some, Config.ofJson?_toJson]

/-! ## The check -/

/-- A text is a URL, and its scheme is that of the web, plain or encrypted. -/
def UrlReader.OnWeb (read : UrlReader) (url : String) : Prop :=
  read url = some "http" ∨ read url = some "https"

theorem UrlReader.acceptsWeb_iff (read : UrlReader) (url : String) :
    read.acceptsWeb url = true ↔ read.OnWeb url := by
  unfold acceptsWeb OnWeb
  cases read url <;> simp

/-- Every address is one of the web. -/
structure Endpoints.OnWeb (e : Endpoints) (read : UrlReader) : Prop where
  listAccounts : read.OnWeb e.listAccounts
  userInfo : read.OnWeb e.userInfo
  mergeSession : read.OnWeb e.mergeSession
  logout : read.OnWeb e.logout
  token : read.OnWeb e.token

theorem Endpoints.onWeb_iff (e : Endpoints) (read : UrlReader) :
    e.OnWeb read ↔ ∀ f ∈ e.named, read.OnWeb f.2 := by
  simp only [named, List.forall_mem_cons]
  exact ⟨fun ⟨h₁, h₂, h₃, h₄, h₅⟩ => ⟨h₁, h₂, h₃, h₄, h₅, List.forall_mem_nil _⟩,
    fun ⟨h₁, h₂, h₃, h₄, h₅, _⟩ => ⟨h₁, h₂, h₃, h₄, h₅⟩⟩

/-- Both periods last from one second to one day. -/
structure Schedule.Kept (r : Schedule) : Prop where
  interval : 1 ≤ r.intervalSecs.toNat ∧ r.intervalSecs.toNat ≤ 86400
  accountSync : 1 ≤ r.accountSyncSecs.toNat ∧ r.accountSyncSecs.toNat ≤ 86400

theorem isInterval_iff (secs : UInt64) :
    isInterval secs = true ↔ 1 ≤ secs.toNat ∧ secs.toNat ≤ 86400 := by
  have hzero : secs ≠ 0 ↔ 1 ≤ secs.toNat := by
    rw [ne_eq, ← UInt64.toNat_inj]
    exact Nat.pos_iff_ne_zero.symm
  have hday : secs ≤ Schedule.maxIntervalSecs ↔ secs.toNat ≤ 86400 := UInt64.le_iff_toNat_le
  simp only [isInterval, Bool.and_eq_true, decide_eq_true_eq, hzero, hday]

theorem Schedule.kept_iff (r : Schedule) :
    r.Kept ↔ ∀ f ∈ r.named, 1 ≤ f.2.toNat ∧ f.2.toNat ≤ 86400 := by
  simp only [named, List.forall_mem_cons]
  exact ⟨fun ⟨h₁, h₂⟩ => ⟨h₁, h₂, List.forall_mem_nil _⟩, fun ⟨h₁, h₂, _⟩ => ⟨h₁, h₂⟩⟩

/-- A setting is at fault, and those before it are good. -/
def FirstFault (good : α → Prop) (settings : List (String × α)) (name : String) (value : α) :
    Prop :=
  ∃ before after, settings = before ++ (name, value) :: after ∧ ¬ good value
    ∧ ∀ f ∈ before, good f.2

section

variable {passes : α → Bool} {good : α → Prop} (hpasses : ∀ x, passes x = true ↔ good x)
  (fault : String → α → ConfigError) (settings : List (String × α))
include hpasses

theorem refuseFirst_eq_ok_iff :
    refuseFirst passes fault settings = .ok () ↔ ∀ f ∈ settings, good f.2 := by
  have hnone : (settings.find? fun f => !passes f.2) = none ↔ ∀ f ∈ settings, good f.2 := by
    rw [List.find?_eq_none]
    simp only [Bool.not_eq_true', Bool.not_eq_false, hpasses]
  rw [← hnone, refuseFirst]
  cases settings.find? fun f => !passes f.2 <;> simp

theorem find?_eq_some_iff_firstFault {name : String} {value : α} :
    (settings.find? fun f => !passes f.2) = some (name, value) ↔
      FirstFault good settings name value := by
  rw [List.find?_eq_some_iff_append]
  simp only [Bool.not_eq_true', Bool.not_not, ← Bool.not_eq_true, hpasses]
  exact ⟨fun ⟨hbad, before, after, heq, hgood⟩ => ⟨before, after, heq, hbad, hgood⟩,
    fun ⟨before, after, heq, hbad, hgood⟩ => ⟨hbad, before, after, heq, hgood⟩⟩

theorem refuseFirst_eq_error_iff (err : ConfigError) :
    refuseFirst passes fault settings = .error err ↔
      ∃ name value, err = fault name value ∧ FirstFault good settings name value := by
  simp only [← find?_eq_some_iff_firstFault hpasses]
  unfold refuseFirst
  cases settings.find? fun f => !passes f.2 with
  | none => simp
  | some f =>
    exact ⟨fun h => ⟨f.1, f.2, (Except.error.inj h).symm, rfl⟩,
      fun ⟨_, _, herr, hf⟩ => by rw [herr, Option.some.inj hf]⟩

end

/-- The first address that is not one of the web. -/
def Endpoints.FirstBad (e : Endpoints) (read : UrlReader) : String → String → Prop :=
  FirstFault read.OnWeb e.named

/-- The first period that is zero or longer than a day. -/
def Schedule.FirstBad (r : Schedule) : String → UInt64 → Prop :=
  FirstFault (fun secs => 1 ≤ secs.toNat ∧ secs.toNat ≤ 86400) r.named

section

variable (read : UrlReader)

theorem checkEndpoints_eq_ok_iff (e : Endpoints) :
    checkEndpoints read e = .ok () ↔ e.OnWeb read := by
  rw [e.onWeb_iff]
  exact refuseFirst_eq_ok_iff read.acceptsWeb_iff _ e.named

theorem checkEndpoints_eq_error_iff (e : Endpoints) (err : ConfigError) :
    checkEndpoints read e = .error err ↔
      ∃ name url, err = .invalidEndpoint name url ∧ e.FirstBad read name url :=
  refuseFirst_eq_error_iff read.acceptsWeb_iff _ e.named err

theorem checkIntervals_eq_ok_iff (r : Schedule) : checkIntervals r = .ok () ↔ r.Kept := by
  rw [r.kept_iff]
  exact refuseFirst_eq_ok_iff isInterval_iff _ r.named

theorem checkIntervals_eq_error_iff (r : Schedule) (err : ConfigError) :
    checkIntervals r = .error err ↔
      ∃ name secs, err = .invalidInterval name secs ∧ r.FirstBad name secs :=
  refuseFirst_eq_error_iff isInterval_iff _ r.named err

theorem checkConfig_eq_ok_iff (c : Config) :
    checkConfig read c = .ok () ↔ c.endpoints.OnWeb read ∧ c.schedule.Kept := by
  rw [← checkEndpoints_eq_ok_iff, ← checkIntervals_eq_ok_iff, checkConfig]
  cases checkEndpoints read c.endpoints <;> simp [Bind.bind, Except.bind]

/-- The periods are looked at when the addresses are good. -/
theorem checkConfig_eq_error_iff (c : Config) (err : ConfigError) :
    checkConfig read c = .error err ↔ checkEndpoints read c.endpoints = .error err
      ∨ (c.endpoints.OnWeb read ∧ checkIntervals c.schedule = .error err) := by
  rw [← checkEndpoints_eq_ok_iff, checkConfig]
  cases checkEndpoints read c.endpoints <;> simp [Bind.bind, Except.bind]

/-! ## The file -/

theorem loadConfig_of_file {folder : Folder} {bytes : List UInt8}
    (h : folder.get? configFile = some (.file bytes)) :
    loadConfig read (some folder) = (configOfBytes read bytes, some folder) := by
  simp only [loadConfig, Option.bind_some, h]

end

/-- A save that succeeds leaves the bytes of the configuration in the file. -/
theorem get?_of_saveConfig {c : Config} {disk disk' : Disk}
    (h : saveConfig disk c = (.ok (), disk')) :
    ∃ folder, disk' = some folder ∧ folder.get? configFile = some (.file c.toBytes) := by
  cases disk with
  | none => simp [saveConfig] at h
  | some folder =>
    by_cases hfolder : folder.isFolder configFile = true
    · simp [saveConfig, hfolder] at h
    · simp only [saveConfig, hfolder, Bool.false_eq_true, if_false, Prod.mk.injEq, true_and] at h
      exact ⟨_, h.symm, by rw [Folder.get?_put, if_pos rfl]⟩

/-- **A saved configuration is read back, unless it is refused.** Whatever the reader of URLs makes
of a text: once a configuration has been saved, reading gives it back exactly if all five addresses
are URLs of the web and both periods last from a second to a day. Otherwise the first bad address is
named or, if there is none, the first bad period with its value. The file can always be read and
understood, and reading leaves it alone. -/
theorem loadConfig_of_saved (read : UrlReader) {c : Config} {disk disk' : Disk}
    (hsaved : saveConfig disk c = (.ok (), disk')) :
    (loadConfig read disk').2 = disk'
      ∧ ((loadConfig read disk').1 = .ok c ↔ c.endpoints.OnWeb read ∧ c.schedule.Kept)
      ∧ (∀ name url, (loadConfig read disk').1 = .error (.invalidEndpoint name url) ↔
          c.endpoints.FirstBad read name url)
      ∧ (∀ name secs, (loadConfig read disk').1 = .error (.invalidInterval name secs) ↔
          c.endpoints.OnWeb read ∧ c.schedule.FirstBad name secs)
      ∧ (loadConfig read disk').1 ≠ .error .disk ∧ (loadConfig read disk').1 ≠ .error .malformed
      ∧ ∀ c', (loadConfig read disk').1 = .ok c' → c' = c := by
  obtain ⟨folder, rfl, hfile⟩ := get?_of_saveConfig hsaved
  rw [loadConfig_of_file read hfile, configOfBytes_toBytes]
  have hok : (checkConfig read c).map (fun _ => c) = .ok c ↔ checkConfig read c = .ok () := by
    cases checkConfig read c <;> simp [Except.map]
  have herror : ∀ err, (checkConfig read c).map (fun _ => c) = .error err ↔
      checkConfig read c = .error err := by
    intro err
    cases checkConfig read c <;> simp [Except.map]
  simp only [ne_eq, hok, herror, checkConfig_eq_ok_iff, checkConfig_eq_error_iff,
    checkEndpoints_eq_error_iff, checkIntervals_eq_error_iff]
  refine ⟨trivial, trivial, fun name url => ?_, fun name secs => ?_, by simp, by simp, ?_⟩
  · simp [and_assoc]
  · simp [and_assoc]
  · cases checkConfig read c <;> simp [Except.map, eq_comm]

/-- A configuration with odd texts that is refused for a period in spite of good addresses. -/
def lateConfig : Config where
  logLevel := "a \"quoted\" \\ line\n\u0001 \u263a"
  schedule := { enabled := false, intervalSecs := 86400, accountSyncSecs := 18446744073709551615 }
  endpoints := ⟨"http://h", "http://h", "http://h", "http://h", "http://h"⟩
  httpTimeoutSecs := 0
  client := { id := "", secret := "\t/\u007f" }
  primaryAccount := some " A@B "

/-- An odd configuration is understood, and what is wrong with it is named. -/
theorem loadConfig_of_saved_late :
    ∃ disk', saveConfig (some []) lateConfig = (.ok (), disk')
      ∧ (loadConfig Url.webScheme? disk').1 =
        .error (.invalidInterval "account_sync_secs" 18446744073709551615) := by
  have hsaved : saveConfig (some []) lateConfig =
      (.ok (), some [(configFile, .file lateConfig.toBytes)]) := rfl
  refine ⟨_, hsaved, ((loadConfig_of_saved Url.webScheme? hsaved).2.2.2.1 _ _).2 ⟨?_, ?_⟩⟩
  · have hweb : UrlReader.OnWeb Url.webScheme? "http://h" := .inl (by decide +kernel)
    exact ⟨hweb, hweb, hweb, hweb, hweb⟩
  · exact ⟨[("interval_secs", 86400)], [], rfl, by decide, by decide⟩

end SessionSync
