import SessionSync.Config.File
import SessionSync.Simulation.Stimulus

/-!
# Keeping the session in step

What a process does that keeps running: it opens the credential store, begins to supervise, loads
the account file, and from then on reads it again and again and makes passes until it is told to
stop. The session is out of reach here, so that every pass ends without a change.
-/

namespace SessionSync

/-- The account that is signed in from the start; a blank name counts as none. -/
def Config.profile (c : Config) : Profile :=
  ⟨match c.primaryAccount with
    | some name => if Text.isBlank name.toList then none else some (.ofString name)
    | none => none⟩

namespace World

/-- A session that cannot be reached. -/
def outOfReach : ScriptedSession :=
  { listAnswer := .error (.network "session unreachable")
    infoAnswer := .error (.network "session unreachable") }

/-- The world of a process at a time, with its loop running. The account file is read only after the
supervisor has begun to listen, so that it hears of it. -/
def opened (disk : Disk) (c : Config) (now : Int64) : World :=
  let w := World.new (.stored .empty disk) true c.profile now
    (some (c.schedule.enabled, c.schedule.interval.toNat))
  ({ w with session := outOfReach }.startLoop).1

/-- A process begins to keep the session in step, unless the account file cannot be read. -/
def serving (disk : Disk) (c : Config) (now : Int64) : Except FileError World × Disk :=
  let (w, result) := (opened disk c now).onStore fun s disk => s.load disk .none
  let disk' :=
    match w.tokens with
    | .stored _ disk => disk
    | .scripted _ => disk
  match result with
  | some (.error e) => (.error e, disk')
  | _ => (.ok (w.startSync c.schedule.accountSyncInterval.toNat).settle, disk')

/-- The directory of a world. -/
def disk (w : World) : Disk :=
  match w.tokens with
  | .stored _ disk => disk
  | .scripted _ => none

/-- A process that is told to stop. -/
def stopped (w : World) : World :=
  w.stopSync.shutdown

end World

end SessionSync
