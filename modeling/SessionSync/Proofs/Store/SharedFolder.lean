import SessionSync.Proofs.Store.Commands

/-!
# A store and commands on one directory

A process holds a store for as long as it runs, and commands about accounts come and go, each with a
store of its own, on the same directory. A command reads the file before it writes it; the process
writes from memory, and so writes over what a command has changed since the process last read.

* `Tracks.run` — what the file holds for an account that a command has changed, by induction on the
  events.
* `edit_after_sync` — what the process holds for it once it has read the file again: the change,
  unless the process has written in between.
* `edit_overwritten` — a change that is lost.
-/

namespace SessionSync

open Store
open CommandLine (AccountCommand runAccountCommand)

/-! ## A process beside commands -/

/-- The store of a process and the directory that it shares. -/
structure Shared where
  /-- The store. -/
  store : Store
  /-- The directory. -/
  disk : Disk

/-- What happens to a shared directory. -/
inductive SharedEvent
  /-- The process does something with its store. -/
  | own (op : StoreOp)
  /-- A command is run. -/
  | command (now : Int64) (c : AccountCommand)

namespace Shared

/-- What an event leads to. -/
def react (w : Shared) : SharedEvent → Shared
  | .own op => ⟨(op.run w.store w.disk .none).1, (op.run w.store w.disk .none).2⟩
  | .command now c => ⟨w.store, (runAccountCommand w.disk now c).2⟩

/-- What events lead to. -/
def run (w : Shared) (events : List SharedEvent) : Shared :=
  events.foldl react w

/-- A process that has just loaded what is in a directory. -/
def opened (disk : Disk) : Shared :=
  ⟨(Store.empty.load disk .none).store, (Store.empty.load disk .none).disk⟩

/-- Whether the process writes into the account file at one of the events. -/
def writes (w : Shared) : List SharedEvent → Bool
  | [] => false
  | e :: events =>
    (match e with
      | .own op => (op.written? w.store).isSome
      | .command _ _ => false) || (w.react e).writes events

/-- The process does not read the account file at any of the events, and no command changes an
account. -/
def Quiet (w : Shared) (a : AccountId) : List SharedEvent → Prop
  | [] => True
  | e :: events =>
    (match e with
      | .own op => op.reads = false
      | .command now c => ∀ v, ¬ Edits w.disk now c a v) ∧ (w.react e).Quiet a events

/-- The directory can be used, and the accounts of the store are in normal form. -/
structure Sound (w : Shared) : Prop where
  usable : Usable w.disk
  normal : w.store.Normal

theorem sound_load (s : Store) {disk : Disk} (h : Usable disk) :
    Sound ⟨(s.load disk .none).store, (s.load disk .none).disk⟩ := by
  obtain ⟨book, hbook, -, -, hstore, husable⟩ := s.load_usable h
  refine ⟨husable, ?_⟩
  show (s.load disk .none).store.Normal
  rw [hstore]
  exact ⟨normal_catalogOf hbook, hbook.pending⟩

theorem sound_written {s : Store} {disk : Disk} (h : Usable disk) (hs : s.Normal) :
    Sound ⟨s, (s.save disk .none).2⟩ :=
  ⟨(s.save_usable h hs).2.1, hs⟩

variable {w : Shared}

/-- An operation that neither reads nor writes the file changes nothing. -/
theorem react_of_idle {op : StoreOp} (hreads : op.reads = false)
    (hwritten : op.written? w.store = none) : w.react (.own op) = w := by
  have hrun := op.run_of_not_reads hreads w.store w.disk .none
  rw [hwritten] at hrun
  show Shared.mk (op.run w.store w.disk .none).1 (op.run w.store w.disk .none).2 = w
  rw [hrun]

/-- An operation that writes the file saves the whole store. -/
theorem react_of_written {op : StoreOp} {s : Store} (hreads : op.reads = false)
    (hwritten : op.written? w.store = some s) :
    w.react (.own op) = ⟨s, (s.save w.disk .none).2⟩ := by
  have hrun := op.run_of_not_reads hreads w.store w.disk .none
  rw [hwritten] at hrun
  show Shared.mk (op.run w.store w.disk .none).1 (op.run w.store w.disk .none).2 = _
  rw [hrun]

theorem Sound.sync (h : Sound w) :
    Sound ⟨(w.store.sync w.disk).store, (w.store.sync w.disk).disk⟩ := by
  refine ⟨?_, normal_sync h.normal w.disk⟩
  show Usable (w.store.sync w.disk).disk
  rcases readBook_usable h.usable with ⟨book, hbook⟩ | hbad
  · rw [(w.store.sync_of_readBook hbook).2.1]
    exact h.usable
  · rw [w.store.sync_of_error hbad]
    exact h.usable

theorem Sound.react (h : Sound w) (e : SharedEvent) : Sound (w.react e) := by
  cases e with
  | command now c =>
    refine ⟨?_, h.normal⟩
    obtain ⟨-, -, -, -, -, husable⟩ := Store.empty.load_usable h.usable
    rcases command_effect h.usable now c with ⟨a, v, -, hsaved⟩ | ⟨-, hkeep⟩
    · exact (hsaved.readable husable).1
    · show Usable (runAccountCommand w.disk now c).2
      rw [hkeep]
      exact husable
  | own op =>
    by_cases hreads : op.reads = true
    · cases op with
      | load => exact sound_load w.store h.usable
      | sync => exact h.sync
      | upsert | revoke | adopt | token => cases hreads
    · rw [Bool.not_eq_true] at hreads
      cases hwritten : op.written? w.store with
      | none =>
        rw [react_of_idle hreads hwritten]
        exact h
      | some s =>
        rw [react_of_written hreads hwritten]
        exact sound_written h.usable (StoreOp.normal_written h.normal hwritten)

theorem Sound.run (h : Sound w) (events : List SharedEvent) : Sound (w.run events) := by
  induction events generalizing w with
  | nil => exact h
  | cons e events ih => exact ih (h.react e)

/-! ## A change on its way -/

/-- What is on file for an account once a command has changed it: the change, or what the process
has written over it from memory. -/
structure Tracks (w : Shared) (a : AccountId) (v : Option String) (written : Bool) : Prop where
  sound : Sound w
  readable : Readable w.disk
  onFile : tokenOnFile w.disk a = if written then w.store.tokenOf a else v

variable {a : AccountId} {v : Option String} {written : Bool}

/-- A command about another account leaves the change where it is. -/
theorem Tracks.command (ha : a.isEmpty = false) (h : Tracks w a v written) {now : Int64}
    {c : AccountCommand} (hedit : ∀ u, ¬ Edits w.disk now c a u) :
    Tracks (w.react (.command now c)) a v written := by
  obtain ⟨hreadable, htoken⟩ := tokenOnFile_of_not_edits h.readable ha hedit
  exact ⟨h.sound.react _, hreadable, htoken.trans h.onFile⟩

/-- An operation of the process leaves the change where it is, or writes over it. -/
theorem Tracks.own (ha : a.isEmpty = false) (h : Tracks w a v written) {op : StoreOp}
    (hreads : op.reads = false) :
    Tracks (w.react (.own op)) a v ((op.written? w.store).isSome || written) := by
  cases hwritten : op.written? w.store with
  | none =>
    rw [react_of_idle hreads hwritten, Option.isSome_none, Bool.false_or]
    exact h
  | some s =>
    have hs : s.Normal := StoreOp.normal_written h.sound.normal hwritten
    obtain ⟨-, husable, hread⟩ := s.save_usable h.sound.usable hs
    rw [react_of_written hreads hwritten]
    exact ⟨sound_written h.sound.usable hs, ⟨husable, _, hread⟩,
      tokenOnFile_save h.sound.usable hs ha⟩

/-- What the file holds for the account in the course of a quiet run. -/
theorem Tracks.run (ha : a.isEmpty = false) (h : Tracks w a v written)
    {events : List SharedEvent} (hquiet : w.Quiet a events) :
    Tracks (w.run events) a v (w.writes events || written) := by
  induction events generalizing w written with
  | nil => exact h
  | cons e events ih =>
    obtain ⟨he, hrest⟩ := hquiet
    cases e with
    | command now c =>
      have hnext := ih (h.command ha he) hrest
      rwa [Shared.writes, Bool.false_or]
    | own op =>
      have hnext := ih (h.own ha he) hrest
      rw [Shared.writes, Bool.or_assoc, Bool.or_left_comm]
      exact hnext

end Shared

/-! ## What becomes of a change -/

/-- A process has opened a directory and done whatever it did beside whatever commands; then a
command changes an account, and until the process reads the file again no command changes that
account. When the process then syncs, the sync succeeds, and the process holds for the account what
the command gave it, unless it has written the file in between: then it goes on holding what it
held. So the change arrives exactly if the process has not written, or has by itself come to hold
what counts as the change: the same refresh token, or one that takes its place. -/
theorem edit_after_sync (folder : Folder) (hfile : folder.isFolder accountFile = false)
    (earlier : List SharedEvent) (now : Int64) (c : AccountCommand) (a : AccountId)
    (v : Option String)
    (hedit : Edits ((Shared.opened (some folder)).run earlier).disk now c a v)
    (later : List SharedEvent)
    (hquiet : (((Shared.opened (some folder)).run earlier).react (.command now c)).Quiet a later) :
    let changed := ((Shared.opened (some folder)).run earlier).react (.command now c)
    let w := changed.run later
    let synced := w.store.sync w.disk
    (∃ n, synced.result = .ok n)
      ∧ synced.store.tokenOf a = (if changed.writes later then w.store.tokenOf a else v)
      ∧ ∀ kept : Option String → Prop, kept v →
        (kept (synced.store.tokenOf a) ↔
          changed.writes later = false ∨ kept (w.store.tokenOf a)) := by
  intro changed w synced
  have hopened : Shared.Sound (Shared.opened (some folder)) :=
    Shared.sound_load Store.empty ⟨folder, rfl, hfile⟩
  have hsound := hopened.run earlier
  obtain ⟨ha, hreadable, honFile⟩ := tokenOnFile_edit hsound.usable hedit
  have hchanged : Shared.Tracks changed a v false :=
    ⟨hsound.react (.command now c), hreadable, honFile⟩
  have htracks := hchanged.run ha hquiet
  rw [Bool.or_false] at htracks
  obtain ⟨book, hbook⟩ := htracks.readable.2
  have htoken : synced.store.tokenOf a = if changed.writes later then w.store.tokenOf a else v :=
    (w.store.tokenOf_sync hbook a).trans htracks.onFile
  refine ⟨(w.store.sync_of_readBook hbook).1, htoken, fun kept hkept => ?_⟩
  rw [htoken]
  cases changed.writes later with
  | false => exact iff_of_true hkept (.inl rfl)
  | true => exact ⟨fun h => .inr h, fun h => h.resolve_left Bool.noConfusion⟩

theorem exists_ok_of_isOk {r : Except ε α} (h : r.isOk = true) : ∃ x, r = .ok x := by
  cases r with
  | error e => cases h
  | ok x => exact ⟨x, rfl⟩

/-- A process holds two accounts when a command drops one of them; then it asks for an access token
of the other, and goes on holding both. -/
theorem removal_undone_by_refresh :
    let grant : Grant := ⟨"access", 3600, "Bearer", none⟩
    let earlier : List SharedEvent :=
      [.command 0 (.add "x" "old"), .command 0 (.add "y" "own"), .own .load]
    let opened := (Shared.opened (some [])).run earlier
    let changed := opened.react (.command 0 (.remove "x"))
    let w := changed.react (.own (.token 0 0 "y" fun _ => .ok grant))
    tokenOnFile changed.disk ⟨"x"⟩ = none
      ∧ (w.store.sync w.disk).store.tokenOf ⟨"x"⟩ = some "old" := by
  intro grant earlier opened changed w
  have hedit : Edits opened.disk 0 (.remove "x") ⟨"x"⟩ none :=
    ⟨by decide +kernel, exists_ok_of_isOk (by decide +kernel)⟩
  have hlaw := edit_after_sync [] (by decide) earlier 0 (.remove "x") ⟨"x"⟩ none hedit
    [.own (.token 0 0 "y" fun _ => .ok grant)] ⟨rfl, trivial⟩
  have hwrites : changed.writes [.own (.token 0 0 "y" fun _ => .ok grant)] = true := by
    decide +kernel
  have hheld : w.store.tokenOf ⟨"x"⟩ = some "old" := by decide +kernel
  refine ⟨by decide +kernel, hlaw.2.1.trans ?_⟩
  rw [if_pos hwrites]
  exact hheld

/-- A change does not always arrive: a command adds an account, the process notes another account
that waits for credentials, and with its next sync it has not heard of the one that was added. -/
theorem edit_overwritten :
    let opened := Shared.opened (some [])
    let changed := opened.react (.command 0 (.add "x" "edit"))
    let w := changed.react (.own (.adopt 0 "y" 1))
    Edits opened.disk 0 (.add "x" "edit") ⟨"x"⟩ (some "edit")
      ∧ (∃ n, (w.store.sync w.disk).result = .ok n)
      ∧ (w.store.sync w.disk).store.tokenOf ⟨"x"⟩ = none := by
  intro opened changed w
  exact ⟨⟨by decide +kernel, exists_ok_of_isOk (by decide +kernel)⟩,
    exists_ok_of_isOk (by decide +kernel), by decide +kernel⟩

end SessionSync
