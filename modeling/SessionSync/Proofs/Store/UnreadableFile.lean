import Mathlib.Logic.Function.Basic
import SessionSync.Proofs.Store.FailedChanges
import SessionSync.Store.AccessToken

/-!
# A file that cannot be read

An account file that holds no book is moved aside by a load, if it can be moved, and left in place
by a sync, but every write replaces it: setting a refresh token, dropping one, noting an account or
keeping an answer puts what the store has in memory in its place, whatever was there. So its bytes
survive in the directory exactly if some store moves it aside before any store writes.

* `SharedDisk` — stores that share a data directory, and what they do there.
* `disk_react` — everything that this can come to for the directory.
* `InPlace`, `Aside` — where the bytes of the file can be found.
* `SharedDisk.fate` — what becomes of them, and `leaves_run` for the directory.
* `unreadable_file_fate` — the main result, with `unreadable_file_overwritten` for a write before
  any load.
-/

namespace SessionSync

/-! ## Stores in one directory -/

/-- Stores that share a data directory. -/
structure SharedDisk where
  /-- The stores. -/
  stores : Nat → Store
  /-- The data directory. -/
  disk : Disk

/-- What one of the stores does. -/
inductive DiskStep
  /-- It does something at once. -/
  | own (i : Nat) (op : StoreOp) (fault : WriteFault)
  /-- It takes an answer of the token endpoint. -/
  | answer (i : Nat) (now : Int64) (account : AccountId) (grant : Grant) (fault : WriteFault)
  /-- It is replaced by a store that has read nothing yet. -/
  | renew (i : Nat)

/-- Whether a step is a load that can move the account file aside. -/
def DiskStep.loads : DiskStep → Bool
  | own _ .load fault => fault ≠ .rename
  | _ => false

/-- What a step writes, and what goes wrong with it: the whole store as it is then, or nothing. -/
def DiskStep.written? (w : SharedDisk) : DiskStep → Option (Store × WriteFault)
  | own i op fault => (op.written? (w.stores i)).map fun s => (s, fault)
  | answer i now a g fault => ((w.stores i).settled? now a g).map fun s => (s, fault)
  | renew _ => none

/-- Whether a step replaces the account file. -/
def DiskStep.replaces (w : SharedDisk) (e : DiskStep) : Bool :=
  match e.written? w with
  | some (s, fault) => (s.save w.disk fault).1.isOk
  | none => false

namespace SharedDisk

/-- What a step leads to. -/
def react (w : SharedDisk) : DiskStep → SharedDisk
  | .own i op fault =>
    let (s, disk) := op.run (w.stores i) w.disk fault
    ⟨Function.update w.stores i s, disk⟩
  | .answer i now a g fault =>
    let (s, disk) := (w.stores i).settle w.disk now a g fault
    ⟨Function.update w.stores i s, disk⟩
  | .renew i => ⟨Function.update w.stores i .empty, w.disk⟩

/-- Steps happen one after the other. -/
def run (w : SharedDisk) (steps : List DiskStep) : SharedDisk :=
  steps.foldl react w

/-- The accounts of all stores are in normal form. -/
def Normal (w : SharedDisk) : Prop :=
  ∀ i, (w.stores i).Normal

variable {w : SharedDisk}

theorem Normal.update (h : w.Normal) {s : Store} (hs : s.Normal) (i : Nat) (disk : Disk) :
    Normal ⟨Function.update w.stores i s, disk⟩ := by
  intro j
  show (Function.update w.stores i s j).Normal
  by_cases hj : j = i
  · rw [hj, Function.update_self]
    exact hs
  · rw [Function.update_of_ne hj]
    exact h j

theorem Normal.react (h : w.Normal) (e : DiskStep) : (w.react e).Normal := by
  cases e with
  | own i op fault => exact h.update (op.normal_run (h i) w.disk fault) i _
  | renew i => exact h.update Store.normal_empty i _
  | answer i now a g fault => exact h.update (Store.normal_settle (h i) w.disk now a g fault) i _

/-- What a step writes is in normal form. -/
theorem Normal.written (h : w.Normal) {e : DiskStep} {s : Store} {fault : WriteFault}
    (hw : e.written? w = some (s, fault)) : s.Normal := by
  cases e with
  | renew i => cases hw
  | own i op fault' =>
    obtain ⟨s', hs', hsame⟩ := Option.map_eq_some_iff.1 hw
    obtain ⟨rfl, rfl⟩ := Prod.mk.inj hsame
    exact StoreOp.normal_written (h i) hs'
  | answer i now a g fault' =>
    obtain ⟨s', hs', hsame⟩ := Option.map_eq_some_iff.1 hw
    obtain ⟨rfl, rfl⟩ := Prod.mk.inj hsame
    exact Store.normal_settled (h i) hs'

/-! ## What a step does to the directory -/

/-- What a load leaves of a directory depends on what goes wrong only if the file cannot be moved;
it stays then. -/
theorem disk_load (s : Store) (disk : Disk) (fault : WriteFault) :
    (s.load disk fault).disk = if fault ≠ .rename then (loadBook disk .none).2 else disk := by
  have hload : (s.load disk fault).disk = (loadBook disk fault).2 := by
    unfold Store.load
    split <;> next heq => rw [heq]
  rw [hload]
  unfold loadBook
  cases readBook disk with
  | ok book => exact (ite_self disk).symm
  | error e =>
    cases e with
    | malformed => by_cases hfault : fault = .rename <;> simp [hfault]
    | noDataDir | disk => exact (ite_self _).symm

/-- A step writes, or loads, or leaves the directory alone. -/
theorem disk_react_eq (w : SharedDisk) (e : DiskStep) :
    (w.react e).disk =
      match e.written? w with
      | some (s, fault) => (s.save w.disk fault).2
      | none => if e.loads then (loadBook w.disk .none).2 else w.disk := by
  cases e with
  | renew i => rfl
  | answer i now a g fault =>
    simp only [react, DiskStep.written?, Store.settle_eq, DiskStep.loads]
    cases (w.stores i).settled? now a g <;> rfl
  | own i op fault =>
    show (op.run (w.stores i) w.disk fault).2 = _
    by_cases hreads : op.reads = true
    · cases op with
      | load =>
        show ((w.stores i).load w.disk fault).disk = _
        rw [disk_load]
        simp [DiskStep.written?, StoreOp.written?, DiskStep.loads]
      | sync =>
        show ((w.stores i).sync w.disk).disk = w.disk
        unfold Store.sync
        split <;> rfl
      | upsert | revoke | adopt | token => cases hreads
    · have hloads : (DiskStep.own i op fault).loads = false := by
        cases op with
        | load => exact absurd rfl hreads
        | sync | upsert | revoke | adopt | token => rfl
      rw [op.run_of_not_reads (Bool.eq_false_iff.2 hreads), hloads, DiskStep.written?]
      cases op.written? (w.stores i) <;> rfl

/-- What a load writes is nothing. -/
theorem written?_of_loads {e : DiskStep} (h : e.loads = true) : e.written? w = none := by
  cases e with
  | renew | answer => cases h
  | own i op fault =>
    cases op with
    | load => rfl
    | sync | upsert | revoke | adopt | token => cases h

/-- Everything that a step can come to for the directory: a load may move the account file aside, a
write that succeeds replaces it, and nothing else leaves a trace. -/
theorem disk_react (h : w.Normal) (e : DiskStep) :
    e.loads = true ∧ (w.react e).disk = (loadBook w.disk .none).2
      ∨ e.loads = false ∧ e.replaces w = false ∧ (w.react e).disk = w.disk
      ∨ e.loads = false ∧ e.replaces w = true ∧ ∃ (folder : Folder) (s : Store),
        w.disk = some folder ∧ s.Normal
          ∧ (w.react e).disk = some (folder.put accountFile (.file s.book.toBytes)) := by
  rw [disk_react_eq]
  unfold DiskStep.replaces
  cases hloads : e.loads with
  | true =>
    rw [written?_of_loads hloads]
    exact .inl ⟨rfl, rfl⟩
  | false =>
    refine .inr ?_
    cases hwritten : e.written? w with
    | none => exact .inl ⟨rfl, rfl, rfl⟩
    | some written =>
      obtain ⟨s, fault⟩ := written
      by_cases hw : Writable w.disk fault
      · obtain ⟨folder, hdisk, hsave⟩ := saveBook_eq_put hw s.book
        refine .inr ⟨rfl, ?_, folder, s, hdisk, h.written hwritten, ?_⟩
        · show (saveBook w.disk s.book fault).1.isOk = true
          rw [hsave]
          rfl
        · show (saveBook w.disk s.book fault).2 = _
          rw [hsave]
      · have hsave : s.save w.disk fault = (.error .disk, w.disk) :=
          saveBook_of_unwritable hw s.book
        dsimp only
        rw [hsave]
        exact .inl ⟨rfl, rfl, rfl⟩

end SharedDisk

/-! ## Where the bytes are -/

/-- The account file has these bytes. -/
def InPlace (bytes : List UInt8) (disk : Disk) : Prop :=
  disk.bind (·.get? accountFile) = some (.file bytes)

/-- The names that are given to account files that are moved aside. -/
def asideName (k : Nat) : String :=
  let stem := s!"{accountFile}.corrupt"
  s!"{stem}.{k}"

/-- A file with these bytes has such a name. -/
def Aside (bytes : List UInt8) (disk : Disk) : Prop :=
  ∃ k, disk.bind (·.get? (asideName k)) = some (.file bytes)

section

variable {bytes : List UInt8} {disk : Disk}

theorem readBook_of_inPlace (h : InPlace bytes disk) (unreadable : bookOfBytes? bytes = none) :
    readBook disk = .error .malformed := by
  unfold readBook
  rw [h]
  simp only [unreadable]

/-- Where the account file can be read its bytes are others. -/
theorem not_inPlace_of_readable {book : AccountBook} (readable : readBook disk = .ok book)
    (unreadable : bookOfBytes? bytes = none) : ¬ InPlace bytes disk := by
  intro h
  rw [readBook_of_inPlace h unreadable] at readable
  cases readable

theorem asideName_ne (k : Nat) : asideName k ≠ accountFile :=
  numbered_ne k (by decide)

theorem aside_put_iff {folder : Folder} (node : Node) :
    Aside bytes (some (folder.put accountFile node)) ↔ Aside bytes (some folder) := by
  simp only [Aside, Option.bind_some, Folder.get?_put, asideName_ne, if_false]

/-- A load that finds such bytes in the account file moves them aside. -/
theorem aside_moveBookAside (h : InPlace bytes disk) : Aside bytes (moveBookAside disk) := by
  cases disk with
  | none => cases h
  | some folder =>
    have hfile : folder.get? accountFile = some (.file bytes) := h
    obtain ⟨⟨k, hk⟩, -⟩ := folder.freeName_spec s!"{accountFile}.corrupt"
    have hname : asideName k = folder.freeName s!"{accountFile}.corrupt" := hk.symm
    refine ⟨k, ?_⟩
    rw [moveBookAside, Option.map_some, hfile, Option.bind_some, hname, Folder.get?_put, if_pos rfl]

/-- What has been moved aside stays where it is when another file is. -/
theorem Aside.moveBookAside (h : Aside bytes disk) : Aside bytes (moveBookAside disk) := by
  obtain ⟨k, hk⟩ := h
  refine ⟨k, ?_⟩
  cases disk with
  | none => cases hk
  | some folder =>
    have hentry : folder.get? (asideName k) = some (.file bytes) := hk
    rw [SessionSync.moveBookAside, Option.map_some, Option.bind_some]
    cases folder.get? accountFile with
    | none => exact hentry
    | some node =>
      have htaken : asideName k ∈ folder.names := by
        obtain ⟨e, he, -⟩ := Option.map_eq_some_iff.1 hentry
        have hname : e.1 = asideName k := by simpa using List.find?_some he
        exact hname ▸ List.mem_map_of_mem (List.mem_of_find?_eq_some he)
      have hfree : asideName k ≠ folder.freeName s!"{accountFile}.corrupt" := by
        intro heq
        exact (folder.freeName_spec s!"{accountFile}.corrupt").2 (heq ▸ htaken)
      dsimp only
      rw [Folder.get?_put, if_neg hfree, Folder.get?_remove, if_neg (asideName_ne k)]
      exact hentry

theorem Aside.loadBook (h : Aside bytes disk) : Aside bytes (loadBook disk .none).2 := by
  unfold SessionSync.loadBook
  split
  · exact h.moveBookAside
  · exact h

end

/-! ## What becomes of them -/

/-- What can become of the bytes of an account file that cannot be read. -/
inductive Fate
  /-- They are where they were. -/
  | inPlace
  /-- They have been moved aside. -/
  | aside
  /-- They have been replaced. -/
  | replaced
  deriving Repr, DecidableEq

/-- What a directory with such bytes has come to, for each fate. -/
def Fate.Leaves (bytes : List UInt8) (before after : Disk) : Fate → Prop
  | inPlace => after = before
  | aside => Aside bytes after ∧ ∃ book, readBook after = .ok book
  | replaced => (Aside bytes after ↔ Aside bytes before) ∧ ∃ book, readBook after = .ok book

namespace SharedDisk

/-- What becomes of the bytes of an account file that cannot be read: the first step that moves the
file aside or replaces it decides. -/
def fate (w : SharedDisk) : List DiskStep → Fate
  | [] => .inPlace
  | e :: steps =>
    if e.loads then .aside
    else if e.replaces w then .replaced
    else (w.react e).fate steps

variable {w : SharedDisk} {bytes : List UInt8}

/-- What has been moved aside stays there. -/
theorem aside_react (h : w.Normal) (aside : Aside bytes w.disk) (e : DiskStep) :
    Aside bytes (w.react e).disk := by
  obtain ⟨-, hdisk⟩ | ⟨-, -, hdisk⟩ | ⟨-, -, folder, s, hfolder, -, hdisk⟩ := disk_react h e
  · rw [hdisk]
    exact aside.loadBook
  · rw [hdisk]
    exact aside
  · rw [hdisk, aside_put_iff, ← hfolder]
    exact aside

theorem aside_run (h : w.Normal) (aside : Aside bytes w.disk) (steps : List DiskStep) :
    Aside bytes (w.run steps).disk := by
  induction steps generalizing w with
  | nil => exact aside
  | cons e steps ih => exact ih (h.react e) (aside_react h aside e)

/-- An account file that can be read remains one, and nothing is moved aside. -/
theorem readable_react (h : w.Normal) {book : AccountBook} (readable : readBook w.disk = .ok book)
    (bytes : List UInt8) (e : DiskStep) : (∃ book', readBook (w.react e).disk = .ok book')
      ∧ (Aside bytes (w.react e).disk ↔ Aside bytes w.disk) := by
  have hload : (loadBook w.disk .none).2 = w.disk := by rw [loadBook, readable]
  obtain ⟨-, hdisk⟩ | ⟨-, -, hdisk⟩ | ⟨-, -, folder, s, hfolder, hs, hdisk⟩ := disk_react h e
  · rw [hdisk, hload]
    exact ⟨⟨book, readable⟩, Iff.rfl⟩
  · rw [hdisk]
    exact ⟨⟨book, readable⟩, Iff.rfl⟩
  · have hsaved : (folder.put accountFile (.file s.book.toBytes)).get? accountFile =
        some (.file s.book.toBytes) := by rw [Folder.get?_put, if_pos rfl]
    rw [hdisk, aside_put_iff, hfolder]
    exact ⟨⟨s.book, readBook_of_file hs hsaved⟩, Iff.rfl⟩

theorem readable_run (h : w.Normal) {book : AccountBook} (readable : readBook w.disk = .ok book)
    (bytes : List UInt8) (steps : List DiskStep) :
    (∃ book', readBook (w.run steps).disk = .ok book')
      ∧ (Aside bytes (w.run steps).disk ↔ Aside bytes w.disk) := by
  induction steps generalizing w book with
  | nil => exact ⟨⟨book, readable⟩, Iff.rfl⟩
  | cons e steps ih =>
    obtain ⟨⟨book', hbook'⟩, haside⟩ := readable_react h readable bytes e
    obtain ⟨hrun, hkept⟩ := ih (h.react e) hbook'
    exact ⟨hrun, hkept.trans haside⟩

theorem leaves_run (h : w.Normal) (file : InPlace bytes w.disk)
    (unreadable : bookOfBytes? bytes = none) (steps : List DiskStep) :
    (w.fate steps).Leaves bytes w.disk (w.run steps).disk := by
  induction steps generalizing w with
  | nil => rfl
  | cons e steps ih =>
    have hnormal := h.react e
    rw [fate]
    show Fate.Leaves bytes w.disk ((w.react e).run steps).disk _
    -- whichever step decides, no later one undoes it
    obtain ⟨hloads, hdisk⟩ | ⟨hloads, hreplaces, hdisk⟩ |
      ⟨hloads, hreplaces, folder, s, hfolder, hs, hdisk⟩ := disk_react h e
    · have hmoved : (w.react e).disk = moveBookAside w.disk := by
        have hbad := readBook_of_inPlace file unreadable
        rw [hdisk, loadBook_of_malformed hbad WriteFault.noConfusion]
      have hread : readBook (w.react e).disk = .ok .empty := by
        rw [hmoved, readBook_moveBookAside]
      have haside : Aside bytes (w.react e).disk := hmoved ▸ aside_moveBookAside file
      rw [if_pos hloads]
      exact ⟨aside_run hnormal haside steps, (readable_run hnormal hread bytes steps).1⟩
    · rw [if_neg (Bool.eq_false_iff.1 hloads), if_neg (Bool.eq_false_iff.1 hreplaces)]
      have hrest := ih hnormal (hdisk ▸ file)
      rw [hdisk] at hrest
      exact hrest
    · have hsaved : (folder.put accountFile (.file s.book.toBytes)).get? accountFile =
          some (.file s.book.toBytes) := by rw [Folder.get?_put, if_pos rfl]
      have hread : readBook (w.react e).disk = .ok s.book := by
        rw [hdisk, readBook_of_file hs hsaved]
      have haside : Aside bytes (w.react e).disk ↔ Aside bytes w.disk := by
        rw [hdisk, aside_put_iff, hfolder]
      obtain ⟨hrun, hkept⟩ := readable_run hnormal hread bytes steps
      rw [if_neg (Bool.eq_false_iff.1 hloads), if_pos hreplaces]
      exact ⟨hkept.trans haside, hrun⟩

end SharedDisk

/-! ## Main result -/

/-- **What becomes of an account file that cannot be read.** Its text is not blank and spells no
book. Several stores, running or new, do whatever they do in its directory, and nobody else changes
it. If the first step that moves or replaces the file is a load, the very bytes lie under another
name from then on; if it is a write, they are lost, unless a copy had been moved aside before. Until
then nothing changes in the directory; every sync reports the file and changes nothing, and so does
every load that cannot move it. -/
theorem unreadable_file_fate (w : SharedDisk) (normal : w.Normal) (bytes : List UInt8)
    (file : InPlace bytes w.disk) (unreadable : bookOfBytes? bytes = none)
    (steps : List DiskStep) :
    let disk := (w.run steps).disk
    (w.fate steps = .inPlace → disk = w.disk ∧ InPlace bytes disk
        ∧ ∀ s : Store, s.sync disk = ⟨.error .malformed, s, disk, []⟩
          ∧ s.load disk .rename = ⟨.error .disk, s, disk, []⟩)
      ∧ (w.fate steps = .aside → Aside bytes disk)
      ∧ (w.fate steps = .replaced →
        ¬ InPlace bytes disk ∧ (Aside bytes disk ↔ Aside bytes w.disk))
      ∧ (InPlace bytes disk ∨ Aside bytes disk ↔
        w.fate steps ≠ .replaced ∨ Aside bytes w.disk) := by
  intro disk
  have hleaves := SharedDisk.leaves_run normal file unreadable steps
  cases hfate : w.fate steps with
  | inPlace =>
    rw [hfate] at hleaves
    have hdisk : disk = w.disk := hleaves
    have hkept : InPlace bytes disk := hdisk ▸ file
    have hread := readBook_of_inPlace hkept unreadable
    exact ⟨fun _ => ⟨hdisk, hkept, fun s => ⟨s.sync_of_error hread, s.load_of_stuck hread⟩⟩, nofun,
      nofun, iff_of_true (.inl hkept) (.inl nofun)⟩
  | aside =>
    rw [hfate] at hleaves
    exact ⟨nofun, fun _ => hleaves.1, nofun, iff_of_true (.inr hleaves.1) (.inl nofun)⟩
  | replaced =>
    rw [hfate] at hleaves
    obtain ⟨haside, book, hbook⟩ := hleaves
    have hlost : ¬ InPlace bytes disk := not_inPlace_of_readable hbook unreadable
    refine ⟨nofun, nofun, fun _ => ⟨hlost, haside⟩, ?_⟩
    rw [or_iff_right hlost, or_iff_right (not_not.2 rfl)]
    exact haside

/-- The beginning of a document. -/
def spoilt : List UInt8 := [0x7B, 0x22]

/-- Stores that hold an account, in a directory whose account file somebody has spoilt. -/
def spoiltDisk : SharedDisk where
  stores _ := loadedStore
  disk := some [(accountFile, .file spoilt)]

theorem bookOfBytes?_spoilt : bookOfBytes? spoilt = none := by
  have hnone : (bookOfBytes? spoilt).isNone = true := by decide +kernel
  exact Option.isNone_iff_eq_none.1 hnone

theorem normal_spoiltDisk : spoiltDisk.Normal :=
  fun _ => normal_of_readBook (readBook_eq_ok_iff.2 fileHolds_loaded)

/-- A new store loads before another one notes an account and drops one: the bytes are under another
name then. -/
theorem unreadable_file_fate_moved :
    let steps : List DiskStep := [.own 0 .sync .none, .renew 1, .own 1 .load .none,
      .own 0 (.adopt 5 "y" 1) .none, .own 0 (.revoke "x") .none]
    Aside spoilt (spoiltDisk.run steps).disk
      ∧ ((spoiltDisk.run steps).stores 1).accounts = []
      ∧ ((spoiltDisk.run steps).stores 0).pending = [⟨⟨"y"⟩, 1, 5⟩] := by
  intro steps
  have hfate : spoiltDisk.fate steps = .aside := by decide +kernel
  obtain ⟨-, haside, -⟩ :=
    unreadable_file_fate spoiltDisk normal_spoiltDisk spoilt rfl bookOfBytes?_spoilt steps
  exact ⟨haside hfate, by decide +kernel, by decide +kernel⟩

/-- A store that is running finds the file spoilt and leaves it in place; then it notes an account
that waits for credentials, and the bytes are nowhere in the directory any more. -/
theorem unreadable_file_overwritten :
    let synced := spoiltDisk.run [.own 0 .sync .none]
    let noted := synced.run [.own 0 (.adopt 5 "y" 1) .none]
    InPlace spoilt spoiltDisk.disk ∧ bookOfBytes? spoilt = none ∧ InPlace spoilt synced.disk
      ∧ ∀ name, noted.disk.bind (·.get? name) ≠ some (.file spoilt) := by
  intro synced noted
  refine ⟨rfl, bookOfBytes?_spoilt, rfl, fun name => ?_⟩
  let s : Store := ⟨loadedStore.held, [⟨⟨"y"⟩, 1, 5⟩]⟩
  have hnormal : s.Normal := by
    refine ⟨(normal_spoiltDisk 0).accounts, fun p hp => ?_⟩
    obtain rfl := List.mem_singleton.1 hp
    show AccountId.ofString "y" = ⟨"y"⟩
    decide +kernel
  have hdisk : noted.disk = some [(accountFile, .file s.book.toBytes)] := rfl
  have hbytes : s.book.toBytes ≠ spoilt := by
    intro h
    have hread := bookOfBytes?_toBytes hnormal
    rw [h, bookOfBytes?_spoilt] at hread
    cases hread
  intro hfile
  rw [hdisk, Option.bind_some] at hfile
  obtain ⟨e, he, hnode⟩ := Option.map_eq_some_iff.1 hfile
  obtain rfl := List.mem_singleton.1 (List.mem_of_find?_eq_some he)
  exact hbytes (Node.file.inj hnode)

end SessionSync
