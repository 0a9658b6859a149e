import Mathlib.Logic.Relation
import SessionSync.Proofs.Store.Saving

/-!
# A save is all or nothing

A save seen step by step: the temporary file is made and filled, bit by bit, and takes the name of
the account file; any of these steps can fail, and then the temporary file is removed. Other stores
may load and sync at any moment in between. Whatever happens, they find the account file as it was
or with the whole new book, and a save that fails leaves nothing behind.

* `ReplaceStep` — the steps of a replacement.
* `replaceSteps_replaceFile`, `exists_fault_of_steps` — they are those of `replaceFile`, and lead to
  nothing else than `saveBook` does.
* `Expected.step`, `Expected.load` — what a step of the save and what a load of another store do.
* `expected_of_run` — what is found at any moment, by induction on what happened.
* `save_all_or_nothing` — all together, for every operation that saves.
-/

namespace SessionSync

open Relation (ReflTransGen)

/-! ## Steps -/

/-- How far the replacement of a file has come. -/
inductive ReplacePhase
  /-- Nothing is done. -/
  | begun
  /-- The temporary file holds this many bytes. -/
  | filling (n : Nat)
  /-- The temporary file is complete. -/
  | filled
  /-- A step has failed, and the temporary file is to be removed. -/
  | refused
  /-- The file is replaced. -/
  | replaced
  /-- The file is not replaced, and the temporary file is gone. -/
  | cleared
  deriving Repr, DecidableEq

/-- One step in the replacement of a file by way of a temporary file. -/
inductive ReplaceStep (name temp : String) (bytes : List UInt8) :
    Disk × ReplacePhase → Disk × ReplacePhase → Prop
  | create (folder : Folder) :
      ReplaceStep name temp bytes (some folder, .begun)
        (some (folder.put temp (.file [])), .filling 0)
  | fill (folder : Folder) {n m : Nat} (more : n ≤ m) :
      ReplaceStep name temp bytes (some folder, .filling n)
        (some (folder.put temp (.file (bytes.take m))), .filling m)
  | finish (disk : Disk) {n : Nat} (whole : bytes.length ≤ n) :
      ReplaceStep name temp bytes (disk, .filling n) (disk, .filled)
  | rename {folder : Folder} {node : Node} (entry : folder.get? temp = some node)
      (file : folder.isFolder name = false) :
      ReplaceStep name temp bytes (some folder, .filled)
        (some ((folder.remove temp).put name node), .replaced)
  | createFails (disk : Disk) : ReplaceStep name temp bytes (disk, .begun) (disk, .refused)
  | fillFails (disk : Disk) (n : Nat) :
      ReplaceStep name temp bytes (disk, .filling n) (disk, .refused)
  | renameFails (disk : Disk) : ReplaceStep name temp bytes (disk, .filled) (disk, .refused)
  | clear (disk : Disk) :
      ReplaceStep name temp bytes (disk, .refused) (disk.map (·.remove temp), .cleared)

/-- The steps that lead from one moment of a replacement to another. -/
abbrev ReplaceSteps (name temp : String) (bytes : List UInt8) :
    Disk × ReplacePhase → Disk × ReplacePhase → Prop :=
  ReflTransGen (ReplaceStep name temp bytes)

/-! ## Entries of a folder -/

namespace Folder

theorem not_mem_names_iff {f : Folder} {name : String} :
    name ∉ f.names ↔ f.get? name = none := by
  simp only [names, get?, List.mem_map, not_exists, not_and, Option.map_eq_none_iff,
    List.find?_eq_none, decide_eq_true_eq]

theorem mem_names_remove {f : Folder} {name other : String} (hne : other ≠ name) :
    other ∈ (f.remove name).names ↔ other ∈ f.names := by
  rw [← not_iff_not, not_mem_names_iff, not_mem_names_iff, get?_remove, if_neg hne]

theorem remove_of_get?_eq_none {f : Folder} {name : String} (h : f.get? name = none) :
    f.remove name = f := by
  simpa [get?, remove] using h

/-- Of several entries put under one name the last is there. -/
theorem put_put (f : Folder) (name : String) (node node' : Node) :
    (f.put name node).put name node' = f.put name node' := by
  simp [put, remove, List.filter_append, List.filter_filter]

/-- An entry that is taken away does not matter. -/
theorem remove_put_self (f : Folder) (name : String) (node : Node) :
    (f.put name node).remove name = f.remove name := by
  simp [put, remove, List.filter_append, List.filter_filter]

theorem remove_comm (f : Folder) (name other : String) :
    (f.remove name).remove other = (f.remove other).remove name := by
  simp [remove, List.filter_filter, Bool.and_comm]

theorem remove_put_other (f : Folder) {name other : String} (hne : name ≠ other) (node : Node) :
    (f.put name node).remove other = (f.remove other).put name node := by
  simp [put, remove, List.filter_append, List.filter_filter, Bool.and_comm, hne]

end Folder

/-! ## The steps of a replacement -/

/-- Where a replacement ends. -/
def ReplacePhase.ofResult (succeeded : Bool) : ReplacePhase :=
  if succeeded then .replaced else .cleared

section
variable {name temp : String} {bytes : List UInt8}

theorem replaceSteps_filling (folder : Folder) (k : Nat) :
    ReplaceSteps name temp bytes (some folder, .begun)
      (some (folder.put temp (.file (bytes.take k))), .filling k) := by
  have hfill : ReplaceStep name temp bytes (some (folder.put temp (.file [])), .filling 0)
      (some ((folder.put temp (.file [])).put temp (.file (bytes.take k))), .filling k) :=
    .fill _ (Nat.zero_le k)
  rw [Folder.put_put] at hfill
  exact (ReflTransGen.single (.create folder)).tail hfill

theorem replaceSteps_filled (folder : Folder) :
    ReplaceSteps name temp bytes (some folder, .begun)
      (some (folder.put temp (.file bytes)), .filled) := by
  have hfilling : ReplaceSteps name temp bytes (some folder, .begun)
      (some (folder.put temp (.file (bytes.take bytes.length))), .filling bytes.length) :=
    replaceSteps_filling folder bytes.length
  rw [List.take_length] at hfilling
  exact hfilling.tail (.finish _ Nat.le.refl)

/-- A step that fails is followed by the removal of the temporary file. -/
theorem replaceSteps_cleared {disk : Disk} {phase : ReplacePhase}
    (fails : ReplaceStep name temp bytes (disk, phase) (disk, .refused)) :
    ReplaceSteps name temp bytes (disk, phase) (disk.map (·.remove temp), .cleared) :=
  (ReflTransGen.single fails).tail (.clear disk)

end

/-- The name of the temporary file in the replacement of a file. -/
def temporaryName (disk : Disk) (name : String) : String :=
  match disk with
  | some folder => folder.freeName s!"{name}.tmp"
  | none => s!"{name}.tmp.0"

/-- Every replacement in a directory that exists comes to two directories. -/
theorem replaceSteps_of_eq {name temp : String} {bytes : List UInt8} {disk d d' : Disk}
    {fault : WriteFault} {phase : ReplacePhase} {succeeded : Bool}
    (hreplace : replaceFile disk name bytes fault = ⟨[d, d'], succeeded⟩)
    (hfirst : ReplaceSteps name temp bytes (disk, .begun) (d, phase))
    (hsecond : ReplaceSteps name temp bytes (d, phase) (d', .ofResult succeeded)) :
    (∀ e ∈ (replaceFile disk name bytes fault).after,
        ∃ phase, ReplaceSteps name temp bytes (disk, .begun) (e, phase))
      ∧ ReplaceSteps name temp bytes (disk, .begun)
        ((replaceFile disk name bytes fault).final disk,
          .ofResult (replaceFile disk name bytes fault).succeeded) := by
  rw [hreplace]
  refine ⟨?_, hfirst.trans hsecond⟩
  intro e he
  rcases List.mem_pair.1 he with rfl | rfl
  · exact ⟨phase, hfirst⟩
  · exact ⟨_, hfirst.trans hsecond⟩

/-- The directories of a replacement are those of steps that lead from its beginning to its end. -/
theorem replaceSteps_replaceFile (disk : Disk) (name : String) (bytes : List UInt8)
    (fault : WriteFault) :
    (∀ d ∈ (replaceFile disk name bytes fault).after,
        ∃ phase, ReplaceSteps name (temporaryName disk name) bytes (disk, .begun) (d, phase))
      ∧ ReplaceSteps name (temporaryName disk name) bytes (disk, .begun)
        ((replaceFile disk name bytes fault).final disk,
          .ofResult (replaceFile disk name bytes fault).succeeded) := by
  cases disk with
  | none => exact ⟨by simp [replaceFile], replaceSteps_cleared (.createFails none)⟩
  | some folder =>
    have hshorter : name.length < s!"{name}.tmp".length := by
      simp [toString]
      decide
    have hne : name ≠ folder.freeName s!"{name}.tmp" := (folder.freeName_ne hshorter).symm
    rw [temporaryName]
    generalize htemp : folder.freeName s!"{name}.tmp" = temp at hne
    cases fault with
    | write k =>
      have hreplace : replaceFile (some folder) name bytes (.write k) =
          ⟨[some (folder.put temp (.file (bytes.take k))),
            some ((folder.put temp (.file (bytes.take k))).remove temp)], false⟩ := by
        simp [replaceFile, htemp]
      exact replaceSteps_of_eq hreplace (replaceSteps_filling folder k)
        (replaceSteps_cleared (.fillFails _ k))
    | rename =>
      have hreplace : replaceFile (some folder) name bytes .rename =
          ⟨[some (folder.put temp (.file bytes)),
            some ((folder.put temp (.file bytes)).remove temp)], false⟩ := by
        simp [replaceFile, htemp]
      exact replaceSteps_of_eq hreplace (replaceSteps_filled folder)
        (replaceSteps_cleared (.renameFails _))
    | none =>
      cases hfolder : folder.isFolder name with
      | true =>
        have hreplace : replaceFile (some folder) name bytes .none =
            ⟨[some (folder.put temp (.file bytes)),
              some ((folder.put temp (.file bytes)).remove temp)], false⟩ := by
          simp [replaceFile, htemp, hfolder]
        exact replaceSteps_of_eq hreplace (replaceSteps_filled folder)
          (replaceSteps_cleared (.renameFails _))
      | false =>
        have hreplace : replaceFile (some folder) name bytes .none =
            ⟨[some (folder.put temp (.file bytes)),
              some (((folder.put temp (.file bytes)).remove temp).put name (.file bytes))],
              true⟩ := by
          simp [replaceFile, htemp, hfolder]
        have hentry : (folder.put temp (.file bytes)).get? temp = some (.file bytes) := by
          rw [Folder.get?_put, if_pos rfl]
        have hfile : (folder.put temp (.file bytes)).isFolder name = false := by
          rw [Folder.isFolder, Folder.get?_put, if_neg hne]
          exact hfolder
        exact replaceSteps_of_eq hreplace (replaceSteps_filled folder)
          (ReflTransGen.single (.rename hentry hfile))

/-! ## Temporary names -/

/-- Whether a file can be the temporary one of a save: its name says so, and no entry has it. -/
structure IsTemporary (disk : Disk) (temp : String) : Prop where
  /-- The name is that of the account file with an ending. -/
  name : ∃ ending : String, temp = s!"{accountFile}.tmp.{ending}"
  /-- No entry has it. -/
  free : disk.bind (·.get? temp) = none

theorem isTemporary_temporaryName (disk : Disk) :
    IsTemporary disk (temporaryName disk accountFile) := by
  cases disk with
  | none => exact ⟨⟨"0", rfl⟩, rfl⟩
  | some folder =>
    obtain ⟨⟨k, hk⟩, hfree⟩ := folder.freeName_spec s!"{accountFile}.tmp"
    exact ⟨⟨toString k, hk⟩, Folder.not_mem_names_iff.1 hfree⟩

namespace IsTemporary

variable {disk : Disk} {temp : String}

theorem ne_accountFile (h : IsTemporary disk temp) : accountFile ≠ temp := by
  obtain ⟨ending, rfl⟩ := h.name
  intro heq
  -- The name of the account file ends after 13 letters.
  have hletter := congrArg (fun s : String => s.toList[13]?) heq
  simp [toString, accountFile] at hletter

/-- No account file is moved aside to a temporary name. -/
theorem ne_corrupt (h : IsTemporary disk temp) (k : Nat) :
    s!"{accountFile}.corrupt.{k}" ≠ temp := by
  obtain ⟨ending, rfl⟩ := h.name
  intro heq
  -- After `accounts.json.` the one goes on with a `c`, the other with a `t`.
  have hletter := congrArg (fun s : String => s.toList[14]?) heq
  simp [toString, accountFile] at hletter

end IsTemporary

/-! ## What a step does -/

/-- What the directory is at each moment of a save, if it was `old` before. -/
inductive Expected (temp : String) (bytes : List UInt8) (old : Disk) : Disk × ReplacePhase → Prop
  | begun : Expected temp bytes old (old, .begun)
  | filling {d : Disk} {n : Nat} (others : d.map (·.remove temp) = old)
      (part : d.bind (·.get? temp) = some (.file (bytes.take n))) :
      Expected temp bytes old (d, .filling n)
  | filled {d : Disk} (others : d.map (·.remove temp) = old)
      (whole : d.bind (·.get? temp) = some (.file bytes)) : Expected temp bytes old (d, .filled)
  | refused {d : Disk} (others : d.map (·.remove temp) = old) :
      Expected temp bytes old (d, .refused)
  | replaced {folder : Folder} (was : old = some folder)
      (file : folder.isFolder accountFile = false) :
      Expected temp bytes old (some (folder.put accountFile (.file bytes)), .replaced)
  | cleared : Expected temp bytes old (old, .cleared)

namespace IsTemporary

variable {old : Disk} {temp : String}

/-- A directory without the temporary file is what it is without that file. -/
theorem map_remove (h : IsTemporary old temp) : old.map (·.remove temp) = old := by
  cases old with
  | none => rfl
  | some folder => exact congrArg some (Folder.remove_of_get?_eq_none h.free)

theorem remove_put {folder : Folder} (h : IsTemporary (some folder) temp) (node : Node) :
    (folder.put temp node).remove temp = folder :=
  folder.remove_put (Folder.not_mem_names_iff.2 h.free) node

end IsTemporary

/-- A step of the save. -/
theorem Expected.step {temp : String} {bytes : List UInt8} {old : Disk}
    (htemp : IsTemporary old temp) {s s' : Disk × ReplacePhase} (h : Expected temp bytes old s)
    (hstep : ReplaceStep accountFile temp bytes s s') : Expected temp bytes old s' := by
  cases hstep with
  | create folder =>
    cases h
    refine .filling (congrArg some (htemp.remove_put _)) ?_
    rw [Option.bind_some, Folder.get?_put, if_pos rfl, List.take_zero]
  | fill folder more =>
    cases h with
    | filling others part =>
      refine .filling ?_ ?_
      · rw [← others]
        exact congrArg some (folder.remove_put_self temp _)
      · rw [Option.bind_some, Folder.get?_put, if_pos rfl]
  | finish disk whole =>
    cases h with
    | filling others part =>
      rw [List.take_of_length_le whole] at part
      exact .filled others part
  | @rename folder node entry file =>
    cases h with
    | filled others whole =>
      cases entry.symm.trans whole
      refine .replaced others.symm ?_
      rw [Folder.isFolder, Folder.get?_remove, if_neg htemp.ne_accountFile]
      exact file
  | createFails =>
    cases h
    exact .refused htemp.map_remove
  | fillFails =>
    cases h with
    | filling others part => exact .refused others
  | renameFails =>
    cases h with
    | filled others whole => exact .refused others
  | clear =>
    cases h with
    | refused others =>
      rw [others]
      exact .cleared

/-- What is found at any moment of a save that is left to itself. -/
theorem expected_of_steps {temp : String} {bytes : List UInt8} {disk : Disk}
    (htemp : IsTemporary disk temp) {s : Disk × ReplacePhase}
    (h : ReplaceSteps accountFile temp bytes (disk, .begun) s) : Expected temp bytes disk s := by
  induction h with
  | refl => exact .begun
  | tail hsteps hstep ih => exact ih.step htemp hstep

/-! ## What other stores do -/

/-- What was there before a save, if other stores have loaded it since: an account file that holds
no book may have been moved aside. -/
def LoadedSince (disk old : Disk) : Prop :=
  old = disk ∨ readBook disk = .error .malformed ∧ old = moveBookAside disk

/-- After the first load nothing is moved aside any more. -/
theorem LoadedSince.trans {disk old old' : Disk} (h : LoadedSince disk old)
    (h' : LoadedSince old old') : LoadedSince disk old' := by
  rcases h with rfl | ⟨hbad, rfl⟩
  · exact h'
  · rcases h' with rfl | ⟨hbad', rfl⟩
    · exact .inr ⟨hbad, rfl⟩
    · rw [readBook_moveBookAside] at hbad'
      cases hbad'

namespace IsTemporary

variable {disk : Disk} {temp : String}

theorem ne_aside (h : IsTemporary disk temp) (folder : Folder) :
    folder.freeName s!"{accountFile}.corrupt" ≠ temp := by
  obtain ⟨⟨k, hk⟩, -⟩ := folder.freeName_spec s!"{accountFile}.corrupt"
  rw [hk]
  exact h.ne_corrupt k

theorem get?_moveBookAside (h : IsTemporary disk temp) (d : Disk) :
    (moveBookAside d).bind (·.get? temp) = d.bind (·.get? temp) := by
  cases d with
  | none => rfl
  | some folder =>
    rw [moveBookAside, Option.map_some, Option.bind_some, Option.bind_some]
    cases folder.get? accountFile with
    | none => rfl
    | some node =>
      dsimp only
      rw [Folder.get?_put, if_neg (h.ne_aside folder).symm, Folder.get?_remove,
        if_neg h.ne_accountFile.symm]

/-- The temporary file has no part in it when the account file is moved aside. -/
theorem remove_moveBookAside (h : IsTemporary disk temp) (d : Disk) :
    (moveBookAside d).map (·.remove temp) = moveBookAside (d.map (·.remove temp)) := by
  cases d with
  | none => rfl
  | some folder =>
    have hname : (folder.remove temp).freeName s!"{accountFile}.corrupt" =
        folder.freeName s!"{accountFile}.corrupt" :=
      Folder.freeName_congr fun k => Folder.mem_names_remove (h.ne_corrupt k)
    have hfile : (folder.remove temp).get? accountFile = folder.get? accountFile := by
      rw [Folder.get?_remove, if_neg h.ne_accountFile]
    simp only [moveBookAside, Option.map_some, hfile, hname]
    cases folder.get? accountFile with
    | none => rfl
    | some node =>
      dsimp only
      rw [Folder.remove_put_other _ (h.ne_aside folder), Folder.remove_comm]

end IsTemporary

theorem isTemporary_moveBookAside {disk : Disk} {temp : String} (h : IsTemporary disk temp) :
    IsTemporary (moveBookAside disk) temp :=
  ⟨h.name, (h.get?_moveBookAside disk).trans h.free⟩

/-- The account file is what it was until it is replaced. -/
theorem Expected.get?_accountFile {temp : String} {bytes : List UInt8} {old d : Disk}
    {phase : ReplacePhase} (htemp : IsTemporary old temp)
    (h : Expected temp bytes old (d, phase)) (hphase : phase ≠ .replaced) :
    d.bind (·.get? accountFile) = old.bind (·.get? accountFile) := by
  have hothers : d.map (·.remove temp) = old →
      d.bind (·.get? accountFile) = old.bind (·.get? accountFile) := by
    rintro rfl
    cases d with
    | none => rfl
    | some folder =>
      show _ = (folder.remove temp).get? accountFile
      rw [Folder.get?_remove, if_neg htemp.ne_accountFile]
      rfl
  cases h with
  | begun | cleared => rfl
  | filling others part => exact hothers others
  | filled others whole => exact hothers others
  | refused others => exact hothers others
  | replaced was file => exact absurd rfl hphase

/-- A load of another store: it moves the account file aside at most, and only one that holds no
book. -/
theorem Expected.load {temp : String} {book : AccountBook} (hbook : book.Normal) {old d : Disk}
    {phase : ReplacePhase} (htemp : IsTemporary old temp)
    (h : Expected temp book.toBytes old (d, phase)) (t : Store) (fault : WriteFault) :
    ∃ old', LoadedSince old old' ∧ IsTemporary old' temp
      ∧ Expected temp book.toBytes old' ((t.load d fault).disk, phase) := by
  obtain ⟨book', -, hload⟩ | ⟨hbad, -, hload⟩ | ⟨e, e', -, hload⟩ := t.load_cases d fault
  · rw [hload]
    exact ⟨old, .inl rfl, htemp, h⟩
  · -- A file that has been replaced holds a book, so what is moved aside is the file of before.
    have hphase : phase ≠ .replaced := by
      rintro rfl
      cases h with
      | replaced was file =>
        rw [readBook_put hbook] at hbad
        cases hbad
    have hold : readBook old = .error .malformed :=
      (readBook_congr (h.get?_accountFile htemp hphase)).symm.trans hbad
    have haside : d.map (·.remove temp) = old →
        (moveBookAside d).map (·.remove temp) = moveBookAside old := by
      rintro rfl
      exact htemp.remove_moveBookAside d
    rw [hload]
    refine ⟨moveBookAside old, .inr ⟨hold, rfl⟩, isTemporary_moveBookAside htemp, ?_⟩
    cases h with
    | begun => exact .begun
    | filling others part =>
      exact .filling (haside others) ((htemp.get?_moveBookAside d).trans part)
    | filled others whole =>
      exact .filled (haside others) ((htemp.get?_moveBookAside d).trans whole)
    | refused others => exact .refused (haside others)
    | replaced was file => exact absurd rfl hphase
    | cleared => exact .cleared
  · rw [hload]
    exact ⟨old, .inl rfl, htemp, h⟩

/-! ## Runs -/

/-- What can happen next while a book is saved. -/
inductive SaveTurn (temp : String) (book : AccountBook) :
    Disk × ReplacePhase → Disk × ReplacePhase → Prop
  | own {s s' : Disk × ReplacePhase} (step : ReplaceStep accountFile temp book.toBytes s s') :
      SaveTurn temp book s s'
  | load (t : Store) (fault : WriteFault) (disk : Disk) (phase : ReplacePhase) :
      SaveTurn temp book (disk, phase) ((t.load disk fault).disk, phase)
  | sync (t : Store) (disk : Disk) (phase : ReplacePhase) :
      SaveTurn temp book (disk, phase) ((t.sync disk).disk, phase)

/-- What can happen while a book is saved: the steps of the save, and loads and syncs of other
stores between them. -/
abbrev SaveRun (temp : String) (book : AccountBook) :
    Disk × ReplacePhase → Disk × ReplacePhase → Prop :=
  ReflTransGen (SaveTurn temp book)

theorem disk_sync (t : Store) (disk : Disk) : (t.sync disk).disk = disk := by
  cases hread : readBook disk with
  | error e => rw [t.sync_of_error hread]
  | ok book => exact (t.sync_of_readBook hread).2.1

/-- What is found at any moment of a save. -/
theorem expected_of_run {temp : String} {book : AccountBook} (hbook : book.Normal) {disk : Disk}
    (htemp : IsTemporary disk temp) {s : Disk × ReplacePhase}
    (h : SaveRun temp book (disk, .begun) s) :
    ∃ old, LoadedSince disk old ∧ IsTemporary old temp ∧ Expected temp book.toBytes old s := by
  induction h with
  | refl => exact ⟨disk, .inl rfl, htemp, .begun⟩
  | tail hrun hturn ih =>
    obtain ⟨old, hloaded, hold, hexpected⟩ := ih
    -- The save itself leaves `old` as it is; a load of another store may move its file aside.
    cases hturn with
    | own step => exact ⟨old, hloaded, hold, hexpected.step hold step⟩
    | load t fault d phase =>
      obtain ⟨old', hloaded', hold', hexpected'⟩ := hexpected.load hbook hold t fault
      exact ⟨old', hloaded.trans hloaded', hold', hexpected'⟩
    | sync t d phase =>
      rw [disk_sync]
      exact ⟨old, hloaded, hold, hexpected⟩

/-! ## What other stores find -/

/-- Whether every store finds the same in two directories when it loads, whatever goes wrong with
that, and when it syncs. -/
def SameView (d d' : Disk) : Prop :=
  ∀ (t : Store) (fault : WriteFault),
    (t.load d fault).result = (t.load d' fault).result
      ∧ (t.load d fault).store = (t.load d' fault).store
      ∧ (t.load d fault).events = (t.load d' fault).events
      ∧ (t.sync d).result = (t.sync d').result ∧ (t.sync d).store = (t.sync d').store
      ∧ (t.sync d).events = (t.sync d').events

theorem sameView_of_readBook {d d' : Disk} (h : readBook d = readBook d') : SameView d d' := by
  intro t fault
  cases hread : readBook d' with
  | ok book =>
    simp [t.load_of_readBook hread, t.load_of_readBook (h.trans hread), Store.sync, hread, h]
  | error e =>
    rw [t.sync_of_error hread, t.sync_of_error (h.trans hread)]
    by_cases hbad : e = .malformed
    · obtain rfl := hbad
      by_cases hfault : fault = .rename
      · simp [hfault, t.load_of_stuck hread, t.load_of_stuck (h.trans hread)]
      · simp [t.load_of_malformed hread hfault, t.load_of_malformed (h.trans hread) hfault]
    · simp [t.load_of_error hread hbad, t.load_of_error (h.trans hread) hbad]

/-- What is true at a moment of a save, if the directory was `old` before. -/
structure Atomic (temp : String) (book : AccountBook) (old d : Disk) (phase : ReplacePhase) :
    Prop where
  /-- A save that has failed leaves the directory as it was. -/
  failed : phase = .cleared → d = old
  /-- A save that has succeeded leaves the whole book in the account file, and the other entries
  alone. No directory was in the place of the account file. -/
  succeeded : phase = .replaced → ∃ folder, old = some folder
    ∧ folder.isFolder accountFile = false
    ∧ d = some (folder.put accountFile (.file book.toBytes))
  /-- No temporary file stays behind. -/
  gone : phase = .cleared ∨ phase = .replaced → d.bind (·.get? temp) = none
  /-- Until the account file is replaced it is as it was, and other stores find what they would have
  found before. -/
  unreplaced : phase ≠ .replaced →
    d.bind (·.get? accountFile) = old.bind (·.get? accountFile) ∧ SameView d old
  /-- Once the account file is replaced, other stores find the whole book. -/
  replaced : phase = .replaced → SameView d (some [(accountFile, .file book.toBytes)])

theorem Expected.atomic {temp : String} {book : AccountBook} (hbook : book.Normal) {old d : Disk}
    {phase : ReplacePhase} (htemp : IsTemporary old temp)
    (h : Expected temp book.toBytes old (d, phase)) : Atomic temp book old d phase where
  failed := by
    rintro rfl
    cases h
    rfl
  succeeded := by
    rintro rfl
    cases h with
    | replaced was file => exact ⟨_, was, file, rfl⟩
  gone := by
    rintro (rfl | rfl)
    · cases h
      exact htemp.free
    · cases h with
      | replaced was file =>
        rw [Option.bind_some, Folder.get?_put, if_neg htemp.ne_accountFile.symm]
        subst was
        exact htemp.free
  unreplaced := by
    intro hphase
    have hfile := h.get?_accountFile htemp hphase
    exact ⟨hfile, sameView_of_readBook (readBook_congr hfile)⟩
  replaced := by
    rintro rfl
    cases h with
    | replaced was file =>
      apply sameView_of_readBook
      rw [readBook_put hbook, readBook_of_file hbook rfl]

/-! ## Saves -/

/-- What a save leaves behind, by its result: the directory as it was, or with the whole book in the
account file. -/
def AllOrNothing (book : AccountBook) (before after : Disk) : Except FileError Unit → Prop
  | .error _ => after = before
  | .ok _ => ∃ folder, before = some folder
    ∧ after = some (folder.put accountFile (.file book.toBytes))

theorem allOrNothing_saveBook (disk : Disk) (book : AccountBook) (fault : WriteFault) :
    AllOrNothing book disk (saveBook disk book fault).2 (saveBook disk book fault).1 := by
  by_cases hwritable : Writable disk fault
  · obtain ⟨folder, hfolder, hsave⟩ := saveBook_eq_put hwritable book
    rw [hsave]
    exact ⟨folder, hfolder, rfl⟩
  · rw [saveBook_of_unwritable hwritable]
    rfl

/-- A save goes through the steps of a replacement to the end. -/
theorem replaceSteps_saveBook (disk : Disk) (book : AccountBook) (fault : WriteFault) :
    ReplaceSteps accountFile (temporaryName disk accountFile) book.toBytes (disk, .begun)
      ((saveBook disk book fault).2, .ofResult (saveBook disk book fault).1.isOk) := by
  have hresult : (saveBook disk book fault).1.isOk =
      (replaceFile disk accountFile book.toBytes fault).succeeded := by
    rw [saveBook]
    cases (replaceFile disk accountFile book.toBytes fault).succeeded <;> rfl
  rw [hresult]
  exact (replaceSteps_replaceFile disk accountFile book.toBytes fault).2

/-- Whatever the steps of a save come to, the save comes to it under some fault. -/
theorem exists_fault_of_steps {temp : String} {book : AccountBook} {disk d : Disk}
    {phase : ReplacePhase} (htemp : IsTemporary disk temp)
    (h : ReplaceSteps accountFile temp book.toBytes (disk, .begun) (d, phase))
    (ended : phase = .cleared ∨ phase = .replaced) :
    ∃ fault, (saveBook disk book fault).2 = d
      ∧ .ofResult (saveBook disk book fault).1.isOk = phase := by
  have hexpected := expected_of_steps htemp h
  rcases ended with rfl | rfl
  · cases hexpected
    have hfailed : ¬ Writable disk .rename := by simp [Writable]
    refine ⟨.rename, ?_⟩
    rw [saveBook_of_unwritable hfailed]
    exact ⟨rfl, rfl⟩
  · cases hexpected with
    | @replaced folder was file =>
      obtain ⟨folder', hfolder, hsave⟩ := saveBook_eq_put ⟨⟨folder, was, file⟩, rfl⟩ book
      cases was.symm.trans hfolder
      refine ⟨.none, ?_⟩
      rw [hsave]
      exact ⟨rfl, rfl⟩

/-- A save is all or nothing. Whenever it is looked at, and whatever other stores have done since it
began, the account file is as it was or holds the whole book; a save that fails leaves no trace, and
one that succeeds leaves the book. The operations of a store that save go through the steps of such
a save, whether or not they report its result. -/
theorem save_all_or_nothing (disk : Disk) :
    (∀ temp book d phase, IsTemporary disk temp → book.Normal →
        SaveRun temp book (disk, .begun) (d, phase) →
          ∃ old, LoadedSince disk old ∧ Atomic temp book old d phase)
      ∧ IsTemporary disk (temporaryName disk accountFile)
      ∧ (∀ book fault,
        (∀ d ∈ (replaceFile disk accountFile book.toBytes fault).after, ∃ phase,
          ReplaceSteps accountFile (temporaryName disk accountFile) book.toBytes (disk, .begun)
            (d, phase))
        ∧ ReplaceSteps accountFile (temporaryName disk accountFile) book.toBytes (disk, .begun)
          ((saveBook disk book fault).2, .ofResult (saveBook disk book fault).1.isOk)
        ∧ AllOrNothing book disk (saveBook disk book fault).2 (saveBook disk book fault).1)
      ∧ ∀ (s s' : Store) (op : StoreOp) fault, s.Normal → op.written? s = some s' →
        s'.book.Normal ∧ op.run s disk fault = (s', (saveBook disk s'.book fault).2) := by
  refine ⟨?_, isTemporary_temporaryName disk, ?_, ?_⟩
  · intro temp book d phase htemp hbook hrun
    obtain ⟨old, hloaded, hold, hexpected⟩ := expected_of_run hbook htemp hrun
    exact ⟨old, hloaded, hexpected.atomic hbook hold⟩
  · intro book fault
    exact ⟨(replaceSteps_replaceFile disk accountFile book.toBytes fault).1,
      replaceSteps_saveBook disk book fault, allOrNothing_saveBook disk book fault⟩
  · intro s s' op fault hs hwritten
    refine ⟨StoreOp.normal_written hs hwritten, ?_⟩
    rw [StoreOp.run_of_not_reads (StoreOp.not_reads_of_written hwritten), hwritten]
    rfl

/-- A load in the middle of a save that fails, and an operation that does not report that its save
has failed. -/
theorem save_all_or_nothing_interrupted :
    ((Store.empty.load (some (Folder.put [(accountFile, .file [])] "accounts.json.tmp.0"
        (.file (AccountBook.empty.toBytes.take 3)))) .none).disk.map
          (·.remove "accounts.json.tmp.0")) =
        some [(accountFile, .file [])]
      ∧ (StoreOp.adopt 5 "user@gmail.com" 0).run Store.empty (some [(accountFile, .file [])])
        .rename = (⟨.empty, [⟨.ofString "user@gmail.com", 0, 5⟩]⟩,
          some [(accountFile, .file [])]) := by
  obtain ⟨hmoments, -, -, hops⟩ := save_all_or_nothing (some [(accountFile, .file [])])
  constructor
  · have htemp : IsTemporary (some [(accountFile, .file [])]) "accounts.json.tmp.0" :=
      ⟨⟨"0", by decide⟩, rfl⟩
    have hrun : SaveRun "accounts.json.tmp.0" .empty (some [(accountFile, .file [])], .begun) _ :=
      ((((ReflTransGen.single (.own (.create _))).tail (.own (.fill _ (Nat.zero_le 3)))).tail
        (.load .empty .none _ _)).tail (.own (.fillFails _ 3))).tail (.own (.clear _))
    rw [Folder.put_put] at hrun
    obtain ⟨old, hloaded, hatomic⟩ := hmoments _ _ _ _ htemp AccountBook.normal_empty hrun
    have hread : readBook (some [(accountFile, .file [])]) = .ok .empty := by decide +kernel
    rcases hloaded with rfl | ⟨hbad, -⟩
    · exact hatomic.failed rfl
    · rw [hread] at hbad
      cases hbad
  · obtain ⟨-, hrun⟩ := hops .empty _ (.adopt 5 "user@gmail.com" 0) .rename Store.normal_empty rfl
    have hfailed : ¬ Writable (some [(accountFile, .file [])]) .rename := by simp [Writable]
    rw [hrun, saveBook_of_unwritable hfailed]
    rfl

end SessionSync
