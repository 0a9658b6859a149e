import Mathlib.Data.List.Perm.Subperm
import SessionSync.Proofs.Store.Operations

/-!
# What a save leaves behind

Whatever goes wrong with a save, the account file afterwards holds what it held before or the whole
book that was to be written: only the temporary file is ever incomplete, and it never takes the
place of the account file.

* `Folder.freeName_least`, `Folder.freeName_spec` — a temporary name has the least number with which
  no entry has it.
* `Folder.freeName_ne` — it is not the name that it stands in for.
* `readBook_saveBook` — what is read after a save.
* `saveBook_of_unwritable` — a save that fails leaves the directory as it was.
-/

namespace SessionSync

/-! ## Temporary names -/

theorem numbered_inj {stem : String} {j k : Nat} (h : s!"{stem}.{j}" = s!"{stem}.{k}") : j = k := by
  have hdigits : Nat.toDigits 10 j = Nat.toDigits 10 k := by
    simpa [toString, Nat.repr] using congrArg String.toList h
  rw [← Nat.ofDigitChars_ten_toDigits (n := j), hdigits, Nat.ofDigitChars_ten_toDigits]

/-- A free name is the stem with the least number for which no entry has it: there is one more
candidate than there are entries. -/
theorem Folder.freeName_least (f : Folder) (stem : String) :
    ∃ k : Nat, f.freeName stem = s!"{stem}.{k}" ∧ s!"{stem}.{k}" ∉ f.names
      ∧ ∀ j < k, s!"{stem}.{j}" ∈ f.names := by
  unfold freeName
  dsimp only
  rw [List.find?_map]
  cases hfind : (List.range (f.length + 1)).find?
      ((fun name => !f.names.contains name) ∘ fun k => s!"{stem}.{k}") with
  | some k =>
    obtain ⟨hfree, -, htaken⟩ := List.find?_range_eq_some.1 hfind
    exact ⟨k, rfl, by simpa using hfree, fun j hj => by simpa using htaken j hj⟩
  | none =>
    have hsub : ((List.range (f.length + 1)).map fun k => s!"{stem}.{k}") ⊆ f.names := by
      intro name hname
      obtain ⟨k, hk, rfl⟩ := List.mem_map.1 hname
      have htaken := List.find?_eq_none.1 hfind k hk
      simpa using htaken
    have hnodup : ((List.range (f.length + 1)).map fun k => s!"{stem}.{k}").Nodup :=
      List.Pairwise.map _ (fun _ _ hne heq => hne (numbered_inj heq)) List.nodup_range
    have hlength := (List.subperm_of_subset hnodup hsub).length_le
    rw [List.length_map, List.length_range, names, List.length_map] at hlength
    omega

/-- A free name is the stem with a number, and no entry has it. -/
theorem Folder.freeName_spec (f : Folder) (stem : String) :
    (∃ k : Nat, f.freeName stem = s!"{stem}.{k}") ∧ f.freeName stem ∉ f.names := by
  obtain ⟨k, hk, hfree, -⟩ := f.freeName_least stem
  rw [hk]
  exact ⟨⟨k, rfl⟩, hfree⟩

/-- Only the entries with numbered names bear on which one is free. -/
theorem Folder.freeName_congr {f g : Folder} {stem : String}
    (h : ∀ k : Nat, s!"{stem}.{k}" ∈ f.names ↔ s!"{stem}.{k}" ∈ g.names) :
    f.freeName stem = g.freeName stem := by
  obtain ⟨j, hj, hfree, htaken⟩ := f.freeName_least stem
  obtain ⟨k, hk, hfree', htaken'⟩ := g.freeName_least stem
  rcases Nat.lt_trichotomy j k with hlt | rfl | hlt
  · exact absurd ((h j).2 (htaken' j hlt)) hfree
  · rw [hj, hk]
  · exact absurd ((h k).1 (htaken k hlt)) hfree'

/-- A numbered name is longer than any name shorter than its stem. -/
theorem numbered_ne {stem name : String} (k : Nat) (shorter : name.length < stem.length) :
    s!"{stem}.{k}" ≠ name := by
  rintro rfl
  simp only [toString, String.length_append] at shorter
  omega

theorem Folder.freeName_ne (f : Folder) {stem name : String} (shorter : name.length < stem.length) :
    f.freeName stem ≠ name := by
  obtain ⟨⟨k, hk⟩, -⟩ := f.freeName_spec stem
  rw [hk]
  exact numbered_ne k shorter

/-- A file that is put under a free name and taken away again leaves no trace. -/
theorem Folder.remove_put (f : Folder) {name : String} (free : name ∉ f.names) (node : Node) :
    (f.put name node).remove name = f := by
  have hother : ∀ e ∈ f, e.1 ≠ name := by
    rintro e he rfl
    exact free (List.mem_map_of_mem he)
  simpa [put, remove, List.filter_append] using hother

/-! ## Saves that fail -/

/-- The account file can be replaced, and nothing goes wrong when it is. -/
def Writable (disk : Disk) (fault : WriteFault) : Prop :=
  Usable disk ∧ fault = .none

theorem saveBook_of_writable {disk : Disk} {fault : WriteFault} (h : Writable disk fault)
    (book : AccountBook) : (saveBook disk book fault).1 = .ok () := by
  obtain ⟨⟨folder, rfl, hfile⟩, rfl⟩ := h
  obtain ⟨folder', hsaved, -⟩ := saveBook_of_file hfile book
  rw [hsaved]

/-- A save that succeeds puts the account file into the directory and leaves the other entries
alone. -/
theorem saveBook_eq_put {disk : Disk} {fault : WriteFault} (h : Writable disk fault)
    (book : AccountBook) : ∃ folder, disk = some folder ∧ saveBook disk book fault =
      (.ok (), some (folder.put accountFile (.file book.toBytes))) := by
  obtain ⟨⟨folder, rfl, hfile⟩, rfl⟩ := h
  refine ⟨folder, rfl, ?_⟩
  have hkept := folder.remove_put (folder.freeName_spec s!"{accountFile}.tmp").2
    (.file book.toBytes)
  simp only [saveBook, replaceFile, hfile, Bool.false_eq_true, if_false, hkept, if_true]
  rfl

/-- At whatever point a save fails, it leaves the directory exactly as it was. -/
theorem saveBook_of_unwritable {disk : Disk} {fault : WriteFault} (h : ¬ Writable disk fault)
    (book : AccountBook) : saveBook disk book fault = (.error .disk, disk) := by
  cases disk with
  | none => rfl
  | some folder =>
    have hfree := (folder.freeName_spec s!"{accountFile}.tmp").2
    have hkept (node : Node) := folder.remove_put hfree node
    cases fault with
    | write k =>
      show (Except.error FileError.disk, some _) = _
      rw [hkept]
    | rename =>
      show (Except.error FileError.disk, some _) = _
      rw [hkept]
    | none =>
      have hfolder : folder.isFolder accountFile = true := by
        cases hfile : folder.isFolder accountFile with
        | true => rfl
        | false => exact absurd ⟨⟨folder, rfl, hfile⟩, rfl⟩ h
      rw [saveBook, replaceFile, if_pos hfolder]
      show (Except.error FileError.disk, some _) = _
      rw [hkept]

/-! ## The account file -/

theorem readBook_congr {disk disk' : Disk}
    (h : disk.bind (·.get? accountFile) = disk'.bind (·.get? accountFile)) :
    readBook disk = readBook disk' := by
  rw [readBook, readBook, h]

theorem readBook_put {book : AccountBook} (h : book.Normal) (folder : Folder) :
    readBook (some (folder.put accountFile (.file book.toBytes))) = .ok book := by
  refine readBook_of_file h ?_
  rw [Folder.get?_put, if_pos rfl]

/-- After a save the account file holds what it did, or the whole book. -/
theorem readBook_saveBook {book : AccountBook} (h : book.Normal) (disk : Disk)
    (fault : WriteFault) :
    readBook (saveBook disk book fault).2 = readBook disk
      ∨ readBook (saveBook disk book fault).2 = .ok book := by
  by_cases hwritable : Writable disk fault
  · obtain ⟨folder, -, hsave⟩ := saveBook_eq_put hwritable book
    rw [hsave]
    exact .inr (readBook_put h folder)
  · rw [saveBook_of_unwritable hwritable]
    exact .inl rfl

/-- A file that has been moved aside is not read any more. -/
theorem readBook_moveBookAside (disk : Disk) : readBook (moveBookAside disk) = .ok .empty := by
  cases disk with
  | none => rfl
  | some folder =>
    have hnone : (moveBookAside (some folder)).bind (·.get? accountFile) = none := by
      unfold moveBookAside
      rw [Option.map_some]
      cases hnode : folder.get? accountFile with
      | none => exact hnode
      | some node =>
        have hne : accountFile ≠ folder.freeName s!"{accountFile}.corrupt" :=
          (folder.freeName_ne (by decide)).symm
        show ((folder.remove accountFile).put _ node).get? accountFile = none
        rw [Folder.get?_put, if_neg hne, Folder.get?_remove, if_pos rfl]
    unfold readBook
    rw [hnone]

end SessionSync
