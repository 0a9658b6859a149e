import Mathlib.Data.List.Nodup
import Mathlib.Data.List.Sort
import SessionSync.Proofs.Store.Refreshes

/-!
# The account file in its one form

A book that has been saved is read as it was, and what a store writes tells two stores apart exactly
if they hold different credentials or different adoptions: it does not matter in which order the
credentials are come upon, how they got there, or what was on file before.

* `Enumerates.ascending_eq` — putting the entries of a map in order gives the same list each time.
* `AccountBook.toBytes_inj` — books with the same bytes are the same.
* `account_file_canonical` — the main result.
-/

namespace SessionSync

/-! ## The entries of a map in any order -/

/-- A list goes through the entries of a map, each once. -/
structure Enumerates (visited : List (AccountId × α)) (c : Catalog α) : Prop where
  once : (visited.map (·.1)).Nodup
  all : ∀ a v, (a, v) ∈ visited ↔ c.get? a = some v

/-- Entries put in ascending order of account. -/
def ascending (entries : List (AccountId × α)) : List (AccountId × α) :=
  entries.mergeSort fun x y => !decide (y.1 < x.1)

namespace Catalog

/-- The entries of a map may be come upon in any order. -/
theorem enumerates_of_perm {c : Catalog α} {visited : List (AccountId × α)}
    (h : visited.Perm c.toList) : Enumerates visited c where
  once := (h.map _).nodup_iff.2 c.nodup_accounts
  all a v := h.mem_iff.trans (c.mem_toList_iff a v)

end Catalog

namespace AccountId

theorem not_lt_trans {a b c : AccountId} (h₁ : ¬ b < a) (h₂ : ¬ c < b) : ¬ c < a := by
  intro h
  by_cases hab : a = b
  · exact h₂ (hab ▸ h)
  · exact h₂ (lt_trans h (lt_of_not_lt h₁ (Ne.symm hab)))

theorem eq_of_not_lt {a b : AccountId} (h₁ : ¬ b < a) (h₂ : ¬ a < b) : a = b :=
  Classical.byContradiction fun hne => h₁ (lt_of_not_lt h₂ hne)

end AccountId

theorem pairwise_ascending (entries : List (AccountId × α)) :
    (ascending entries).Pairwise fun x y => ¬ y.1 < x.1 := by
  have h : (ascending entries).Pairwise fun x y => (!decide (y.1 < x.1)) = true := by
    refine List.pairwise_mergeSort (fun x y z hxy hyz => ?_) (fun x y => ?_) entries
    · simp only [Bool.not_eq_true', decide_eq_false_iff_not] at hxy hyz ⊢
      exact AccountId.not_lt_trans hxy hyz
    · by_cases hyx : y.1 < x.1
      · simp [hyx, AccountId.lt_asymm hyx]
      · simp [hyx]
  exact h.imp fun hxy => by simpa using hxy

/-- In whatever order the entries of a map are come upon, in ascending order they are the same. -/
theorem Enumerates.ascending_eq {visited : List (AccountId × α)} {c : Catalog α}
    (h : Enumerates visited c) : ascending visited = c.toList := by
  have hperm : visited.Perm c.toList := by
    refine (List.perm_ext_iff_of_nodup (.of_map _ h.once) (.of_map _ c.nodup_accounts)).2 ?_
    exact fun e => (h.all e.1 e.2).trans (c.mem_toList_iff e.1 e.2).symm
  have hsorted : c.toList.Pairwise fun x y => ¬ y.1 < x.1 :=
    c.sorted.imp fun hxy => AccountId.lt_asymm hxy
  refine List.Perm.eq_of_pairwise (fun x y hx hy hxy hyx => ?_) (pairwise_ascending visited) hsorted
    ((List.mergeSort_perm visited _).trans hperm)
  -- two entries that neither of which comes first are for the same account, which has one value
  have haccount : x.1 = y.1 := AccountId.eq_of_not_lt hxy hyx
  have hx' : c.get? x.1 = some x.2 := (h.all x.1 x.2).1 (List.mem_mergeSort.1 hx)
  have hy' : c.get? y.1 = some y.2 := (c.mem_toList_iff y.1 y.2).1 hy
  rw [haccount, hy'] at hx'
  exact Prod.ext haccount (Option.some.inj hx').symm

/-! ## Books -/

/-- The book of the entries of a map, in whatever order they were come upon. -/
def AccountBook.gathered (visited : List (AccountId × Credential)) (pending : List Adoption) :
    AccountBook where
  accounts := ascending visited
  pending := pending

theorem Store.gathered_eq_book {s : Store} {visited : List (AccountId × Credential)}
    (h : Enumerates visited s.held) : AccountBook.gathered visited s.pending = s.book := by
  rw [AccountBook.gathered, h.ascending_eq, book]

/-- Books in normal form with the same bytes are the same. -/
theorem AccountBook.toBytes_inj {b₁ b₂ : AccountBook} (h₁ : b₁.Normal) (h₂ : b₂.Normal) :
    b₁.toBytes = b₂.toBytes ↔ b₁ = b₂ := by
  constructor
  · intro h
    have hread : some b₁ = some b₂ := by
      rw [← bookOfBytes?_toBytes h₁, ← bookOfBytes?_toBytes h₂, h]
    exact Option.some.inj hread
  · exact congrArg toBytes

/-- Stores write the same book exactly if they hold the same. -/
theorem Store.book_inj {s₁ s₂ : Store} :
    s₁.book = s₂.book ↔ (∀ a, s₁.held.get? a = s₂.held.get? a) ∧ s₁.pending = s₂.pending := by
  constructor
  · intro h
    have haccounts : s₁.held.toList = s₂.held.toList := congrArg AccountBook.accounts h
    exact ⟨fun a => congrArg (Ascending.lookup a) haccounts, congrArg AccountBook.pending h⟩
  · rintro ⟨hheld, hpending⟩
    rw [book, book, Catalog.ext hheld, hpending]

/-! ## The file -/

/-- The bytes of the account file of a directory. -/
def bytesOnFile (disk : Disk) : Option (List UInt8) :=
  match disk.bind (·.get? accountFile) with
  | some (.file bytes) => some bytes
  | _ => none

/-- A save that succeeds leaves the bytes of the book in the file. -/
theorem get?_of_saveBook {book : AccountBook} {disk disk' : Disk} {fault : WriteFault}
    (h : saveBook disk book fault = (.ok (), disk')) :
    ∃ folder, disk' = some folder ∧ folder.get? accountFile = some (.file book.toBytes) := by
  cases disk with
  | none => cases h
  | some folder =>
    cases fault with
    | write k => cases h
    | rename => cases h
    | none =>
      by_cases hfolder : folder.isFolder accountFile = true
      · rw [saveBook, replaceFile, if_pos hfolder] at h
        cases h
      · obtain ⟨folder', hsaved, hbytes⟩ := saveBook_of_file (Bool.eq_false_iff.2 hfolder) book
        rw [hsaved] at h
        cases h
        exact ⟨folder', rfl, hbytes⟩

theorem bytesOnFile_of_saveBook {book : AccountBook} {disk disk' : Disk} {fault : WriteFault}
    (h : saveBook disk book fault = (.ok (), disk')) : bytesOnFile disk' = some book.toBytes := by
  obtain ⟨folder, rfl, hfile⟩ := get?_of_saveBook h
  simp only [bytesOnFile, Option.bind_some, hfile]

/-! ## Histories -/

namespace Store

/-- A history leads from a store that has read nothing, in any directory, to this store: operations,
requests in flight and their answers, failing writes, and changes that others make to the
directory. -/
def Reached (s : Store) : Prop :=
  ∃ (disk : Disk) (events : List RefreshEvent),
    (Refreshing.run { store := .empty, disk } events).store = s

/-- A directory is left by a save of this store that succeeded. -/
def SavedIn (s : Store) (disk' : Disk) : Prop :=
  ∃ disk fault, s.save disk fault = (.ok (), disk')

theorem Reached.normal {s : Store} (h : s.Reached) : s.Normal := by
  obtain ⟨disk, events, rfl⟩ := h
  have hempty : empty.Normal := AccountBook.normal_empty
  exact Refreshing.normal_run hempty events

theorem SavedIn.bytesOnFile {s : Store} {disk : Disk} (h : s.SavedIn disk) :
    bytesOnFile disk = some s.book.toBytes := by
  obtain ⟨before, fault, hsaved⟩ := h
  exact bytesOnFile_of_saveBook hsaved

end Store

/-! ## Main result -/

/-- **The account file has one form, and it is read as it was written.** A book of accounts in
normal form is read back after every save that succeeds, and a save succeeds where the file can be
replaced. What a store writes depends on what it holds alone: it is the book of its credentials, in
whatever order they are come upon, and of its adoptions; and any two histories write the same bytes
exactly if they end with the same credentials and the same adoptions. -/
theorem account_file_canonical :
    (∀ (book : AccountBook) (disk disk' : Disk) (fault : WriteFault), book.Normal →
        saveBook disk book fault = (.ok (), disk') → readBook disk' = .ok book)
      ∧ (∀ (book : AccountBook) (disk : Disk), Usable disk →
        (saveBook disk book .none).1 = .ok ())
      ∧ (∀ (s : Store) (disk' : Disk), s.SavedIn disk' →
        ∀ visited, Enumerates visited s.held →
          bytesOnFile disk' = some (AccountBook.gathered visited s.pending).toBytes)
      ∧ ∀ (s₁ s₂ : Store) (disk₁ disk₂ : Disk), s₁.Reached → s₂.Reached →
        s₁.SavedIn disk₁ → s₂.SavedIn disk₂ →
          (bytesOnFile disk₁ = bytesOnFile disk₂ ↔
            (∀ a, s₁.held.get? a = s₂.held.get? a) ∧ s₁.pending = s₂.pending) := by
  refine ⟨?_, ?_, ?_, ?_⟩
  · intro book disk disk' fault hnormal hsaved
    obtain ⟨folder, rfl, hfile⟩ := get?_of_saveBook hsaved
    exact readBook_of_file hnormal hfile
  · rintro book disk ⟨folder, rfl, hfile⟩
    obtain ⟨folder', hsaved, -⟩ := saveBook_of_file hfile book
    rw [hsaved]
  · intro s disk' hsaved visited hvisited
    rw [hsaved.bytesOnFile, Store.gathered_eq_book hvisited]
  · intro s₁ s₂ disk₁ disk₂ hreached₁ hreached₂ hsaved₁ hsaved₂
    rw [hsaved₁.bytesOnFile, hsaved₂.bytesOnFile, Option.some.injEq,
      AccountBook.toBytes_inj hreached₁.normal hreached₂.normal, Store.book_inj]

/-- A book with another version, odd texts and numbers at their bounds. -/
def oddBook : AccountBook where
  version := "0.9 \u263a"
  accounts :=
    [(.ofString " B@X ", ⟨"1//\"quoted\" \\ \n\u0000\u001f\u007f\u20ac",
        some ⟨"", -9223372036854775808, 9223372036854775807, "\t/"⟩, -1, 0⟩),
      (.ofString "a@x", ⟨"", none, 0, -9223372036854775808⟩)]
  pending := [⟨.ofString "C@x", 18446744073709551615, -5⟩]

/-- The odd book is read back, and two histories that add two accounts in either order, the second
over a file that others have spoiled, write the same bytes: those of the book that is made of the
entries in descending order. -/
theorem account_file_canonical_odd :
    (∃ disk', saveBook (some []) oddBook .none = (.ok (), disk') ∧ readBook disk' = .ok oddBook)
      ∧ ∃ (s₁ s₂ : Store) (disk₁ disk₂ : Disk), s₁.Reached ∧ s₂.Reached
        ∧ s₁.SavedIn disk₁ ∧ s₂.SavedIn disk₂ ∧ bytesOnFile disk₁ = bytesOnFile disk₂
        ∧ bytesOnFile disk₁ =
          some (AccountBook.gathered s₁.held.toList.reverse s₁.pending).toBytes
        ∧ s₁.held.size = 2 := by
  have husable : Usable (some []) := ⟨[], rfl, rfl⟩
  have hnormal : oddBook.Normal := by
    refine ⟨fun e he => ?_, fun p hp => ?_⟩
    · rcases List.mem_cons.1 he with rfl | he
      · exact AccountId.normal_ofString _
      · rw [List.mem_singleton.1 he]
        exact AccountId.normal_ofString _
    · rw [List.mem_singleton.1 hp]
      exact AccountId.normal_ofString _
  have hsaves (book : AccountBook) :
      saveBook (some []) book .none = (.ok (), (saveBook (some []) book .none).2) :=
    Prod.ext (account_file_canonical.2.1 book (some []) husable) rfl
  refine ⟨⟨_, hsaves oddBook, account_file_canonical.1 oddBook _ _ _ hnormal (hsaves oddBook)⟩, ?_⟩
  let first : List RefreshEvent :=
    [.own (.upsert 5 "a@x" "r") .none, .own (.upsert 7 "b@x" "s") .none]
  let second : List RefreshEvent :=
    [.own (.upsert 7 "B@x" "s") .rename, .edit (some [(accountFile, .file [0x7B])]),
      .own (.upsert 5 " a@x" "r") .none]
  let s₁ := (Refreshing.run { store := .empty, disk := none } first).store
  let s₂ := (Refreshing.run { store := .empty, disk := some [] } second).store
  have hsame : s₁ = s₂ := by decide +kernel
  have hreached₁ : s₁.Reached := ⟨none, first, rfl⟩
  have hreached₂ : s₂.Reached := ⟨some [], second, rfl⟩
  have hsaved₁ : s₁.SavedIn (saveBook (some []) s₁.book .none).2 := ⟨some [], .none, hsaves _⟩
  have hsaved₂ : s₂.SavedIn (saveBook (some []) s₂.book .none).2 := ⟨some [], .none, hsaves _⟩
  refine ⟨s₁, s₂, _, _, hreached₁, hreached₂, hsaved₁, hsaved₂, ?_, ?_, by decide +kernel⟩
  · exact (account_file_canonical.2.2.2 s₁ s₂ _ _ hreached₁ hreached₂ hsaved₁ hsaved₂).2
      ⟨fun a => by rw [hsame], by rw [hsame]⟩
  · exact account_file_canonical.2.2.1 s₁ _ hsaved₁ _
      (Catalog.enumerates_of_perm (List.reverse_perm s₁.held.toList))

end SessionSync
