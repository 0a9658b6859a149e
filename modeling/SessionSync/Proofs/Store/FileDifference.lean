import SessionSync.Proofs.Store.Operations

/-!
# The difference between memory and file

A sync compares what a store holds with what the account file says and announces the difference,
whatever the two are. The file is taken as it stands: it may be missing or blank, list an account
several times, or list one without a name.

* `FileHolds` — the book that an account file comes to; `readBook_eq_ok_iff` says that it is read.
* `AccountBook.last?` — the last entry of a book for an account.
* `TakesOver` — what a sync with a book leaves and announces.
* `sync_exact` — the main result.
-/

namespace SessionSync

/-! ## What a file says -/

/-- The book that the account file of a directory comes to: none of its accounts if there is no file
or only white space in it, and else the book that its text spells. -/
inductive FileHolds (disk : Disk) : AccountBook → Prop
  /-- There is no file. -/
  | absent (file : disk.bind (·.get? accountFile) = none) : FileHolds disk .empty
  /-- There is nothing but white space in the file. -/
  | blank {bytes : List UInt8} (file : disk.bind (·.get? accountFile) = some (.file bytes))
      (blank : Text.isBlank (bookText bytes) = true) : FileHolds disk .empty
  /-- There is a document in the file that spells a book. -/
  | spelled {bytes : List UInt8} {j : Json} {book : AccountBook}
      (file : disk.bind (·.get? accountFile) = some (.file bytes))
      (text : Text.isBlank (bookText bytes) = false)
      (document : Json.parse? (bookText bytes) = some j)
      (spells : AccountBook.ofJson? j = some book) : FileHolds disk book

/-- The last entry of a book for an account; an account without a name has none. -/
def AccountBook.last? (book : AccountBook) (a : AccountId) : Option Credential :=
  if a.isEmpty then none else (book.accounts.reverse.find? fun e => e.1 = a).map (·.2)

section

variable {disk : Disk} {book : AccountBook}

/-- The account file is read as the book that it comes to. -/
theorem readBook_eq_ok_iff : readBook disk = .ok book ↔ FileHolds disk book := by
  constructor
  · intro h
    unfold readBook at h
    split at h
    · next hfile =>
      cases h
      exact .absent hfile
    · cases h
    · next bytes hfile =>
      split at h
      · next read hread =>
        cases h
        unfold bookOfBytes? at hread
        dsimp only at hread
        split at hread
        · next hblank =>
          cases hread
          exact .blank hfile hblank
        · next htext =>
          obtain ⟨j, hdocument, hspells⟩ := Option.bind_eq_some_iff.1 hread
          exact .spelled hfile (Bool.eq_false_iff.2 htext) hdocument hspells
      · cases h
  · intro h
    unfold readBook
    cases h with
    | absent hfile => rw [hfile]
    | blank hfile hblank => simp [hfile, bookOfBytes?, hblank]
    | spelled hfile htext hdocument hspells =>
      simp [hfile, bookOfBytes?, htext, hdocument, hspells]

/-- A file that comes to no book cannot be read. -/
theorem readBook_of_not_holds (h : ∀ book, ¬ FileHolds disk book) :
    ∃ e, readBook disk = .error e := by
  cases hread : readBook disk with
  | error e => exact ⟨e, rfl⟩
  | ok book => exact absurd (readBook_eq_ok_iff.1 hread) (h book)

theorem get?_catalogOf (book : AccountBook) (a : AccountId) :
    (Store.catalogOf book).get? a = book.last? a := by
  unfold Store.catalogOf AccountBook.last?
  have hnamed (e : AccountId × Credential) :
      ((!e.1.isEmpty) = true ∧ decide (e.1 = a) = true) ↔ a.isEmpty = false ∧ e.1 = a := by
    rw [Bool.not_eq_true', decide_eq_true_eq]
    refine and_congr_left fun he => ?_
    rw [he]
  rw [Catalog.get?_ofList_last, ← List.filter_reverse, List.find?_filter]
  simp only [hnamed]
  cases a.isEmpty <;> simp

theorem contains_catalogOf (book : AccountBook) (a : AccountId) :
    (Store.catalogOf book).contains a = (book.last? a).isSome := by
  rw [Catalog.contains, get?_catalogOf]

end

/-! ## What a sync makes of it -/

/-- What a sync of a store with a file leads to, when the file comes to this book. -/
structure TakesOver (s : Store) (disk : Disk) (book : AccountBook) (o : Outcome Nat) : Prop where
  /-- The accounts that are held are those of the file. -/
  accounts : ∀ a, o.store.holds a = true ↔ (book.last? a).isSome = true
  /-- A credential with the refresh token of the file stays as it was in memory. -/
  kept : ∀ a own filed, s.held.get? a = some own → book.last? a = some filed →
    own.refreshToken = filed.refreshToken → o.store.held.get? a = some own
  /-- Any other is the one of the file. -/
  replaced : ∀ a filed, book.last? a = some filed → s.tokenOf a ≠ some filed.refreshToken →
    o.store.held.get? a = some filed
  /-- The accounts that are gone from the file are revoked, in ascending order, and then those are
  available that are new there or have another refresh token, in ascending order. -/
  announced : ∃ gone news : List AccountId, o.events = gone.map .revoked ++ news.map .available
    ∧ gone.Pairwise (· < ·) ∧ news.Pairwise (· < ·) ∧ (gone ++ news).Nodup
    ∧ (∀ a, a ∈ gone ↔ s.holds a = true ∧ book.last? a = none)
    ∧ ∀ a, a ∈ news ↔ ∃ filed, book.last? a = some filed ∧ s.tokenOf a ≠ some filed.refreshToken
  /-- The number of events is told. -/
  counted : o.result = .ok o.events.length
  /-- Those wait that wait on file, in the same order, and are not held. -/
  waiting : o.store.pending = book.pending.filter fun p => (book.last? p.account).isNone
  /-- Any store that loads the file holds the same refresh tokens. -/
  loaded : ∀ (t : Store) (fault : WriteFault), (∃ n, (t.load disk fault).result = .ok n)
    ∧ (t.load disk fault).store.tokenOf = o.store.tokenOf
  /-- Another sync finds nothing new. -/
  settled : o.store.sync disk = ⟨.ok 0, o.store, disk, []⟩
  /-- The file is not touched. -/
  file : o.disk = disk

namespace Store

variable {s : Store} {disk : Disk} {book : AccountBook}

/-- The accounts that are revoked by a sync. -/
def goneFrom (s : Store) (book : AccountBook) : List AccountId :=
  s.accounts.filter fun a => !(catalogOf book).contains a

/-- The accounts that a sync makes available. -/
def newIn (s : Store) (book : AccountBook) : List AccountId :=
  ((catalogOf book).toList.filter fun e => isNews (s.held.get? e.1) e.2).map (·.1)

theorem mem_goneFrom {a : AccountId} :
    a ∈ s.goneFrom book ↔ s.holds a = true ∧ book.last? a = none := by
  rw [goneFrom, List.mem_filter, contains_catalogOf, accounts, Catalog.mem_accounts]
  cases book.last? a <;> simp [holds]

theorem mem_newIn {a : AccountId} :
    a ∈ s.newIn book ↔
      ∃ filed, book.last? a = some filed ∧ s.tokenOf a ≠ some filed.refreshToken := by
  rw [newIn, List.mem_map]
  constructor
  · rintro ⟨⟨b, filed⟩, hmem, rfl⟩
    obtain ⟨hentry, hnews⟩ := List.mem_filter.1 hmem
    rw [Catalog.mem_toList_iff, get?_catalogOf] at hentry
    exact ⟨filed, hentry, (s.isNews_iff b filed).1 hnews⟩
  · rintro ⟨filed, hfiled, hnews⟩
    refine ⟨(a, filed), List.mem_filter.2 ⟨?_, (s.isNews_iff a filed).2 hnews⟩, rfl⟩
    rw [Catalog.mem_toList_iff, get?_catalogOf, hfiled]

theorem pairwise_goneFrom (s : Store) (book : AccountBook) :
    (s.goneFrom book).Pairwise (· < ·) :=
  s.held.pairwise_accounts.filter _

theorem pairwise_newIn (s : Store) (book : AccountBook) : (s.newIn book).Pairwise (· < ·) :=
  List.Pairwise.map _ (fun _ _ hxy => hxy) ((catalogOf book).sorted.filter _)

/-- No account is announced twice. -/
theorem nodup_announced (s : Store) (book : AccountBook) :
    (s.goneFrom book ++ s.newIn book).Nodup := by
  refine List.nodup_append.2 ⟨AccountId.nodup_of_ascending (s.pairwise_goneFrom book),
    AccountId.nodup_of_ascending (s.pairwise_newIn book), ?_⟩
  rintro a hgone b hnew rfl
  obtain ⟨-, hnone⟩ := mem_goneFrom.1 hgone
  obtain ⟨filed, hsome, -⟩ := mem_newIn.1 hnew
  rw [hnone] at hsome
  cases hsome

theorem sync_events (s : Store) (h : readBook disk = .ok book) :
    (s.sync disk).events = (s.goneFrom book).map .revoked ++ (s.newIn book).map .available
      ∧ (s.sync disk).result = .ok (s.sync disk).events.length := by
  unfold sync goneFrom newIn
  rw [h]
  simp [List.map_map, Function.comp_def]

/-- What a store holds for an account after a sync. -/
theorem get?_sync (s : Store) (h : readBook disk = .ok book) (a : AccountId) :
    (s.sync disk).store.held.get? a = (book.last? a).map (merged (s.held.get? a)) := by
  rw [(s.sync_of_readBook h).2.2.1, Catalog.get?_mapValues, get?_catalogOf]

theorem holds_sync (s : Store) (h : readBook disk = .ok book) (a : AccountId) :
    (s.sync disk).store.holds a = (book.last? a).isSome := by
  rw [holds, Catalog.contains, s.get?_sync h, Option.isSome_map]

theorem waiting_sync (s : Store) (h : readBook disk = .ok book) :
    (s.sync disk).store.pending = book.pending.filter fun p => (book.last? p.account).isNone := by
  have hheld (p : Adoption) : (s.sync disk).store.held.contains p.account =
      (book.last? p.account).isSome := s.holds_sync h p.account
  rw [(s.sync_of_readBook h).2.2.2]
  simp only [hheld, Option.not_isSome]

theorem takesOver_sync (s : Store) (h : readBook disk = .ok book) :
    TakesOver s disk book (s.sync disk) where
  accounts a := by rw [s.holds_sync h]
  kept a own filed hown hfiled hsame := by
    rw [s.get?_sync h, hown, hfiled, Option.map_some, merged, if_pos hsame]
  replaced a filed hfiled hnews := by
    rw [s.get?_sync h, hfiled, Option.map_some]
    cases hown : s.held.get? a with
    | none => rfl
    | some own =>
      have hother : own.refreshToken ≠ filed.refreshToken := by
        intro heq
        rw [tokenOf, hown, Option.map_some, heq] at hnews
        exact hnews rfl
      rw [merged, if_neg hother]
  announced := ⟨s.goneFrom book, s.newIn book, (s.sync_events h).1, s.pairwise_goneFrom book,
    s.pairwise_newIn book, s.nodup_announced book, fun _ => mem_goneFrom, fun _ => mem_newIn⟩
  counted := (s.sync_events h).2
  waiting := s.waiting_sync h
  loaded t fault := by
    rw [t.load_of_readBook h fault]
    refine ⟨⟨_, rfl⟩, funext fun a => ?_⟩
    rw [s.tokenOf_sync h, tokenOnFile, h]
    rfl
  settled := by
    refine sync_of_agrees h (fun a => ?_) ?_
    · rw [s.tokenOf_sync h, tokenOnFile, h]
    · rw [s.waiting_sync h]
      simp only [s.holds_sync h, Option.not_isSome]
  file := (s.sync_of_readBook h).2.1

end Store

/-! ## Main result -/

/-- **A sync computes the difference between memory and file.** Whatever a store holds and whatever
book the account file comes to, the store holds exactly the accounts of the file afterwards, has
announced exactly what was different, and finds nothing new if it looks again. If the file comes to
no book, the store reports that, and nothing at all changes. -/
theorem sync_exact (s : Store) (disk : Disk) :
    (∀ book, FileHolds disk book → TakesOver s disk book (s.sync disk))
      ∧ ((∀ book, ¬ FileHolds disk book) → ∃ e, s.sync disk = ⟨.error e, s, disk, []⟩) := by
  constructor
  · intro book h
    exact s.takesOver_sync (readBook_eq_ok_iff.2 h)
  · intro h
    obtain ⟨e, he⟩ := readBook_of_not_holds h
    exact ⟨e, s.sync_of_error he⟩

/-- A store with an account whose access token is to be kept, one that has another refresh token by
then, and one that will be gone. -/
def olderStore : Store where
  held := Catalog.ofList [(⟨"a@x"⟩, ⟨"same", some ⟨"access", 3600, 5000, "Bearer"⟩, 1, 2⟩),
    (⟨"b@x"⟩, ⟨"old", none, 1, 2⟩), (⟨"c@x"⟩, ⟨"gone", none, 1, 2⟩)]
  pending := [⟨⟨"f@x"⟩, 0, 3⟩]

/-- A book that lists an account twice and one without a name. -/
def newerBook : AccountBook where
  version := "2"
  accounts := [(⟨"d@x"⟩, ⟨"new", none, 7, 7⟩), (⟨"b@x"⟩, ⟨"old", none, 7, 7⟩),
    (⟨""⟩, ⟨"none", none, 7, 7⟩), (⟨"b@x"⟩, ⟨"next", none, 8, 8⟩), (⟨"a@x"⟩, ⟨"same", none, 9, 9⟩)]
  pending := [⟨⟨"e@x"⟩, 2, 4⟩, ⟨⟨"d@x"⟩, 1, 4⟩]

/-- That store looks at a file with that book, and at one that spells no book. -/
theorem sync_exact_newer :
    let disk : Disk := some [(accountFile, .file newerBook.toBytes)]
    let spoilt : Disk := some [(accountFile, .file [0x7B])]
    let after := olderStore.sync disk
    FileHolds disk newerBook ∧ TakesOver olderStore disk newerBook after
      ∧ after.events = [.revoked ⟨"c@x"⟩, .available ⟨"b@x"⟩, .available ⟨"d@x"⟩]
      ∧ after.store =
        ⟨Catalog.ofList [(⟨"a@x"⟩, ⟨"same", some ⟨"access", 3600, 5000, "Bearer"⟩, 1, 2⟩),
          (⟨"b@x"⟩, ⟨"next", none, 8, 8⟩), (⟨"d@x"⟩, ⟨"new", none, 7, 7⟩)], [⟨⟨"e@x"⟩, 2, 4⟩]⟩
      ∧ (∀ book, ¬ FileHolds spoilt book)
      ∧ ∃ e, olderStore.sync spoilt = ⟨.error e, olderStore, spoilt, []⟩ := by
  intro disk spoilt after
  have hnormal : newerBook.Normal := by
    have haccounts : ∀ e ∈ newerBook.accounts, AccountId.ofString e.1.text = e.1 := by
      decide +kernel
    have hpending : ∀ p ∈ newerBook.pending, AccountId.ofString p.account.text = p.account := by
      decide +kernel
    exact ⟨haccounts, hpending⟩
  have hread : readBook disk = .ok newerBook := readBook_of_file hnormal rfl
  have hspoilt (book : AccountBook) : ¬ FileHolds spoilt book := by
    intro h
    have hbad : (readBook spoilt).isOk = false := by decide +kernel
    rw [readBook_eq_ok_iff.2 h] at hbad
    cases hbad
  have hholds := readBook_eq_ok_iff.1 hread
  have hafter : after.events = [.revoked ⟨"c@x"⟩, .available ⟨"b@x"⟩, .available ⟨"d@x"⟩]
      ∧ after.store =
        ⟨Catalog.ofList [(⟨"a@x"⟩, ⟨"same", some ⟨"access", 3600, 5000, "Bearer"⟩, 1, 2⟩),
          (⟨"b@x"⟩, ⟨"next", none, 8, 8⟩), (⟨"d@x"⟩, ⟨"new", none, 7, 7⟩)],
          [⟨⟨"e@x"⟩, 2, 4⟩]⟩ := by
    simp only [after, Store.sync, hread]
    decide +kernel
  exact ⟨hholds, (sync_exact olderStore disk).1 newerBook hholds, hafter.1, hafter.2, hspoilt,
    (sync_exact olderStore spoilt).2 hspoilt⟩

end SessionSync
