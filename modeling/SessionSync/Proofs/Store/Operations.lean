import SessionSync.Proofs.Account.Entries
import SessionSync.Proofs.Store.BookRoundTrip
import SessionSync.Store.AccessToken

/-!
# The operations of a store

What the operations do to the store and to the account file, said once for each. An operation either
reads the file or leaves it alone or writes the whole store into it (`run_of_not_reads`), and what
has been written is what is read (`tokenOnFile_save`).

* `Usable` — a data directory in which the account file can be read and replaced.
* `load_usable`, `sync_of_readBook`, `save_usable` — reading and writing such a file.
* `load_cases` — everything that a load can come to.
* `sync_of_agrees` — a store that agrees with the file finds nothing new there.
* `StoreOp.written?` — what an operation writes.
-/

namespace SessionSync

/-! ## Books that were read -/

theorem mem_of_mapM_eq_some {read : α → Option β} {l : List α} {m : List β}
    (h : l.mapM read = some m) : ∀ y ∈ m, ∃ x ∈ l, read x = some y := by
  induction l generalizing m with
  | nil =>
    cases h
    intro y hy
    cases hy
  | cons x l ih =>
    rw [List.mapM_cons] at h
    simp only [Option.bind_eq_bind, Option.bind_eq_some_iff, Option.pure_def,
      Option.some.injEq] at h
    obtain ⟨z, hz, m', hm', rfl⟩ := h
    intro y hy
    rcases List.mem_cons.1 hy with rfl | hy
    · exact ⟨x, List.mem_cons_self, hz⟩
    · obtain ⟨x', hx', hread⟩ := ih hm' y hy
      exact ⟨x', List.mem_cons_of_mem x hx', hread⟩

theorem Json.of_toListOf?_withDefault {read : Json → Option α} {slot : Option Json} {m : List α}
    (h : withDefault [] (toListOf? read) slot = some m) : ∀ y ∈ m, ∃ j, read j = some y := by
  intro y hy
  cases slot with
  | none =>
    cases h
    cases hy
  | some j =>
    obtain ⟨items, -, hitems⟩ := Option.bind_eq_some_iff.1 h
    obtain ⟨x, -, hx⟩ := mem_of_mapM_eq_some hitems y hy
    exact ⟨x, hx⟩

theorem AccountId.normal_of_ofJson? {slot : Option Json} {a : AccountId}
    (h : Json.required ofJson? slot = some a) : a.Normal := by
  obtain ⟨j, -, hj⟩ := Option.bind_eq_some_iff.1 h
  obtain ⟨text, -, rfl⟩ := Option.map_eq_some_iff.1 hj
  exact normal_ofString text

theorem Credential.normal_of_ofJson? {j : Json} {e : AccountId × Credential}
    (h : ofJson? j = some e) : e.1.Normal := by
  unfold ofJson? at h
  simp only [Option.bind_eq_bind, Option.bind_eq_some_iff] at h
  obtain ⟨slots, -, h⟩ := h
  split at h
  · simp only [Option.bind_eq_some_iff, Option.some.injEq] at h
    obtain ⟨a, ha, -, -, -, -, -, -, -, -, rfl⟩ := h
    exact AccountId.normal_of_ofJson? ha
  · cases h

theorem Adoption.normal_of_ofJson? {j : Json} {p : Adoption} (h : ofJson? j = some p) :
    p.account.Normal := by
  unfold ofJson? at h
  simp only [Option.bind_eq_bind, Option.bind_eq_some_iff] at h
  obtain ⟨slots, -, h⟩ := h
  split at h
  · simp only [Option.bind_eq_some_iff, Option.some.injEq] at h
    obtain ⟨a, ha, -, -, -, -, rfl⟩ := h
    exact AccountId.normal_of_ofJson? ha
  · cases h

theorem AccountBook.normal_empty : AccountBook.empty.Normal where
  accounts e he := by cases he
  pending p hp := by cases hp

theorem AccountBook.normal_of_ofJson? {j : Json} {book : AccountBook} (h : ofJson? j = some book) :
    book.Normal := by
  unfold ofJson? at h
  simp only [Option.bind_eq_bind, Option.bind_eq_some_iff] at h
  obtain ⟨slots, -, h⟩ := h
  split at h
  · simp only [Option.bind_eq_some_iff, Option.some.injEq] at h
    obtain ⟨version, -, accounts, haccounts, pending, hpending, rfl⟩ := h
    refine ⟨fun e he => ?_, fun p hp => ?_⟩
    · obtain ⟨j, hj⟩ := Json.of_toListOf?_withDefault haccounts e he
      exact Credential.normal_of_ofJson? hj
    · obtain ⟨j, hj⟩ := Json.of_toListOf?_withDefault hpending p hp
      exact Adoption.normal_of_ofJson? hj
  · cases h

/-- Every account of a book that was read is in normal form. -/
theorem normal_of_readBook {disk : Disk} {book : AccountBook} (h : readBook disk = .ok book) :
    book.Normal := by
  unfold readBook at h
  split at h
  · cases h
    exact AccountBook.normal_empty
  · cases h
  · split at h
    · next bytes book' hbook =>
      cases h
      unfold bookOfBytes? at hbook
      dsimp only at hbook
      split at hbook
      · cases hbook
        exact AccountBook.normal_empty
      · obtain ⟨j, -, hj⟩ := Option.bind_eq_some_iff.1 hbook
        exact AccountBook.normal_of_ofJson? hj
    · cases h

/-! ## The file in its directory -/

/-- The data directory exists, and no directory is in the place of the account file. -/
def Usable (disk : Disk) : Prop :=
  ∃ folder, disk = some folder ∧ folder.isFolder accountFile = false

theorem Folder.isFolder_of_file {f : Folder} {name : String} {bytes : List UInt8}
    (h : f.get? name = some (.file bytes)) : f.isFolder name = false := by
  rw [isFolder, h]

/-- A file that can be used is readable or holds no book. -/
theorem readBook_usable {disk : Disk} (h : Usable disk) :
    (∃ book, readBook disk = .ok book) ∨ readBook disk = .error .malformed := by
  obtain ⟨folder, rfl, hfile⟩ := h
  unfold readBook
  rw [Option.bind_some]
  unfold Folder.isFolder at hfile
  cases hnode : folder.get? accountFile with
  | none => exact .inl ⟨_, rfl⟩
  | some node =>
    cases node with
    | folder entries =>
      rw [hnode] at hfile
      cases hfile
    | file bytes =>
      dsimp only
      cases bookOfBytes? bytes with
      | none => exact .inr rfl
      | some book => exact .inl ⟨book, rfl⟩

theorem usable_moveBookAside {disk : Disk} (h : Usable disk) : Usable (moveBookAside disk) := by
  obtain ⟨folder, rfl, hfile⟩ := h
  unfold moveBookAside
  rw [Option.map_some]
  refine ⟨_, rfl, ?_⟩
  cases hnode : folder.get? accountFile with
  | none => exact hfile
  | some node =>
    cases node with
    | folder entries =>
      rw [Folder.isFolder, hnode] at hfile
      cases hfile
    | file bytes =>
      dsimp only
      rw [Folder.isFolder, Folder.get?_put, Folder.get?_remove, if_pos rfl]
      by_cases h : accountFile = folder.freeName s!"{accountFile}.corrupt"
      · rw [if_pos h]
      · rw [if_neg h]

/-- An account file that holds no book is moved aside, unless that goes wrong. -/
theorem loadBook_of_malformed {disk : Disk} (h : readBook disk = .error .malformed)
    {fault : WriteFault} (movable : fault ≠ .rename) :
    loadBook disk fault = (.ok .empty, moveBookAside disk) := by
  rw [loadBook, h]
  exact if_neg movable

theorem loadBook_of_stuck {disk : Disk} (h : readBook disk = .error .malformed) :
    loadBook disk .rename = (.error .disk, disk) := by
  rw [loadBook, h]
  exact if_pos rfl

namespace Store

/-! ## Reading -/

/-- Every account of a store is in normal form. -/
def Normal (s : Store) : Prop :=
  s.book.Normal

theorem normal_empty : empty.Normal :=
  AccountBook.normal_empty

theorem normal_catalogOf {book : AccountBook} (h : book.Normal) :
    Catalog.AllAccounts AccountId.Normal (catalogOf book) :=
  Catalog.allAccounts_ofList fun e he => h.accounts e (List.mem_filter.1 he).1

theorem isEmpty_catalogOf (book : AccountBook) :
    Catalog.AllAccounts (fun a => a.isEmpty = false) (catalogOf book) :=
  Catalog.allAccounts_ofList fun _ he => by simpa using (List.mem_filter.1 he).2

/-- A store that loads a file that can be read holds the accounts that have a name there. Nothing is
moved then, so that nothing can go wrong with it. -/
theorem load_of_readBook (s : Store) {disk : Disk} {book : AccountBook}
    (h : readBook disk = .ok book) (fault : WriteFault) :
    s.load disk fault =
      ⟨.ok (catalogOf book).size, ⟨catalogOf book, book.pending⟩, disk, [.loaded]⟩ := by
  have hload : loadBook disk fault = (.ok book, disk) := by rw [loadBook, h]
  rw [load, hload]

theorem load_of_malformed (s : Store) {disk : Disk} (h : readBook disk = .error .malformed)
    {fault : WriteFault} (movable : fault ≠ .rename) :
    s.load disk fault = ⟨.ok 0, empty, moveBookAside disk, [.loaded]⟩ := by
  rw [load, loadBook_of_malformed h movable]
  rfl

/-- A file that holds no book and cannot be moved aside is not loaded. -/
theorem load_of_stuck (s : Store) {disk : Disk} (h : readBook disk = .error .malformed) :
    s.load disk .rename = ⟨.error .disk, s, disk, []⟩ := by
  rw [load, loadBook_of_stuck h]

theorem load_of_error (s : Store) {disk : Disk} {e : FileError} (h : readBook disk = .error e)
    (other : e ≠ .malformed) (fault : WriteFault) :
    s.load disk fault = ⟨.error e, s, disk, []⟩ := by
  have hload : loadBook disk fault = (.error e, disk) := by
    rw [loadBook, h]
    cases e with
    | malformed => exact absurd rfl other
    | noDataDir | disk => rfl
  rw [load, hload]

/-- A load takes over a file that can be read, moves one aside that holds no book, and changes
nothing if it can do neither. -/
theorem load_cases (s : Store) (disk : Disk) (fault : WriteFault) :
    (∃ book, readBook disk = .ok book ∧ s.load disk fault =
        ⟨.ok (catalogOf book).size, ⟨catalogOf book, book.pending⟩, disk, [.loaded]⟩)
      ∨ (readBook disk = .error .malformed ∧ fault ≠ .rename
        ∧ s.load disk fault = ⟨.ok 0, empty, moveBookAside disk, [.loaded]⟩)
      ∨ ∃ e e', readBook disk = .error e ∧ s.load disk fault = ⟨.error e', s, disk, []⟩ := by
  cases hread : readBook disk with
  | ok book => exact .inl ⟨book, rfl, s.load_of_readBook hread fault⟩
  | error e =>
    refine .inr ?_
    by_cases hbad : e = .malformed
    · obtain rfl := hbad
      by_cases hfault : fault = .rename
      · obtain rfl := hfault
        exact .inr ⟨_, _, rfl, s.load_of_stuck hread⟩
      · exact .inl ⟨rfl, hfault, s.load_of_malformed hread hfault⟩
    · exact .inr ⟨_, _, rfl, s.load_of_error hread hbad fault⟩

/-- A store that has loaded: it holds the accounts of the file that have a name. -/
theorem load_usable (s : Store) {disk : Disk} (h : Usable disk) :
    let o := s.load disk .none
    ∃ book, book.Normal
      ∧ (readBook disk = .ok book ∧ o.disk = disk
        ∨ readBook disk = .error .malformed ∧ book = .empty ∧ o.disk = moveBookAside disk)
      ∧ o.result = .ok (catalogOf book).size ∧ o.store = ⟨catalogOf book, book.pending⟩
      ∧ Usable o.disk := by
  intro o
  rcases readBook_usable h with ⟨book, hbook⟩ | hbad
  · have ho : o = _ := s.load_of_readBook hbook .none
    rw [ho]
    exact ⟨book, normal_of_readBook hbook, .inl ⟨hbook, rfl⟩, rfl, rfl, h⟩
  · have ho : o = _ := s.load_of_malformed hbad WriteFault.noConfusion
    rw [ho]
    exact ⟨.empty, AccountBook.normal_empty, .inr ⟨hbad, rfl, rfl⟩, rfl, rfl,
      usable_moveBookAside h⟩

theorem normal_load {s : Store} (h : s.Normal) (disk : Disk) (fault : WriteFault) :
    (s.load disk fault).store.Normal := by
  obtain ⟨book, hbook, hload⟩ | ⟨-, -, hload⟩ | ⟨e, e', -, hload⟩ := s.load_cases disk fault
  · rw [hload]
    exact ⟨normal_catalogOf (normal_of_readBook hbook), (normal_of_readBook hbook).pending⟩
  · rw [hload]
    exact AccountBook.normal_empty
  · rw [hload]
    exact h

/-- A file that cannot be read changes nothing. -/
theorem sync_of_error (s : Store) {disk : Disk} {e : FileError} (h : readBook disk = .error e) :
    s.sync disk = ⟨.error e, s, disk, []⟩ := by
  rw [sync, h]

/-- A store that has taken over the changes in a file that can be read. -/
theorem sync_of_readBook (s : Store) {disk : Disk} {book : AccountBook}
    (h : readBook disk = .ok book) :
    (∃ n, (s.sync disk).result = .ok n) ∧ (s.sync disk).disk = disk
      ∧ (s.sync disk).store.held =
        (catalogOf book).mapValues (fun a c => merged (s.held.get? a) c)
      ∧ (s.sync disk).store.pending =
        book.pending.filter fun p => !(s.sync disk).store.held.contains p.account := by
  unfold sync
  rw [h]
  exact ⟨⟨_, rfl⟩, rfl, rfl, rfl⟩

theorem normal_sync {s : Store} (h : s.Normal) (disk : Disk) : (s.sync disk).store.Normal := by
  cases hbook : readBook disk with
  | error e =>
    rw [s.sync_of_error hbook]
    exact h
  | ok book =>
    obtain ⟨-, -, hheld, hpending⟩ := s.sync_of_readBook hbook
    have hnormal := normal_of_readBook hbook
    refine ⟨?_, fun p hp => ?_⟩
    · show Catalog.AllAccounts AccountId.Normal (s.sync disk).store.held
      rw [hheld]
      exact (normal_catalogOf hnormal).mapValues _
    · have hp' : p ∈ (s.sync disk).store.pending := hp
      rw [hpending] at hp'
      exact hnormal.pending p (List.mem_filter.1 hp').1

/-! ## Writing -/

/-- A save into a directory that can be used, with nothing else going wrong. -/
theorem save_usable (s : Store) {disk : Disk} (h : Usable disk) (hs : s.Normal) :
    (s.save disk .none).1 = .ok () ∧ Usable (s.save disk .none).2
      ∧ readBook (s.save disk .none).2 = .ok s.book := by
  obtain ⟨folder, rfl, hfile⟩ := h
  obtain ⟨folder', hsave, hbytes⟩ := saveBook_of_file hfile s.book
  rw [save, hsave]
  exact ⟨rfl, ⟨folder', rfl, Folder.isFolder_of_file hbytes⟩, readBook_of_file hs hbytes⟩

/-! ## Refresh tokens -/

/-- The refresh token that a store holds for an account. -/
def tokenOf (s : Store) (a : AccountId) : Option String :=
  (s.held.get? a).map (·.refreshToken)

/-- The refresh token that the account file holds for an account. -/
def tokenOnFile (disk : Disk) (a : AccountId) : Option String :=
  match readBook disk with
  | .ok book => ((catalogOf book).get? a).map (·.refreshToken)
  | .error _ => none

theorem get?_catalogOf_book (s : Store) (a : AccountId) :
    (catalogOf s.book).get? a = if a.isEmpty then none else s.held.get? a := by
  have h := Catalog.get?_ofList_filter s.held (fun a => !a.isEmpty) a
  rw [catalogOf]
  refine h.trans ?_
  cases a.isEmpty <;> rfl

/-- A store in which every account has a name reads what it has written. -/
theorem catalogOf_book {s : Store}
    (named : Catalog.AllAccounts (fun a => a.isEmpty = false) s.held) :
    catalogOf s.book = s.held := by
  refine Catalog.ext fun a => ?_
  rw [get?_catalogOf_book]
  split
  · next hempty =>
    cases hheld : s.held.get? a with
    | none => rfl
    | some c =>
      have hname := named.of_contains (Option.isSome_of_eq_some hheld)
      rw [hname] at hempty
      cases hempty
  · rfl

/-- What has been written is what is read. -/
theorem tokenOnFile_save {s : Store} {disk : Disk} (h : Usable disk) (hs : s.Normal)
    {a : AccountId} (ha : a.isEmpty = false) :
    tokenOnFile (s.save disk .none).2 a = s.tokenOf a := by
  rw [tokenOnFile, (s.save_usable h hs).2.2]
  dsimp only
  rw [get?_catalogOf_book, ha, if_neg Bool.false_ne_true, tokenOf]

theorem refreshToken_merged (held : Option Credential) (onFile : Credential) :
    (merged held onFile).refreshToken = onFile.refreshToken := by
  unfold merged
  cases held with
  | none => rfl
  | some own =>
    dsimp only
    split
    · next h => exact h
    · rfl

/-- After a sync a store holds the refresh tokens of the file. -/
theorem tokenOf_sync (s : Store) {disk : Disk} {book : AccountBook} (h : readBook disk = .ok book)
    (a : AccountId) : (s.sync disk).store.tokenOf a = tokenOnFile disk a := by
  rw [tokenOf, (s.sync_of_readBook h).2.2.1, tokenOnFile, h, Catalog.get?_mapValues,
    Option.map_map]
  refine congrArg (fun f => Option.map f _) (funext fun c => ?_)
  exact refreshToken_merged _ c

/-- The credential on file is news if the refresh token is not the one that is held. -/
theorem isNews_iff (s : Store) (a : AccountId) (onFile : Credential) :
    isNews (s.held.get? a) onFile = true ↔ s.tokenOf a ≠ some onFile.refreshToken := by
  unfold isNews tokenOf
  cases s.held.get? a <;> simp

/-- A store that holds the refresh tokens of the file, and in which those wait that wait on file and
are not held, finds nothing new there. -/
theorem sync_of_agrees {s : Store} {disk : Disk} {book : AccountBook} (h : readBook disk = .ok book)
    (tokens : ∀ a, s.tokenOf a = ((catalogOf book).get? a).map (·.refreshToken))
    (waiting : s.pending = book.pending.filter fun p => !s.holds p.account) :
    s.sync disk = ⟨.ok 0, s, disk, []⟩ := by
  have hgone : (s.accounts.filter fun a => !(catalogOf book).contains a) = [] := by
    rw [List.filter_eq_nil_iff]
    intro a ha
    have hheld : s.held.contains a = true := Catalog.mem_accounts.1 ha
    have hsome : (s.tokenOf a).isSome = true := by rwa [tokenOf, Option.isSome_map]
    rw [tokens, Option.isSome_map] at hsome
    simp [Catalog.contains, hsome]
  have hnews : ((catalogOf book).toList.filter fun e => isNews (s.held.get? e.1) e.2) = [] := by
    rw [List.filter_eq_nil_iff]
    intro e he
    rw [isNews_iff, tokens, ((catalogOf book).mem_toList_iff e.1 e.2).1 he]
    simp
  have hheld : ((catalogOf book).mapValues fun a c => merged (s.held.get? a) c) = s.held := by
    apply Catalog.ext
    intro a
    have htoken := tokens a
    rw [tokenOf] at htoken
    rw [Catalog.get?_mapValues]
    cases hown : s.held.get? a <;> cases hfile : (catalogOf book).get? a <;>
      simp_all [merged]
  have hpending : (book.pending.filter fun p => !s.held.contains p.account) = s.pending :=
    waiting.symm
  rw [sync, h]
  simp only [hgone, hnews, hheld, hpending]
  rfl

/-! ## Keeping an answer -/

/-- What a store becomes, and writes, when it keeps an answer of the token endpoint. -/
def settled? (s : Store) (now : Int64) (a : AccountId) (g : Grant) : Option Store :=
  (s.held.get? a).map fun c => ⟨s.held.insert a (granted c g now), s.pending⟩

theorem settle_eq (s : Store) (disk : Disk) (now : Int64) (a : AccountId) (g : Grant)
    (fault : WriteFault) :
    s.settle disk now a g fault =
      match s.settled? now a g with
      | none => (s, disk)
      | some s' => (s', (s'.save disk fault).2) := by
  unfold settle settled?
  cases s.held.get? a <;> rfl

theorem settled?_of_held {s : Store} {a : AccountId} {c : Credential}
    (held : s.held.get? a = some c) (now : Int64) (g : Grant) :
    s.settled? now a g = some ⟨s.held.insert a (granted c g now), s.pending⟩ := by
  rw [settled?, held, Option.map_some]

theorem normal_settled {s s' : Store} {now : Int64} {a : AccountId} {g : Grant} (h : s.Normal)
    (hs : s.settled? now a g = some s') : s'.Normal := by
  obtain ⟨c, hc, rfl⟩ := Option.map_eq_some_iff.1 hs
  have hnames : Catalog.AllAccounts AccountId.Normal s.held := h.accounts
  exact ⟨hnames.insert (hnames.of_contains (Option.isSome_of_eq_some hc)) _, h.pending⟩

theorem normal_settle {s : Store} (h : s.Normal) (disk : Disk) (now : Int64) (a : AccountId)
    (g : Grant) (fault : WriteFault) : (s.settle disk now a g fault).1.Normal := by
  rw [settle_eq]
  cases hs : s.settled? now a g with
  | none => exact h
  | some s' => exact normal_settled h hs

end Store

/-! ## Operations -/

/-- What a process does with its store. -/
inductive StoreOp
  /-- It takes over what the account file holds. -/
  | load
  /-- It takes over the changes that others made to the account file. -/
  | sync
  /-- It sets a refresh token. -/
  | upsert (now : Int64) (email refreshToken : String)
  /-- It drops the credentials of an account. -/
  | revoke (email : String)
  /-- It notes an account of the session that waits for credentials. -/
  | adopt (now : Int64) (email : String) (place : UInt64)
  /-- It asks for an access token; the endpoint answers a refresh token, and the answer arrives at a
  time. -/
  | token (asked arrival : Int64) (email : String) (endpoint : String → Except RefreshError Grant)

namespace StoreOp

/-- The store and the data directory after an operation. -/
def run (s : Store) (disk : Disk) (fault : WriteFault) : StoreOp → Store × Disk
  | load => ((s.load disk fault).store, (s.load disk fault).disk)
  | sync => ((s.sync disk).store, (s.sync disk).disk)
  | upsert now email refreshToken =>
    let o := s.upsert disk now (.ofString email) refreshToken fault
    (o.store, o.disk)
  | revoke email =>
    let o := s.revoke disk (.ofString email) fault
    (o.store, o.disk)
  | adopt now email place =>
    let o := s.adopt disk now (.ofString email) place fault
    (o.store, o.disk)
  | token asked arrival email endpoint =>
    (s.requestToken disk asked (.ofString email) (answeringAt arrival endpoint) fault).run.2

/-- Whether an operation takes over what the account file holds. -/
def reads : StoreOp → Bool
  | load => true
  | sync => true
  | _ => false

/-- What an operation writes into the account file: the whole store as it is then, or nothing. -/
def written? (s : Store) : StoreOp → Option Store
  | load => none
  | sync => none
  | upsert now email refreshToken =>
    let a := AccountId.ofString email
    some ⟨s.held.insert a (Store.renewed (s.held.get? a) refreshToken now),
      s.pending.filter (·.account ≠ a)⟩
  | revoke email =>
    let a := AccountId.ofString email
    if s.holds a then some ⟨s.held.erase a, s.pending⟩ else none
  | adopt now email place =>
    let a := AccountId.ofString email
    if s.holds a || s.pending.any (·.account = a) then none
    else some ⟨s.held, s.pending ++ [⟨a, place, now⟩]⟩
  | token asked arrival email endpoint =>
    let a := AccountId.ofString email
    match s.begin asked a with
    | .refresh refreshToken =>
      match endpoint refreshToken, s.held.get? a with
      | .ok g, some c => some ⟨s.held.insert a (Store.granted c g arrival), s.pending⟩
      | _, _ => none
    | _ => none

theorem not_reads_of_written {op : StoreOp} {s s' : Store} (h : op.written? s = some s') :
    op.reads = false := by
  cases op with
  | load | sync => cases h
  | upsert | revoke | adopt | token => rfl

/-- An operation that does not read the file does nothing but write, if anything. -/
theorem run_of_not_reads {op : StoreOp} (h : op.reads = false) (s : Store) (disk : Disk)
    (fault : WriteFault) :
    op.run s disk fault =
      match op.written? s with
      | none => (s, disk)
      | some s' => (s', (s'.save disk fault).2) := by
  cases op with
  | load | sync => cases h
  | upsert now email refreshToken =>
    simp only [run, written?, Store.upsert]
    split
    · next heq => rw [heq]
    · next heq => rw [heq]
  | revoke email =>
    simp only [run, written?, Store.revoke]
    split
    · dsimp only
      split
      · next heq => rw [heq]
      · next heq => rw [heq]
    · rfl
  | adopt now email place =>
    simp only [run, written?, Store.adopt]
    split <;> rfl
  | token asked arrival email endpoint =>
    simp only [run, written?, Store.requestToken]
    cases s.begin asked (.ofString email) with
    | unknown => rfl
    | cached token => rfl
    | refresh refreshToken =>
      simp only [answeringAt]
      cases endpoint refreshToken with
      | error e => rfl
      | ok g =>
        simp only [Store.settle]
        cases s.held.get? (.ofString email) <;> rfl

/-- What an operation writes is in normal form again. -/
theorem normal_written {op : StoreOp} {s s' : Store} (hs : s.Normal)
    (h : op.written? s = some s') : s'.Normal := by
  have hheld : Catalog.AllAccounts AccountId.Normal s.held := hs.accounts
  cases op with
  | load | sync => cases h
  | upsert now email refreshToken =>
    cases h
    exact ⟨hheld.insert (AccountId.normal_ofString email) _,
      fun p hp => hs.pending p (List.mem_filter.1 hp).1⟩
  | revoke email =>
    simp only [written?] at h
    split at h
    · cases h
      exact ⟨hheld.erase _, hs.pending⟩
    · cases h
  | adopt now email place =>
    simp only [written?] at h
    split at h
    · cases h
    · cases h
      refine ⟨hheld, fun p hp => ?_⟩
      rcases List.mem_append.1 hp with hp | hp
      · exact hs.pending p hp
      · rw [List.mem_singleton.1 hp]
        exact AccountId.normal_ofString email
  | token asked arrival email endpoint =>
    simp only [written?] at h
    split at h
    · split at h
      · cases h
        exact ⟨hheld.insert (AccountId.normal_ofString email) _, hs.pending⟩
      · cases h
    · cases h

/-- Whatever a store does, all accounts stay in normal form. -/
theorem normal_run {s : Store} (h : s.Normal) (op : StoreOp) (disk : Disk) (fault : WriteFault) :
    (op.run s disk fault).1.Normal := by
  by_cases hreads : op.reads = true
  · cases op with
    | load => exact Store.normal_load h disk fault
    | sync => exact Store.normal_sync h disk
    | upsert | revoke | adopt | token => cases hreads
  · rw [op.run_of_not_reads (Bool.eq_false_iff.2 hreads)]
    cases hwritten : op.written? s with
    | none => exact h
    | some s' => exact normal_written h hwritten

end StoreOp

end SessionSync
