import SessionSync.Proofs.Store.CanonicalForm
import SessionSync.Proofs.Store.FailedChanges

/-!
# Held and waiting at once

An account that gets credentials waits for none any more, and one that holds some is not noted as
waiting: every operation of a store keeps the two lists apart, but for one. A load takes over both
lists of the account file as they stand, where a sync leaves out those that are held.

* `Store.Doubled` — an account is in both lists.
* `doubled_load`, `doubled_sync`, `doubled_upsert`, … — what each operation makes of it.
* `Refreshing.doubled_run_iff` — where an account that is in both lists comes from.
* `held_and_waiting_iff` — the main result, with `doubled_by_load` for the exception.
-/

namespace SessionSync

/-! ## Both lists -/

/-- An account holds credentials and waits for some all the same. -/
def Store.Doubled (s : Store) (a : AccountId) : Prop :=
  s.holds a = true ∧ ∃ p ∈ s.pending, p.account = a

instance (s : Store) (a : AccountId) : Decidable (s.Doubled a) :=
  inferInstanceAs (Decidable (_ ∧ _))

/-- The account file lists an account with credentials and among those that wait for some. -/
def DoubledOnFile (disk : Disk) (a : AccountId) : Prop :=
  ∃ book, FileHolds disk book ∧ (book.last? a).isSome = true ∧ ∃ p ∈ book.pending, p.account = a

section

variable {disk : Disk} {book : AccountBook} {a : AccountId}

theorem doubledOnFile_iff (h : readBook disk = .ok book) :
    DoubledOnFile disk a ↔ Store.Doubled ⟨Store.catalogOf book, book.pending⟩ a := by
  rw [Store.Doubled, Store.holds, contains_catalogOf]
  constructor
  · rintro ⟨book', hbook', hdoubled⟩
    obtain rfl : book' = book := by
      rw [← readBook_eq_ok_iff, h] at hbook'
      exact (Except.ok.inj hbook').symm
    exact hdoubled
  · exact fun hdoubled => ⟨book, readBook_eq_ok_iff.1 h, hdoubled⟩

theorem not_doubledOnFile_of_error {e : FileError} (h : readBook disk = .error e) :
    ¬ DoubledOnFile disk a := by
  rintro ⟨book, hbook, -⟩
  rw [← readBook_eq_ok_iff, h] at hbook
  cases hbook

theorem not_doubledOnFile_moveBookAside (disk : Disk) (a : AccountId) :
    ¬ DoubledOnFile (moveBookAside disk) a := by
  rw [doubledOnFile_iff (readBook_moveBookAside disk)]
  rintro ⟨-, p, hp, -⟩
  cases hp

end

/-! ## What operations make of them -/

namespace Store

variable {s : Store} {disk : Disk} {a : AccountId}

theorem doubled_load (s : Store) (disk : Disk) (fault : WriteFault) (a : AccountId) :
    (s.load disk fault).store.Doubled a ↔
      DoubledOnFile disk a ∨ s.Doubled a ∧ ¬ ∃ n, (s.load disk fault).result = .ok n := by
  obtain ⟨book, hread, hload⟩ | ⟨hread, -, hload⟩ | ⟨e, e', hread, hload⟩ := s.load_cases disk fault
  · rw [hload, doubledOnFile_iff hread]
    simp
  · have hempty : ¬ empty.Doubled a := fun h => Bool.false_ne_true h.1
    rw [hload]
    simp [not_doubledOnFile_of_error hread, hempty]
  · rw [hload]
    simp [not_doubledOnFile_of_error hread]

theorem doubled_sync (s : Store) (disk : Disk) (a : AccountId) : (s.sync disk).store.Doubled a ↔
    s.Doubled a ∧ ¬ ∃ n, (s.sync disk).result = .ok n := by
  cases hread : readBook disk with
  | ok book =>
    have happart : ¬ (s.sync disk).store.Doubled a := by
      rintro ⟨hholds, p, hp, rfl⟩
      rw [s.holds_sync hread] at hholds
      rw [s.waiting_sync hread, List.mem_filter, ← Option.not_isSome, hholds] at hp
      exact Bool.false_ne_true hp.2
    exact iff_of_false happart fun h => h.2 (s.sync_of_readBook hread).1
  | error e =>
    rw [s.sync_of_error hread]
    simp

theorem doubled_given (s : Store) (b : AccountId) (refreshToken : String) (now : Int64) :
    (s.given b refreshToken now).Doubled a ↔ s.Doubled a ∧ b ≠ a := by
  by_cases hba : b = a
  · simp [Doubled, given, hba]
  · have hab : a ≠ b := Ne.symm hba
    have hwaits (p : Adoption) : (p.account ≠ b ∧ p.account = a) ↔ p.account = a :=
      and_iff_right_of_imp fun hp => hp ▸ hab
    simp [Doubled, given, holds, Catalog.contains_insert, hab, hba, and_assoc, hwaits]

theorem doubled_without (s : Store) (b : AccountId) :
    (s.without b).Doubled a ↔ s.Doubled a ∧ b ≠ a := by
  by_cases hba : b = a
  · obtain rfl := hba
    simp [Doubled, s.not_holds_without b]
  · have hab : a ≠ b := Ne.symm hba
    simp [Doubled, without, holds, Catalog.contains_erase, hab, hba]

theorem doubled_upsert (s : Store) (disk : Disk) (now : Int64) (b : AccountId)
    (refreshToken : String) (fault : WriteFault) :
    (s.upsert disk now b refreshToken fault).store.Doubled a ↔ s.Doubled a ∧ b ≠ a := by
  by_cases h : Writable disk fault
  · rw [upsert_of_writable h, doubled_given]
  · rw [upsert_of_unwritable h, doubled_given]

theorem doubled_revoke (s : Store) (disk : Disk) (b : AccountId) (fault : WriteFault) :
    (s.revoke disk b fault).store.Doubled a ↔ s.Doubled a ∧ b ≠ a := by
  cases hholds : s.holds b with
  | true =>
    by_cases h : Writable disk fault
    · rw [revoke_of_writable hholds h, doubled_without]
    · rw [revoke_of_unwritable hholds h, doubled_without]
  | false =>
    rw [revoke_of_not_held hholds]
    refine (and_iff_left_of_imp fun hdoubled hba => ?_).symm
    rw [hba, hdoubled.1] at hholds
    cases hholds

theorem doubled_adopt (s : Store) (disk : Disk) (now : Int64) (b : AccountId) (place : UInt64)
    (fault : WriteFault) : (s.adopt disk now b place fault).store.Doubled a ↔ s.Doubled a := by
  unfold adopt
  split
  · rfl
  · next hnew =>
    -- whoever is noted here does not hold credentials
    have hholds : s.holds a = true → b ≠ a := by
      rintro ha rfl
      simp [ha] at hnew
    show (s.holds a = true ∧ ∃ p ∈ s.pending ++ [⟨b, place, now⟩], p.account = a) ↔ _
    refine and_congr_right fun ha => ?_
    simp [or_and_right, exists_or, hholds ha]

theorem doubled_settle (s : Store) (disk : Disk) (now : Int64) (b : AccountId) (g : Grant)
    (fault : WriteFault) : (s.settle disk now b g fault).1.Doubled a ↔ s.Doubled a := by
  unfold settle
  cases hheld : s.held.get? b with
  | none => rfl
  | some c =>
    have hb : s.held.contains b = true := Option.isSome_of_eq_some hheld
    simp only [Doubled, holds, Catalog.contains_insert]
    refine and_congr_left fun _ => or_iff_right_of_imp ?_
    rintro rfl
    exact hb

theorem doubled_requestToken (s : Store) (disk : Disk) (asked arrival : Int64) (b : AccountId)
    (endpoint : String → Except RefreshError Grant) (fault : WriteFault) :
    (s.requestToken disk asked b (answeringAt arrival endpoint) fault).run.2.1.Doubled a ↔
      s.Doubled a := by
  unfold requestToken
  cases s.begin asked b with
  | unknown | cached => rfl
  | refresh sent =>
    dsimp only [answeringAt]
    cases endpoint sent with
    | error e => rfl
    | ok g => exact s.doubled_settle disk arrival b g fault

end Store

/-- An operation that leaves an account in one list at most, unless it finds it in both on file: a
load or a sync that succeeds, and a change of its credentials, whether or not it can be written. -/
def StoreOp.Parts (s : Store) (disk : Disk) (fault : WriteFault) (a : AccountId) : StoreOp → Prop
  | load => ∃ n, (s.load disk fault).result = .ok n
  | sync => ∃ n, (s.sync disk).result = .ok n
  | upsert _ email _ => .ofString email = a
  | revoke email => .ofString email = a
  | adopt _ _ _ => False
  | token _ _ _ _ => False

/-- After an operation an account is in both lists if it is a load that has found it so on file, or
if it was before and the operation does not part them. -/
theorem StoreOp.doubled_run (op : StoreOp) (s : Store) (disk : Disk) (fault : WriteFault)
    (a : AccountId) : (op.run s disk fault).1.Doubled a ↔
      op = load ∧ DoubledOnFile disk a ∨ s.Doubled a ∧ ¬ op.Parts s disk fault a := by
  cases op with
  | load => simp only [run, Parts, Store.doubled_load, true_and]
  | sync => simp only [run, Parts, Store.doubled_sync, reduceCtorEq, false_and, false_or]
  | upsert => simp only [run, Parts, Store.doubled_upsert, reduceCtorEq, false_and, false_or, ne_eq]
  | revoke => simp only [run, Parts, Store.doubled_revoke, reduceCtorEq, false_and, false_or, ne_eq]
  | adopt => simp [run, Parts, Store.doubled_adopt]
  | token => simp [run, Parts, Store.doubled_requestToken]

/-- An event that leaves an account in one list at most, unless it finds it in both on file. -/
def RefreshEvent.Parts (w : Refreshing) (a : AccountId) : RefreshEvent → Prop
  | .own op fault => op.Parts w.store w.disk fault a
  | _ => False

/-- An event that finds an account in both lists on file, and takes them over. -/
def RefreshEvent.Doubles (w : Refreshing) (a : AccountId) (e : RefreshEvent) : Prop :=
  (∃ fault, e = .own .load fault) ∧ DoubledOnFile w.disk a

/-- None of the events parts the lists for an account. -/
def Refreshing.Unparted (w : Refreshing) (a : AccountId) : List RefreshEvent → Prop
  | [] => True
  | e :: events => ¬ e.Parts w a ∧ (w.react e).Unparted a events

namespace Refreshing

/-- After an event an account is in both lists if the event has found it so on file, or if it was
before and the event does not part them. -/
theorem doubled_react_iff (w : Refreshing) (e : RefreshEvent) (a : AccountId) :
    (w.react e).store.Doubled a ↔ e.Doubles w a ∨ w.store.Doubled a ∧ ¬ e.Parts w a := by
  cases e with
  | ask now b =>
    have hsame : (w.react (.ask now b)).store = w.store := by
      unfold react
      dsimp only
      split <;> rfl
    simp [hsame, RefreshEvent.Doubles, RefreshEvent.Parts]
  | fail place | edit disk => simp [react, RefreshEvent.Doubles, RefreshEvent.Parts]
  | answer place now g fault =>
    have hsame : (w.react (.answer place now g fault)).store.Doubled a ↔ w.store.Doubled a := by
      unfold react
      dsimp only
      split
      · rfl
      · exact w.store.doubled_settle w.disk now _ g fault
    simp [hsame, RefreshEvent.Doubles, RefreshEvent.Parts]
  | own op fault =>
    simpa [react, RefreshEvent.Doubles, RefreshEvent.Parts] using
      op.doubled_run w.store w.disk fault a

/-- After a run an account is in both lists if a load has found it so on file and nothing has parted
them since, or if it was before and nothing has parted them at all. -/
theorem doubled_run_iff (w : Refreshing) (events : List RefreshEvent) (a : AccountId) :
    (w.run events).store.Doubled a ↔
      w.store.Doubled a ∧ w.Unparted a events
        ∨ ∃ before fault after, events = before ++ .own .load fault :: after
          ∧ DoubledOnFile (w.run before).disk a
          ∧ (w.run (before ++ [.own .load fault])).Unparted a after := by
  induction events generalizing w with
  | nil => simp [run, Unparted]
  | cons e events ih =>
    show ((w.react e).run events).store.Doubled a ↔ _
    rw [ih, doubled_react_iff]
    constructor
    · rintro (⟨⟨⟨fault, rfl⟩, hfile⟩ | ⟨hdoubled, hkept⟩, hrest⟩ | ⟨before, fault, after, rfl, h⟩)
      · exact .inr ⟨[], fault, events, rfl, hfile, hrest⟩
      · exact .inl ⟨hdoubled, hkept, hrest⟩
      · exact .inr ⟨e :: before, fault, after, rfl, h⟩
    · rintro (⟨hdoubled, hkept, hrest⟩ | ⟨before, fault, after, hevents, hfile, hrest⟩)
      · exact .inl ⟨.inr ⟨hdoubled, hkept⟩, hrest⟩
      · cases before with
        | nil =>
          obtain ⟨rfl, rfl⟩ := List.cons.inj hevents
          exact .inl ⟨.inl ⟨⟨fault, rfl⟩, hfile⟩, hrest⟩
        | cons first before =>
          obtain ⟨rfl, rfl⟩ := List.cons.inj hevents
          exact .inr ⟨before, fault, after, rfl, hfile, hrest⟩

end Refreshing

/-! ## What a store leaves on file -/

section

variable {disk : Disk} {a : AccountId} {fault : WriteFault}

/-- Where a store has been written, or has failed to be, an account is in both lists only if it was
before or is in the store. -/
theorem DoubledOnFile.of_save {s : Store} (normal : s.Normal)
    (h : DoubledOnFile (s.save disk fault).2 a) : DoubledOnFile disk a ∨ s.Doubled a := by
  rcases readBook_saveBook normal disk fault with hsame | hnew
  · obtain ⟨book, hbook, hdoubled⟩ := h
    refine .inl ⟨book, readBook_eq_ok_iff.1 ?_, hdoubled⟩
    rw [← hsame]
    exact readBook_eq_ok_iff.2 hbook
  · obtain ⟨hholds, hwaits⟩ := (doubledOnFile_iff hnew).1 h
    refine .inr ⟨?_, hwaits⟩
    rw [Store.holds, Catalog.contains, Store.get?_catalogOf_book] at hholds
    split at hholds
    · cases hholds
    · exact hholds

theorem DoubledOnFile.of_load {s : Store} (h : DoubledOnFile (s.load disk fault).disk a) :
    DoubledOnFile disk a := by
  obtain ⟨book, -, hload⟩ | ⟨-, -, hload⟩ | ⟨e, e', -, hload⟩ := s.load_cases disk fault <;>
    rw [hload] at h
  · exact h
  · exact absurd h (not_doubledOnFile_moveBookAside disk a)
  · exact h

theorem DoubledOnFile.of_sync {s : Store} (h : DoubledOnFile (s.sync disk).disk a) :
    DoubledOnFile disk a := by
  cases hread : readBook disk with
  | ok book => rwa [(s.sync_of_readBook hread).2.1] at h
  | error e => rwa [s.sync_of_error hread] at h

theorem DoubledOnFile.of_run {s : Store} (normal : s.Normal) (op : StoreOp)
    (h : DoubledOnFile (op.run s disk fault).2 a) :
    DoubledOnFile disk a ∨ (op.run s disk fault).1.Doubled a := by
  by_cases hreads : op.reads = true
  · cases op with
    | load => exact .inl h.of_load
    | sync => exact .inl h.of_sync
    | upsert | revoke | adopt | token => cases hreads
  · rw [op.run_of_not_reads (Bool.eq_false_iff.2 hreads)] at h ⊢
    cases hwritten : op.written? s with
    | none =>
      rw [hwritten] at h
      exact .inl h
    | some s' =>
      rw [hwritten] at h
      exact h.of_save (StoreOp.normal_written normal hwritten)

end

namespace Refreshing

variable {w : Refreshing} {a : AccountId}

/-- An event that is no edit leaves an account in both lists on file only if it was before or is in
the store. -/
theorem doubledOnFile_react (normal : w.store.Normal) {e : RefreshEvent}
    (own : ∀ disk, e ≠ .edit disk) (h : DoubledOnFile (w.react e).disk a) :
    DoubledOnFile w.disk a ∨ (w.react e).store.Doubled a := by
  cases e with
  | ask now b =>
    unfold react at h
    dsimp only at h
    split at h <;> exact .inl h
  | fail place => exact .inl h
  | edit disk => exact absurd rfl (own disk)
  | own op fault => exact DoubledOnFile.of_run normal op h
  | answer place now g fault =>
    have hnormal := normal_react normal (.answer place now g fault)
    cases hflying : w.flying[place]? with
    | none =>
      simp only [react, hflying] at h
      exact .inl h
    | some request =>
      obtain ⟨b, sent⟩ := request
      cases hheld : w.store.held.get? b with
      | none =>
        rw [react_answer_of_not_held hflying hheld] at h
        exact .inl h
      | some c =>
        rw [react_answer_of_held hflying hheld] at h hnormal ⊢
        exact h.of_save hnormal

/-- As long as nobody else leaves an account in both lists on file, it is in one list at most, in
memory and on file. -/
theorem not_doubled_run (normal : w.store.Normal) {events : List RefreshEvent}
    (edits : ∀ disk, .edit disk ∈ events → ¬ DoubledOnFile disk a)
    (memory : ¬ w.store.Doubled a) (file : ¬ DoubledOnFile w.disk a) :
    ¬ (w.run events).store.Doubled a ∧ ¬ DoubledOnFile (w.run events).disk a := by
  induction events generalizing w with
  | nil => exact ⟨memory, file⟩
  | cons e events ih =>
    have hmemory : ¬ (w.react e).store.Doubled a := by
      rw [doubled_react_iff]
      rintro (⟨-, hfile⟩ | ⟨hdoubled, -⟩)
      · exact file hfile
      · exact memory hdoubled
    have hfile : ¬ DoubledOnFile (w.react e).disk a := by
      intro h
      by_cases hedit : ∃ disk, e = .edit disk
      · obtain ⟨disk, rfl⟩ := hedit
        exact edits disk List.mem_cons_self h
      · rcases doubledOnFile_react normal (fun disk he => hedit ⟨disk, he⟩) h with h | h
        · exact file h
        · exact hmemory h
    exact ih (normal_react normal e) (fun disk hdisk => edits disk (List.mem_cons_of_mem e hdisk))
      hmemory hfile

end Refreshing

/-! ## Main result -/

/-- **An account that is held and waits for credentials at once has been loaded so.** Whatever
happens to a store that starts with nothing (operations, answers to requests in flight, writes that
fail, and changes that others make to the directory), an account is in both lists exactly if a load
has found it in both on file, and since then no load or sync has succeeded and its credentials have
not been changed. No store writes such a file by itself: if there is none to begin with and nobody
else leaves one, the account is in one list at most, in memory and on file. -/
theorem held_and_waiting_iff (disk : Disk) (events : List RefreshEvent) (a : AccountId) :
    let start : Refreshing := { store := .empty, disk }
    ((start.run events).store.Doubled a ↔
        ∃ before fault after, events = before ++ .own .load fault :: after
          ∧ DoubledOnFile (start.run before).disk a
          ∧ (start.run (before ++ [.own .load fault])).Unparted a after)
      ∧ (¬ DoubledOnFile disk a → (∀ disk', .edit disk' ∈ events → ¬ DoubledOnFile disk' a) →
        ¬ (start.run events).store.Doubled a ∧ ¬ DoubledOnFile (start.run events).disk a) := by
  intro start
  have hnormal : start.store.Normal := AccountBook.normal_empty
  have hnone : ¬ start.store.Doubled a := fun h => Bool.false_ne_true h.1
  refine ⟨?_, fun hfile hedits => Refreshing.not_doubled_run hnormal hedits hnone hfile⟩
  rw [start.doubled_run_iff]
  simp only [hnone, false_and, false_or]

/-- A book that lists an account with credentials and among those that wait for some. -/
def doubledBook : AccountBook where
  version := "1.0"
  accounts := [(⟨"x@x"⟩, ⟨"token", none, 1, 2⟩)]
  pending := [⟨⟨"x@x"⟩, 0, 3⟩]

/-- A directory with that book. -/
def doubledDisk : Disk :=
  some [(accountFile, .file doubledBook.toBytes)]

theorem readBook_doubledDisk : readBook doubledDisk = .ok doubledBook := by
  have haccounts : ∀ e ∈ doubledBook.accounts, AccountId.ofString e.1.text = e.1 := by
    decide +kernel
  have hpending : ∀ p ∈ doubledBook.pending, AccountId.ofString p.account.text = p.account := by
    decide +kernel
  exact readBook_of_file ⟨haccounts, hpending⟩ rfl

/-- In an empty directory an account is noted as waiting and then gets credentials, which others
cannot undo with a file that they spoil. With the book above it is in both lists once the file has
been loaded, and another account that is noted then does not change that. -/
theorem held_and_waiting_iff_noted :
    let noted : List RefreshEvent :=
      [.own (.adopt 1 "x@x" 0) .none, .own (.upsert 2 "x@x" "token") .rename,
        .edit (some [(accountFile, .file [0x7B])]), .own .sync .none]
    let later : List RefreshEvent :=
      [.own .load .none, .own (.adopt 4 "y@x" 1) (.write 5), .ask 5 ⟨"x@x"⟩]
    (¬ (Refreshing.run { store := .empty, disk := some [] } noted).store.Doubled ⟨"x@x"⟩
        ∧ (Refreshing.run { store := .empty, disk := some [] } noted).store.accounts = [⟨"x@x"⟩])
      ∧ (Refreshing.run { store := .empty, disk := doubledDisk } later).store.Doubled ⟨"x@x"⟩ := by
  intro noted later
  have hempty : ¬ DoubledOnFile (some []) ⟨"x@x"⟩ := by
    have hread : readBook (some []) = .ok .empty := rfl
    rw [doubledOnFile_iff hread]
    exact fun h => Bool.false_ne_true h.1
  have hedits : ∀ disk', .edit disk' ∈ noted → ¬ DoubledOnFile disk' ⟨"x@x"⟩ := by
    intro disk' hdisk'
    obtain rfl : disk' = some [(accountFile, .file [0x7B])] := by simpa [noted] using hdisk'
    have hread : readBook (some [(accountFile, .file [0x7B])]) = .error .malformed := by
      decide +kernel
    exact not_doubledOnFile_of_error hread
  refine ⟨⟨((held_and_waiting_iff (some []) noted ⟨"x@x"⟩).2 hempty hedits).1, by decide +kernel⟩,
    (held_and_waiting_iff doubledDisk later ⟨"x@x"⟩).1.2 ⟨[], .none, _, rfl, ?_, ?_⟩⟩
  · exact (doubledOnFile_iff readBook_doubledDisk).2 (by decide +kernel)
  · exact ⟨id, id, trivial⟩

/-- A new store loads the book above, and an account that holds credentials waits for some. A sync
with the same file tells the two lists apart. -/
theorem doubled_by_load :
    let loaded := (Store.empty.load doubledDisk .none).store
    let synced := (Store.empty.sync doubledDisk).store
    loaded.Doubled ⟨"x@x"⟩ ∧ loaded.accounts = [⟨"x@x"⟩] ∧ loaded.pending = [⟨⟨"x@x"⟩, 0, 3⟩]
      ∧ synced.holds ⟨"x@x"⟩ = true ∧ synced.pending = [] := by
  dsimp only
  rw [Store.empty.load_of_readBook readBook_doubledDisk,
    Store.empty.holds_sync readBook_doubledDisk, Store.empty.waiting_sync readBook_doubledDisk]
  decide +kernel

end SessionSync
