import SessionSync.Proofs.Store.HeldAndWaiting

/-!
# What the last write left

A sync takes the account file for what others have changed, also where it is only older than the
store: an answer of the token endpoint is kept in memory although it could not be written, and the
file goes on with the refresh token from before. So a store that alone writes its directory goes
back, with a sync, to the refresh tokens that it last managed to write.

* `RefreshEvent.filed?` — what an event puts into the account file, if its write succeeds.
* `Refreshing.lastFiled?`, `tokenFiled` — what the last write that succeeded has put there.
* `tokenOnFile_run` — this is what the file says.
* `sync_returns_to_last_write` — the main result, with `rotation_rolled_back` for a write that
  fails.
-/

namespace SessionSync

/-! ## What is written -/

/-- What an event writes, and what goes wrong with it: the whole store as it is then, or nothing. -/
def RefreshEvent.written? (w : Refreshing) : RefreshEvent → Option (Store × WriteFault)
  | .own op fault => (op.written? w.store).map fun s => (s, fault)
  | .answer place now g fault => do
    let (a, _) ← w.flying[place]?
    (w.store.settled? now a g).map fun s => (s, fault)
  | _ => none

/-- What an event puts into the account file: what it writes, if the file can be replaced. -/
def RefreshEvent.filed? (w : Refreshing) (e : RefreshEvent) : Option Store :=
  match e.written? w with
  | some (s, fault) => if (s.save w.disk fault).1.isOk then some s else none
  | none => none

/-- An event is not a change that somebody else makes. -/
def RefreshEvent.Own (e : RefreshEvent) : Prop :=
  ∀ disk, e ≠ .edit disk

namespace Refreshing

/-- What the last of the writes that succeed in the course of events puts into the account file. -/
def lastFiled? (w : Refreshing) : List RefreshEvent → Option Store
  | [] => none
  | e :: events => ((w.react e).lastFiled? events).or (e.filed? w)

/-- The refresh token of an account in the last write that has succeeded, or on file before. -/
def tokenFiled (w : Refreshing) (events : List RefreshEvent) (a : AccountId) : Option String :=
  match w.lastFiled? events with
  | some s => if a.isEmpty then none else s.tokenOf a
  | none => Store.tokenOnFile w.disk a

variable {w : Refreshing}

theorem run_append (w : Refreshing) (before after : List RefreshEvent) :
    w.run (before ++ after) = (w.run before).run after :=
  List.foldl_append

theorem lastFiled?_append (w : Refreshing) (before after : List RefreshEvent) :
    w.lastFiled? (before ++ after) =
      ((w.run before).lastFiled? after).or (w.lastFiled? before) := by
  induction before generalizing w with
  | nil => simp [lastFiled?, run]
  | cons e before ih =>
    rw [List.cons_append, lastFiled?, ih, lastFiled?, Option.or_assoc]
    rfl

/-! ## One event -/

/-- What an event writes is what the store holds then. -/
theorem react_of_written {e : RefreshEvent} {s : Store} {fault : WriteFault}
    (h : e.written? w = some (s, fault)) :
    (w.react e).store = s ∧ (w.react e).disk = (s.save w.disk fault).2 := by
  cases e with
  | ask | fail | edit => cases h
  | own op fault' =>
    obtain ⟨s', hwritten, hsame⟩ := Option.map_eq_some_iff.1 h
    obtain ⟨rfl, rfl⟩ := Prod.mk.inj hsame
    have hrun := op.run_of_not_reads (StoreOp.not_reads_of_written hwritten) w.store w.disk fault'
    rw [hwritten] at hrun
    simp only [react, hrun, and_self]
  | answer place now g fault' =>
    obtain ⟨⟨a, sent⟩, hflying, h⟩ := Option.bind_eq_some_iff.1 h
    obtain ⟨s', hsettled, hsame⟩ := Option.map_eq_some_iff.1 h
    obtain ⟨rfl, rfl⟩ := Prod.mk.inj hsame
    simp only [react, hflying, Store.settle_eq, hsettled, and_self]

/-- An event that writes nothing leaves a file that can be read as it is. -/
theorem disk_react_of_not_written {e : RefreshEvent} {book : AccountBook} (own : e.Own)
    (readable : readBook w.disk = .ok book) (h : e.written? w = none) :
    (w.react e).disk = w.disk := by
  cases e with
  | ask now a =>
    unfold react
    dsimp only
    split <;> rfl
  | fail place => rfl
  | edit disk => exact absurd rfl (own disk)
  | answer place now g fault =>
    cases hflying : w.flying[place]? with
    | none => simp only [react, hflying]
    | some request =>
      have hunsettled : w.store.settled? now request.1 g = none := by
        simpa [RefreshEvent.written?, hflying] using h
      simp only [react, hflying, Store.settle_eq, hunsettled]
  | own op fault =>
    show (op.run w.store w.disk fault).2 = w.disk
    by_cases hreads : op.reads = true
    · cases op with
      | load => exact congrArg Outcome.disk (w.store.load_of_readBook readable fault)
      | sync => exact (w.store.sync_of_readBook readable).2.1
      | upsert | revoke | adopt | token => cases hreads
    · have hwritten : op.written? w.store = none := Option.map_eq_none_iff.1 h
      rw [op.run_of_not_reads (Bool.eq_false_iff.2 hreads), hwritten]

/-- After an event the account file holds what the event has put there, or what it held before. -/
theorem readBook_react {e : RefreshEvent} {book : AccountBook} (normal : w.store.Normal)
    (own : e.Own) (readable : readBook w.disk = .ok book) :
    readBook (w.react e).disk =
      match e.filed? w with
      | some s => .ok s.book
      | none => readBook w.disk := by
  unfold RefreshEvent.filed?
  cases hwritten : e.written? w with
  | none => rw [disk_react_of_not_written own readable hwritten]
  | some written =>
    obtain ⟨s, fault⟩ := written
    obtain ⟨hstore, hdisk⟩ := react_of_written hwritten
    have hnormal : s.Normal := hstore ▸ normal_react normal e
    rw [hdisk]
    dsimp only
    by_cases h : Writable w.disk fault
    · have hsaved : (s.save w.disk fault).1 = .ok () := saveBook_of_writable h s.book
      obtain ⟨husable, rfl⟩ := h
      rw [hsaved, (s.save_usable husable hnormal).2.2]
      rfl
    · have hkept : s.save w.disk fault = (.error .disk, w.disk) := saveBook_of_unwritable h s.book
      rw [hkept]
      rfl

/-! ## Every run -/

/-- After a run the account file holds what the last write that succeeded has put there. -/
theorem readBook_run {events : List RefreshEvent} {book : AccountBook} (normal : w.store.Normal)
    (own : ∀ e ∈ events, e.Own) (readable : readBook w.disk = .ok book) :
    readBook (w.run events).disk =
      match w.lastFiled? events with
      | some s => .ok s.book
      | none => .ok book := by
  induction events generalizing w book with
  | nil => exact readable
  | cons e events ih =>
    have hreact := readBook_react normal (own e List.mem_cons_self) readable
    have hown : ∀ e' ∈ events, e'.Own := fun e' he' => own e' (List.mem_cons_of_mem e he')
    show readBook ((w.react e).run events).disk = _
    rw [lastFiled?]
    cases hfiled : e.filed? w with
    | some s =>
      rw [hfiled] at hreact
      rw [ih (normal_react normal e) hown hreact]
      cases (w.react e).lastFiled? events <;> rfl
    | none =>
      rw [hfiled] at hreact
      rw [ih (normal_react normal e) hown (hreact.trans readable), Option.or_none]

/-- So it says which refresh tokens were last written. -/
theorem tokenOnFile_run {events : List RefreshEvent} {book : AccountBook} (normal : w.store.Normal)
    (own : ∀ e ∈ events, e.Own) (readable : readBook w.disk = .ok book) (a : AccountId) :
    Store.tokenOnFile (w.run events).disk a = w.tokenFiled events a := by
  have hrun := readBook_run normal own readable
  unfold tokenFiled
  cases hfiled : w.lastFiled? events with
  | some s =>
    rw [hfiled] at hrun
    rw [Store.tokenOnFile, hrun]
    dsimp only
    rw [Store.get?_catalogOf_book, Store.tokenOf]
    split <;> rfl
  | none =>
    rw [hfiled] at hrun
    rw [Store.tokenOnFile, hrun, Store.tokenOnFile, readable]

/-- What was last put into the account file is what the store held at that time. -/
theorem exists_of_lastFiled? {events : List RefreshEvent} {s : Store}
    (h : w.lastFiled? events = some s) :
    ∃ before e after, events = before ++ e :: after
      ∧ (w.run (before ++ [e])).store = s := by
  induction events generalizing w with
  | nil => cases h
  | cons e events ih =>
    rcases Option.or_eq_some_iff.1 h with hlater | ⟨-, hnow⟩
    · obtain ⟨before, e', after, rfl, hstore⟩ := ih hlater
      exact ⟨e :: before, e', after, rfl, hstore⟩
    · refine ⟨[], e, events, rfl, ?_⟩
      unfold RefreshEvent.filed? at hnow
      split at hnow
      · next s' fault hwritten =>
        split at hnow
        · cases hnow
          exact (react_of_written hwritten).1
        · cases hnow
      · cases hnow

/-- If a write has succeeded since the refresh token of an account was set, it has put this one into
the account file. -/
theorem tokenFiled_of_written {before after : List RefreshEvent} {e : RefreshEvent} {a : AccountId}
    {r : String} (named : a.isEmpty = false)
    (since : ∀ earlier, earlier <+: after →
      (w.run (before ++ e :: earlier)).store.tokenOf a = some r)
    (written : (w.run before).lastFiled? (e :: after) ≠ none) :
    w.tokenFiled (before ++ e :: after) a = some r := by
  obtain ⟨s, hs⟩ := Option.ne_none_iff_exists'.1 written
  have htoken : s.tokenOf a = some r := by
    obtain ⟨done, e', rest, hevents, rfl⟩ := exists_of_lastFiled? hs
    rw [← run_append]
    cases done with
    | nil =>
      obtain ⟨rfl, -⟩ := List.cons.inj hevents
      exact since [] (List.nil_prefix)
    | cons first done =>
      obtain ⟨rfl, rfl⟩ := List.cons.inj hevents
      refine since (done ++ [e']) ⟨rest, ?_⟩
      rw [List.append_assoc]
      rfl
  rw [tokenFiled, lastFiled?_append, hs, Option.some_or]
  simp only [named, Bool.false_eq_true, if_false, htoken]

/-- If none has, the account file still says what it did. -/
theorem tokenFiled_of_not_written {before after : List RefreshEvent} (a : AccountId)
    (unwritten : (w.run before).lastFiled? after = none) :
    w.tokenFiled (before ++ after) a = w.tokenFiled before a := by
  rw [tokenFiled, lastFiled?_append, unwritten, Option.none_or, tokenFiled]

end Refreshing

/-! ## Main result -/

section

variable {s : Store} {disk : Disk} {book : AccountBook} {a : AccountId}

theorem tokenOnFile_eq (h : readBook disk = .ok book) (a : AccountId) :
    Store.tokenOnFile disk a = (book.last? a).map (·.refreshToken) := by
  rw [Store.tokenOnFile, h]
  dsimp only
  rw [get?_catalogOf]

/-- A sync announces the accounts for which the file has another refresh token than the store. -/
theorem available_mem_sync_iff (h : readBook disk = .ok book) :
    .available a ∈ (s.sync disk).events ↔
      ∃ r, Store.tokenOnFile disk a = some r ∧ s.tokenOf a ≠ some r := by
  rw [(s.sync_events h).1, tokenOnFile_eq h]
  simp [Store.mem_newIn]

/-- A sync revokes the accounts that are not on file. -/
theorem revoked_mem_sync_iff (h : readBook disk = .ok book) :
    .revoked a ∈ (s.sync disk).events ↔
      s.holds a = true ∧ Store.tokenOnFile disk a = none := by
  rw [(s.sync_events h).1, tokenOnFile_eq h]
  simp [Store.mem_goneFrom]

end

/-- **A sync goes back to the last write that has succeeded.** A store alone writes its directory,
whatever it does, whatever the token endpoint answers and whichever writes fail. A sync then
succeeds, and each account holds the refresh token that it has in the last write that succeeded; the
account is announced as available exactly if this is another one than in memory, and revoked exactly
if there is none although one is in memory. So where an account has got another refresh token than
the one on file, and has held it ever since, the older one is held again and announced exactly if no
write has succeeded since; else the newer one stays, and nothing is announced of the account. -/
theorem sync_returns_to_last_write (w : Refreshing) (normal : w.store.Normal) (book : AccountBook)
    (readable : readBook w.disk = .ok book) (events : List RefreshEvent)
    (own : ∀ e ∈ events, e.Own) :
    let w' := w.run events
    let o := w'.store.sync w'.disk
    (∃ n, o.result = .ok n) ∧ o.disk = w'.disk
      ∧ (∀ a, o.store.tokenOf a = w.tokenFiled events a
        ∧ (.available a ∈ o.events ↔
          ∃ r, w.tokenFiled events a = some r ∧ w'.store.tokenOf a ≠ some r)
        ∧ (.revoked a ∈ o.events ↔
          w'.store.holds a = true ∧ w.tokenFiled events a = none))
      ∧ ∀ before e after a older newer, events = before ++ e :: after → a.isEmpty = false →
        older ≠ newer → w.tokenFiled before a = some older →
        (∀ earlier, earlier <+: after →
          (w.run (before ++ e :: earlier)).store.tokenOf a = some newer) →
        let written := (w.run before).lastFiled? (e :: after) ≠ none
        (o.store.tokenOf a = some older ↔ ¬ written)
          ∧ (.available a ∈ o.events ↔ ¬ written)
          ∧ (o.store.tokenOf a = some newer ↔ written) ∧ .revoked a ∉ o.events := by
  intro w' o
  have htoken (a : AccountId) : Store.tokenOnFile w'.disk a = w.tokenFiled events a :=
    Refreshing.tokenOnFile_run normal own readable a
  obtain ⟨filed, hread⟩ : ∃ filed, readBook w'.disk = .ok filed := by
    have hrun := Refreshing.readBook_run normal own readable
    cases hlast : w.lastFiled? events with
    | some s =>
      rw [hlast] at hrun
      exact ⟨_, hrun⟩
    | none =>
      rw [hlast] at hrun
      exact ⟨_, hrun⟩
  have hheld (a : AccountId) : o.store.tokenOf a = w.tokenFiled events a := by
    rw [w'.store.tokenOf_sync hread, htoken]
  have havailable (a : AccountId) : .available a ∈ o.events ↔
      ∃ r, w.tokenFiled events a = some r ∧ w'.store.tokenOf a ≠ some r := by
    rw [available_mem_sync_iff hread, htoken]
  have hrevoked (a : AccountId) : .revoked a ∈ o.events ↔
      w'.store.holds a = true ∧ w.tokenFiled events a = none := by
    rw [revoked_mem_sync_iff hread, htoken]
  refine ⟨(w'.store.sync_of_readBook hread).1, (w'.store.sync_of_readBook hread).2.1,
    fun a => ⟨hheld a, havailable a, hrevoked a⟩, ?_⟩
  rintro before e after a older newer rfl named hne hfiled since written
  have hnow : w'.store.tokenOf a = some newer := since after List.prefix_rfl
  rw [hheld, havailable, hrevoked, hnow]
  by_cases hwritten : written
  · have hnewer := Refreshing.tokenFiled_of_written named since hwritten
    simp [hnewer, hwritten, hne.symm]
  · have holder : w.tokenFiled (before ++ e :: after) a = some older := by
      rw [Refreshing.tokenFiled_of_not_written a (not_not.1 hwritten), hfiled]
    simp [holder, hwritten, hne, hne.symm]

/-- An endpoint that gives an access token and another refresh token. -/
def rotating : String → Except RefreshError Grant :=
  fun _ => .ok ⟨"access", 3600, "Bearer", some "rotated"⟩

/-- The store and the directory with one account, and its refresh token replaced by an answer that
cannot be written. -/
def rotatedInMemory : List RefreshEvent :=
  [.own (.token 5 5 "x" rotating) .rename]

/-- Another account is noted then, and the note can be written: the replaced refresh token is not
held again. -/
theorem sync_returns_to_last_write_noted :
    let w : Refreshing := { store := loadedStore, disk := loadedDisk }
    let w' := w.run (rotatedInMemory ++ [.own (.adopt 6 "y" 0) .none])
    let o := w'.store.sync w'.disk
    w.tokenFiled [] ⟨"x"⟩ = some "kept"
      ∧ (w.run rotatedInMemory).store.tokenOf ⟨"x"⟩ = some "rotated"
      ∧ o.store.tokenOf ⟨"x"⟩ = some "rotated" ∧ .available ⟨"x"⟩ ∉ o.events
      ∧ .revoked ⟨"x"⟩ ∉ o.events := by
  intro w w' o
  have hread := readBook_eq_ok_iff.2 fileHolds_loaded
  have hnormal : w.store.Normal := normal_of_readBook hread
  have hown : ∀ e ∈ rotatedInMemory ++ [.own (.adopt 6 "y" 0) .none], e.Own := by
    intro e he disk
    rintro rfl
    simp [rotatedInMemory] at he
  have hfiled : w.tokenFiled [] ⟨"x"⟩ = some "kept" := by
    show Store.tokenOnFile loadedDisk ⟨"x"⟩ = some "kept"
    rw [tokenOnFile_eq hread]
    decide +kernel
  have hsince : ∀ earlier, earlier <+: [.own (.adopt 6 "y" 0) .none] →
      (w.run ([] ++ .own (.token 5 5 "x" rotating) .rename :: earlier)).store.tokenOf ⟨"x"⟩ =
        some "rotated" := by
    intro earlier hearlier
    rcases List.prefix_cons_iff.1 hearlier with rfl | ⟨rest, rfl, hrest⟩
    · decide +kernel
    · obtain rfl := List.prefix_nil.1 hrest
      decide +kernel
  have hwritten :
      (w.lastFiled? (rotatedInMemory ++ [.own (.adopt 6 "y" 0) .none])).isSome = true := by
    decide +kernel
  obtain ⟨-, havailable, hheld, hrevoked⟩ :=
    (sync_returns_to_last_write w hnormal _ hread _ hown).2.2.2 [] _ _ ⟨"x"⟩ "kept" "rotated" rfl
      rfl (by decide) hfiled hsince
  have hsome := Option.isSome_iff_ne_none.1 hwritten
  exact ⟨hfiled, by decide +kernel, hheld.2 hsome, fun h => havailable.1 h hsome, hrevoked⟩

/-- An answer that cannot be written replaces a refresh token, and the access token is given all the
same. The next sync takes the file, which nobody has touched, for news: the account holds the
refresh token from before again, and is announced. -/
theorem rotation_rolled_back :
    let w : Refreshing := { store := loadedStore, disk := loadedDisk }
    let w' := w.run rotatedInMemory
    let o := w'.store.sync w'.disk
    (loadedStore.requestToken loadedDisk 5 ⟨"x"⟩ (answeringAt 5 rotating) .rename).run.1.toOption =
        some "access"
      ∧ w.store.tokenOf ⟨"x"⟩ = some "kept" ∧ w'.store.tokenOf ⟨"x"⟩ = some "rotated"
      ∧ w'.disk = w.disk ∧ o.store.tokenOf ⟨"x"⟩ = some "kept"
      ∧ o.events = [.available ⟨"x"⟩] := by
  intro w w' o
  have hread := readBook_eq_ok_iff.2 fileHolds_loaded
  have hdisk : w'.disk = loadedDisk := rfl
  have ho : o = w'.store.sync loadedDisk := by rw [← hdisk]
  have hheld : o.store.tokenOf ⟨"x"⟩ = some "kept" := by
    rw [ho, w'.store.tokenOf_sync hread, tokenOnFile_eq hread]
    decide +kernel
  have hevents : o.events = [.available ⟨"x"⟩] := by
    rw [ho, (w'.store.sync_events hread).1]
    decide +kernel
  exact ⟨by decide +kernel, by decide +kernel, by decide +kernel, hdisk, hheld, hevents⟩

end SessionSync
