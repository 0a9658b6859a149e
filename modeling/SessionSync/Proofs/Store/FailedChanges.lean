import SessionSync.Proofs.Store.Commands
import SessionSync.Proofs.Store.FileDifference
import SessionSync.Proofs.Store.Saving

/-!
# Changes that cannot be written

Setting or dropping credentials changes the store first and the account file then. When the file
cannot be replaced, the directory stays exactly as it was and nothing is announced, but the store
goes on with the change: a refresh token that could not be written is held all the same, and one
that could not be dropped is dropped in memory alone.

* `upsert_of_unwritable`, `revoke_of_unwritable` — what such a change comes to.
* `SetInMemory`, `DroppedInMemory` — what it leaves, and what comes of the next attempt.
* `failed_change` — the main result.
* `revocation_forgotten` — credentials that are dropped twice and come back.
-/

namespace SessionSync

namespace Store

/-! ## What a change makes of the store -/

/-- The store with the refresh token of an account set. -/
def given (s : Store) (a : AccountId) (refreshToken : String) (now : Int64) : Store :=
  ⟨s.held.insert a (renewed (s.held.get? a) refreshToken now), s.pending.filter (·.account ≠ a)⟩

/-- The store without the credentials of an account. -/
def without (s : Store) (a : AccountId) : Store :=
  ⟨s.held.erase a, s.pending⟩

section

variable {s : Store} {disk : Disk} {fault : WriteFault} {now later : Int64} {a : AccountId}
  {refreshToken : String}

theorem upsert_of_writable (h : Writable disk fault) :
    s.upsert disk now a refreshToken fault =
      ⟨.ok (), s.given a refreshToken now, ((s.given a refreshToken now).save disk fault).2,
        [.available a]⟩ := by
  obtain rfl := h.2
  exact upsert_of_saved rfl (saveBook_of_writable h _)

theorem upsert_of_unwritable (h : ¬ Writable disk fault) :
    s.upsert disk now a refreshToken fault =
      ⟨.error .disk, s.given a refreshToken now, disk, []⟩ := by
  have hsave : (s.given a refreshToken now).save disk fault = (.error .disk, disk) :=
    saveBook_of_unwritable h _
  unfold given at hsave ⊢
  unfold upsert
  dsimp only
  rw [hsave]

theorem revoke_of_writable (holds : s.holds a = true) (h : Writable disk fault) :
    s.revoke disk a fault =
      ⟨.ok true, s.without a, ((s.without a).save disk fault).2, [.revoked a]⟩ := by
  obtain rfl := h.2
  exact revoke_of_saved holds rfl (saveBook_of_writable h _)

theorem revoke_of_unwritable (holds : s.holds a = true) (h : ¬ Writable disk fault) :
    s.revoke disk a fault = ⟨.error .disk, s.without a, disk, []⟩ := by
  have hsave : (s.without a).save disk fault = (.error .disk, disk) := saveBook_of_unwritable h _
  unfold without at hsave ⊢
  rw [revoke, if_pos holds]
  dsimp only
  rw [hsave]

theorem revoke_of_not_held (lost : s.holds a = false) :
    s.revoke disk a fault = ⟨.ok false, s, disk, []⟩ := by
  rw [revoke, if_neg (Bool.eq_false_iff.1 lost)]

theorem not_holds_without (s : Store) (a : AccountId) : (s.without a).holds a = false := by
  rw [holds, without, Catalog.contains, Catalog.get?_erase, if_pos rfl]
  rfl

/-! ## The same change again -/

theorem renewed_renewed (c : Credential) :
    renewed (some (renewed (some c) refreshToken now)) refreshToken later =
      renewed (some c) refreshToken later := by
  unfold renewed
  dsimp only
  split <;> simp

theorem renewed_new : renewed (some (renewed none refreshToken now)) refreshToken later =
    ⟨refreshToken, none, now, later⟩ := by
  simp [renewed, Credential.new]

/-- Setting the refresh token of an account that is held once more is the same as setting it then
for the first time. -/
theorem given_given (holds : s.holds a = true) :
    (s.given a refreshToken now).given a refreshToken later = s.given a refreshToken later := by
  obtain ⟨c, hc⟩ := Option.isSome_iff_exists.1 holds
  simp only [given, Catalog.get?_insert, if_pos, Catalog.insert_insert, hc, renewed_renewed,
    List.filter_filter, Bool.and_self]

/-- An account that is new keeps the time of the first attempt. -/
theorem given_given_of_new (new : s.holds a = false) :
    (s.given a refreshToken now).given a refreshToken later =
      ⟨s.held.insert a ⟨refreshToken, none, now, later⟩, s.pending.filter (·.account ≠ a)⟩ := by
  have hnone : s.held.get? a = none := Option.not_isSome_iff_eq_none.1 (Bool.eq_false_iff.1 new)
  simp only [given, Catalog.get?_insert, if_pos, Catalog.insert_insert, hnone, renewed_new,
    List.filter_filter, Bool.and_self]

/-- Setting a refresh token changes nothing exactly if the account holds it, has been used in the
same second, and does not wait. -/
theorem given_eq_self_iff : s.given a refreshToken now = s ↔
    (∃ c, s.held.get? a = some c ∧ c.refreshToken = refreshToken ∧ c.lastUsed = now)
      ∧ ∀ p ∈ s.pending, p.account ≠ a := by
  have hstore : s.given a refreshToken now = s ↔
      s.held.get? a = some (renewed (s.held.get? a) refreshToken now)
        ∧ s.pending.filter (·.account ≠ a) = s.pending := by
    rw [← Catalog.insert_eq_self_iff]
    constructor
    · intro h
      exact ⟨congrArg Store.held h, congrArg Store.pending h⟩
    · rintro ⟨hheld, hpending⟩
      rw [given, hheld, hpending]
  have hcredential : s.held.get? a = some (renewed (s.held.get? a) refreshToken now) ↔
      ∃ c, s.held.get? a = some c ∧ c.refreshToken = refreshToken ∧ c.lastUsed = now := by
    cases hheld : s.held.get? a with
    | none => simp
    | some c =>
      obtain ⟨token, access, created, used⟩ := c
      by_cases htoken : token = refreshToken
      · simp [renewed, htoken, eq_comm]
      · simp [renewed, htoken]
  rw [hstore, hcredential, List.filter_eq_self]
  simp

end

/-! ## What is left behind -/

/-- What an attempt to set a refresh token leaves that could not be written. -/
structure SetInMemory (s : Store) (disk : Disk) (now : Int64) (a : AccountId)
    (refreshToken : String) (o : Outcome Unit) : Prop where
  /-- The directory is as it was. -/
  directory : o.disk = disk
  /-- Nothing is announced. -/
  silent : o.events = []
  /-- The store goes on as if the refresh token had been written. -/
  memory : o.store = s.given a refreshToken now
  /-- So it is as it was only if there was nothing to set. -/
  unchanged : o.store = s ↔
    (∃ c, s.held.get? a = some c ∧ c.refreshToken = refreshToken ∧ c.lastUsed = now)
      ∧ ∀ p ∈ s.pending, p.account ≠ a
  /-- For an account that was held the next attempt is like the first. -/
  again : s.holds a = true → ∀ disk' later fault,
    o.store.upsert disk' later a refreshToken fault = s.upsert disk' later a refreshToken fault
  /-- For an account that was new it is too, but for the time at which the account was added. -/
  againNew : s.holds a = false → ∀ disk' later fault,
    let first := s.upsert disk' later a refreshToken fault
    let next := o.store.upsert disk' later a refreshToken fault
    next.result = first.result ∧ next.events = first.events
      ∧ next.store.pending = first.store.pending
      ∧ first.store.held = s.held.insert a ⟨refreshToken, none, later, later⟩
      ∧ next.store.held = s.held.insert a ⟨refreshToken, none, now, later⟩

/-- What an attempt to drop credentials leaves that could not be written. -/
structure DroppedInMemory (s : Store) (disk : Disk) (a : AccountId) (o : Outcome Bool) : Prop where
  /-- The directory is as it was. -/
  directory : o.disk = disk
  /-- Nothing is announced. -/
  silent : o.events = []
  /-- The store goes on without the credentials. -/
  memory : o.store = s.without a
  /-- So it is not as it was. -/
  changed : o.store ≠ s
  /-- The next attempt finds nothing to drop, and neither writes nor announces anything. -/
  again : ∀ disk' fault, o.store.revoke disk' a fault = ⟨.ok false, o.store, disk', []⟩
  /-- The first would have dropped the credentials in such a directory and announced it. -/
  first : ∀ disk' fault, Writable disk' fault →
    (s.revoke disk' a fault).result = .ok true ∧ (s.revoke disk' a fault).events = [.revoked a]
  /-- If the file still has the credentials, a sync brings them back and announces them. -/
  back : ∀ book filed, FileHolds disk book → book.last? a = some filed →
    (o.store.sync disk).store.held.get? a = some filed
      ∧ .available a ∈ (o.store.sync disk).events

section

variable {s : Store} {disk : Disk} {fault : WriteFault} {a : AccountId}

theorem setInMemory_upsert (h : ¬ Writable disk fault) (now : Int64) (refreshToken : String) :
    SetInMemory s disk now a refreshToken (s.upsert disk now a refreshToken fault) := by
  rw [upsert_of_unwritable h]
  refine ⟨rfl, rfl, rfl, given_eq_self_iff, fun holds disk' later fault' => ?_,
    fun new disk' later fault' => ?_⟩
  · by_cases h' : Writable disk' fault'
    · rw [upsert_of_writable h', upsert_of_writable h', given_given holds]
    · rw [upsert_of_unwritable h', upsert_of_unwritable h', given_given holds]
  · have hnone : s.held.get? a = none := Option.not_isSome_iff_eq_none.1 (Bool.eq_false_iff.1 new)
    have hfirst : (s.given a refreshToken later).held =
        s.held.insert a ⟨refreshToken, none, later, later⟩ := by
      rw [given, hnone]
      rfl
    by_cases h' : Writable disk' fault'
    · simp only [upsert_of_writable h', given_given_of_new new]
      exact ⟨trivial, trivial, rfl, hfirst, trivial⟩
    · simp only [upsert_of_unwritable h', given_given_of_new new]
      exact ⟨trivial, trivial, rfl, hfirst, trivial⟩

theorem droppedInMemory_revoke (holds : s.holds a = true) (h : ¬ Writable disk fault) :
    DroppedInMemory s disk a (s.revoke disk a fault) := by
  have hlost := s.not_holds_without a
  rw [revoke_of_unwritable holds h]
  refine ⟨rfl, rfl, rfl, fun hsame => ?_, fun disk' fault' => revoke_of_not_held hlost,
    fun disk' fault' h' => ?_, fun book filed hfile hfiled => ?_⟩
  · have hsame' : s.without a = s := hsame
    rw [hsame', holds] at hlost
    cases hlost
  · rw [revoke_of_writable holds h']
    exact ⟨rfl, rfl⟩
  · have htoken : (s.without a).tokenOf a ≠ some filed.refreshToken := by
      rw [tokenOf, without, Catalog.get?_erase, if_pos rfl, Option.map_none]
      exact (Option.some_ne_none _).symm
    have hread := readBook_eq_ok_iff.2 hfile
    refine ⟨((s.without a).takesOver_sync hread).replaced a filed hfiled htoken, ?_⟩
    rw [((s.without a).sync_events hread).1]
    exact List.mem_append_right _ (List.mem_map_of_mem (mem_newIn.2 ⟨filed, hfiled, htoken⟩))

end

end Store

/-! ## Main result -/

/-- **A change of credentials that cannot be written is made in memory alone.** Setting a refresh
token fails exactly if the account file cannot be replaced, and dropping credentials exactly if
there are some besides. Whatever the reason, the directory stays as it was, nothing is announced,
and the store has changed; setting the refresh token again makes up for it, and dropping the
credentials again does not. -/
theorem failed_change (s : Store) (disk : Disk) (a : AccountId) (fault : WriteFault) :
    (∀ now refreshToken, let o := s.upsert disk now a refreshToken fault
      ((∃ e, o.result = .error e) ↔ ¬ Writable disk fault)
        ∧ ((∃ e, o.result = .error e) → Store.SetInMemory s disk now a refreshToken o))
      ∧ let o := s.revoke disk a fault
        ((∃ e, o.result = .error e) ↔ s.holds a = true ∧ ¬ Writable disk fault)
          ∧ ((∃ e, o.result = .error e) → Store.DroppedInMemory s disk a o) := by
  have hset (now : Int64) (refreshToken : String) :
      (∃ e, (s.upsert disk now a refreshToken fault).result = .error e) ↔
        ¬ Writable disk fault := by
    constructor
    · rintro ⟨e, he⟩ h
      rw [Store.upsert_of_writable h] at he
      cases he
    · intro h
      exact ⟨.disk, by rw [Store.upsert_of_unwritable h]⟩
  have hdrop : (∃ e, (s.revoke disk a fault).result = .error e) ↔
      s.holds a = true ∧ ¬ Writable disk fault := by
    constructor
    · rintro ⟨e, he⟩
      cases hholds : s.holds a with
      | false =>
        rw [Store.revoke_of_not_held hholds] at he
        cases he
      | true =>
        refine ⟨rfl, fun h => ?_⟩
        rw [Store.revoke_of_writable hholds h] at he
        cases he
    · rintro ⟨holds, h⟩
      exact ⟨.disk, by rw [Store.revoke_of_unwritable holds h]⟩
  refine ⟨fun now refreshToken => ⟨hset now refreshToken, fun herror => ?_⟩,
    hdrop, fun herror => ?_⟩
  · exact Store.setInMemory_upsert ((hset now refreshToken).1 herror) now refreshToken
  · obtain ⟨holds, h⟩ := hdrop.1 herror
    exact Store.droppedInMemory_revoke holds h

/-- A store that has loaded a file with one account. -/
def loadedStore : Store where
  held := Catalog.empty.insert ⟨"x"⟩ ⟨"kept", none, 1, 1⟩
  pending := []

/-- The directory with that file. -/
def loadedDisk : Disk :=
  some [(accountFile, .file loadedStore.book.toBytes)]

theorem fileHolds_loaded : FileHolds loadedDisk loadedStore.book := by
  have hnormal : loadedStore.Normal := by
    refine ⟨Catalog.allAccounts_empty.insert ?_ _, nofun⟩
    show AccountId.ofString "x" = ⟨"x"⟩
    decide +kernel
  exact readBook_eq_ok_iff.1 (readBook_of_file hnormal rfl)

/-- Another refresh token is set for that account, and then its credentials are dropped, while the
file cannot take its name. -/
theorem failed_change_unwritten :
    Store.SetInMemory loadedStore loadedDisk 5 ⟨"x"⟩ "newer"
        (loadedStore.upsert loadedDisk 5 ⟨"x"⟩ "newer" .rename)
      ∧ Store.DroppedInMemory loadedStore loadedDisk ⟨"x"⟩
        (loadedStore.revoke loadedDisk ⟨"x"⟩ .rename)
      ∧ FileHolds loadedDisk loadedStore.book
      ∧ loadedStore.book.last? ⟨"x"⟩ = some ⟨"kept", none, 1, 1⟩ := by
  obtain ⟨hset, hdrop⟩ := failed_change loadedStore loadedDisk ⟨"x"⟩ .rename
  have hunwritable : ¬ Writable loadedDisk .rename := fun h => nomatch h.2
  have hholds : loadedStore.holds ⟨"x"⟩ = true := by decide +kernel
  exact ⟨(hset 5 "newer").2 ((hset 5 "newer").1.2 hunwritable),
    hdrop.2 (hdrop.1.2 ⟨hholds, hunwritable⟩), fileHolds_loaded, by decide +kernel⟩

/-- Credentials are dropped while the file cannot be replaced, or while there is no directory. That
is reported, but the store does not list the account any more. Dropping them once more, when
everything can be written again, says that there are none; the file keeps them, and a sync announces
them. -/
theorem revocation_forgotten :
    let o := loadedStore.revoke loadedDisk ⟨"x"⟩ .rename
    let p := loadedStore.revoke none ⟨"x"⟩ .none
    loadedStore.accounts = [⟨"x"⟩]
      ∧ o.result = .error .disk ∧ o.store.accounts = []
      ∧ o.store.revoke loadedDisk ⟨"x"⟩ .none = ⟨.ok false, o.store, loadedDisk, []⟩
      ∧ (o.store.sync loadedDisk).events = [.available ⟨"x"⟩]
      ∧ p.result = .error .disk ∧ p.store.accounts = []
      ∧ p.store.revoke (some []) ⟨"x"⟩ .none = ⟨.ok false, p.store, some [], []⟩ := by
  intro o p
  have hread := readBook_eq_ok_iff.2 fileHolds_loaded
  have hholds : loadedStore.holds ⟨"x"⟩ = true := by decide +kernel
  have ho : o = ⟨.error .disk, loadedStore.without ⟨"x"⟩, loadedDisk, []⟩ :=
    Store.revoke_of_unwritable hholds fun h => nomatch h.2
  have hp : p = ⟨.error .disk, loadedStore.without ⟨"x"⟩, none, []⟩ :=
    Store.revoke_of_unwritable hholds fun h => nomatch h.1
  have hnone : (loadedStore.without ⟨"x"⟩).accounts = [] := by decide +kernel
  have hsync : ((loadedStore.without ⟨"x"⟩).sync loadedDisk).events = [.available ⟨"x"⟩] := by
    rw [((loadedStore.without ⟨"x"⟩).sync_events hread).1]
    decide +kernel
  rw [ho, hp]
  exact ⟨by decide +kernel, rfl, hnone, Store.revoke_of_not_held (Store.not_holds_without _ _),
    hsync, rfl, hnone, Store.revoke_of_not_held (Store.not_holds_without _ _)⟩

end SessionSync
