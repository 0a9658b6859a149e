import SessionSync.Proofs.Account.AccountSet
import SessionSync.Proofs.Store.HeldAndWaiting

/-!
# A process that alone writes its account file

As long as nobody else writes into its data directory, what a process holds in memory, what the
account file says and what the process has announced go together, over any run of operations and
restarts.

* `Mirror` — the invariant; `Mirror.act` takes it through an operation, `Mirror.run` through a run.
* `load_of_mirror`, `sync_of_mirror` — reading the file changes nothing then.
* `replay_announced`, `replay_tells` — the announcements tell which accounts are held.
* `sole_writer` — all of it for every run.
-/

namespace SessionSync

/-! ## Announcements -/

/-- What somebody who knows a set of accounts makes of an announcement. -/
def AccountSet.hear (s : AccountSet) : TokenEvent → AccountSet
  | .available a => s.add a
  | .revoked a => s.erase a
  | .loaded => s

/-- What somebody makes of announcements one after the other. -/
def AccountSet.replay (s : AccountSet) (events : List TokenEvent) : AccountSet :=
  events.foldl AccountSet.hear s

theorem AccountSet.replay_append (s : AccountSet) (before after : List TokenEvent) :
    s.replay (before ++ after) = (s.replay before).replay after :=
  List.foldl_append

namespace StoreOp

/-- What an operation announces. -/
def announced (s : Store) (disk : Disk) (fault : WriteFault) : StoreOp → List TokenEvent
  | load => (s.load disk fault).events
  | sync => (s.sync disk).events
  | upsert now email refreshToken =>
    (s.upsert disk now (.ofString email) refreshToken fault).events
  | revoke email => (s.revoke disk (.ofString email) fault).events
  | adopt now email place => (s.adopt disk now (.ofString email) place fault).events
  | token _ _ _ _ => []

/-- An account that an operation adds to the store has a name. -/
def Named : StoreOp → Prop
  | upsert _ email _ => (AccountId.ofString email).isEmpty = false
  | adopt _ email _ => (AccountId.ofString email).isEmpty = false
  | _ => True

end StoreOp

/-! ## Processes -/

/-- A process with its store and the data directory that it alone writes. -/
structure Keeper where
  /-- The store. -/
  store : Store
  /-- The data directory. -/
  disk : Disk

/-- What a keeper does next. -/
inductive Turn
  /-- An operation of its store. -/
  | own (op : StoreOp)
  /-- It begins again: a store that has read nothing yet loads the file. -/
  | restart

/-- An account that a turn adds to the store has a name. -/
def Turn.Named : Turn → Prop
  | own op => op.Named
  | restart => True

namespace Keeper

/-- A process that has read nothing yet. -/
def created (disk : Disk) : Keeper :=
  ⟨Store.empty, disk⟩

/-- What an operation leads to when nothing goes wrong with the write. -/
def act (k : Keeper) (op : StoreOp) : Keeper :=
  ⟨(op.run k.store k.disk .none).1, (op.run k.store k.disk .none).2⟩

/-- What a turn leads to. -/
def turn (k : Keeper) : Turn → Keeper
  | .own op => k.act op
  | .restart => (created k.disk).act .load

/-- What turns lead to. -/
def run (k : Keeper) (turns : List Turn) : Keeper :=
  turns.foldl turn k

/-- What operations lead to, with no restart between them. -/
def live (k : Keeper) (ops : List StoreOp) : Keeper :=
  ops.foldl act k

/-- What the store announces in the course of operations. -/
def tells (k : Keeper) : List StoreOp → List TokenEvent
  | [] => []
  | op :: ops => op.announced k.store k.disk .none ++ (k.act op).tells ops

/-- The account file holds what is in memory, or there is no file and nothing in memory. -/
def OnFile (k : Keeper) : Prop :=
  ∃ folder, k.disk = some folder ∧
    ((∃ bytes, folder.get? accountFile = some (.file bytes)
        ∧ bookOfBytes? bytes = some k.store.book)
      ∨ (folder.get? accountFile = none ∧ k.store = Store.empty))

/-- Memory and account file say the same; every account held has a name, and none of them waits for
credentials. -/
structure Mirror (k : Keeper) : Prop where
  onFile : k.OnFile
  normal : k.store.Normal
  named : Catalog.AllAccounts (fun a => a.isEmpty = false) k.store.held
  waiting : ∀ p ∈ k.store.pending, k.store.held.contains p.account = false

variable {k : Keeper}

theorem mirror_created {folder : Folder} (h : folder.get? accountFile = none) :
    Mirror (created (some folder)) where
  onFile := ⟨folder, rfl, .inr ⟨h, rfl⟩⟩
  normal := AccountBook.normal_empty
  named := Catalog.allAccounts_empty
  waiting p hp := by cases hp

theorem Mirror.usable (h : Mirror k) : Usable k.disk := by
  obtain ⟨folder, hdisk, ⟨bytes, hfile, -⟩ | ⟨hnone, -⟩⟩ := h.onFile
  · exact ⟨folder, hdisk, Folder.isFolder_of_file hfile⟩
  · refine ⟨folder, hdisk, ?_⟩
    rw [Folder.isFolder, hnone]

theorem Mirror.readBook (h : Mirror k) : readBook k.disk = .ok k.store.book := by
  obtain ⟨folder, hdisk, ⟨bytes, hfile, hbook⟩ | ⟨hnone, hempty⟩⟩ := h.onFile
  · rw [hdisk, SessionSync.readBook, Option.bind_some, hfile]
    simp only [hbook]
  · rw [hdisk, hempty, SessionSync.readBook, Option.bind_some, hnone]
    rfl

/-! ## Reading -/

/-- Whatever a store holds, it holds what is on file once it has loaded. -/
theorem load_of_mirror (h : Mirror k) (s : Store) (fault : WriteFault) :
    s.load k.disk fault = ⟨.ok k.store.held.size, k.store, k.disk, [.loaded]⟩ := by
  rw [s.load_of_readBook h.readBook, Store.catalogOf_book h.named]
  rfl

/-- A sync finds nothing new. -/
theorem sync_of_mirror (h : Mirror k) :
    k.store.sync k.disk = ⟨.ok 0, k.store, k.disk, []⟩ := by
  refine Store.sync_of_agrees h.readBook (fun a => ?_) ?_
  · rw [Store.catalogOf_book h.named, Store.tokenOf]
  · refine (List.filter_eq_self.2 fun p hp => ?_).symm
    show (!k.store.held.contains p.account) = true
    rw [h.waiting p hp]
    rfl

/-! ## Writing -/

theorem onFile_saved {s : Store} {disk : Disk} (h : Usable disk) (hs : s.Normal) :
    OnFile ⟨s, (s.save disk .none).2⟩ := by
  obtain ⟨folder, rfl, hfile⟩ := h
  obtain ⟨folder', hsave, hbytes⟩ := saveBook_of_file hfile s.book
  refine ⟨folder', ?_, .inl ⟨_, hbytes, bookOfBytes?_toBytes hs⟩⟩
  show (s.save (some folder) .none).2 = some folder'
  rw [Store.save, hsave]

end Keeper

namespace StoreOp

variable {s s' : Store} {op : StoreOp}

/-- Every account that is held has a name after an operation has written. -/
theorem named_written (hnamed : op.Named)
    (h : Catalog.AllAccounts (fun a => a.isEmpty = false) s.held) (hw : op.written? s = some s') :
    Catalog.AllAccounts (fun a => a.isEmpty = false) s'.held := by
  cases op with
  | load | sync => cases hw
  | upsert now email refreshToken =>
    cases hw
    exact h.insert hnamed _
  | revoke email =>
    simp only [written?] at hw
    split at hw
    · cases hw
      exact h.erase _
    · cases hw
  | adopt now email place =>
    simp only [written?] at hw
    split at hw
    · cases hw
    · cases hw
      exact h
  | token asked arrival email endpoint =>
    simp only [written?] at hw
    split at hw
    · split at hw
      · next g c _ hget =>
        cases hw
        apply h.insert _ _
        apply h.of_contains
        rw [Catalog.contains, hget]
        rfl
      · cases hw
    · cases hw

/-- No account that is held waits for credentials after an operation has written. -/
theorem waiting_written (h : ∀ p ∈ s.pending, s.held.contains p.account = false)
    (hw : op.written? s = some s') : ∀ p ∈ s'.pending, s'.held.contains p.account = false := by
  have hreads : op.reads = false := not_reads_of_written hw
  have hrun : (op.run s none .none).1 = s' := by rw [op.run_of_not_reads hreads, hw]
  intro p hp
  refine Bool.eq_false_iff.2 fun hheld => ?_
  have hdoubled : s'.Doubled p.account := ⟨hheld, p, hp, rfl⟩
  rw [← hrun, op.doubled_run] at hdoubled
  rcases hdoubled with ⟨rfl, -⟩ | ⟨⟨hbefore, q, hq, hsame⟩, -⟩
  · cases hreads
  · rw [Store.holds, ← hsame, h q hq] at hbefore
    cases hbefore

end StoreOp

namespace Keeper

variable {k : Keeper}

theorem act_of_idle {op : StoreOp} (hreads : op.reads = false)
    (hwritten : op.written? k.store = none) : k.act op = k := by
  have hrun := op.run_of_not_reads hreads k.store k.disk .none
  rw [hwritten] at hrun
  rw [act, hrun]

theorem act_of_written {op : StoreOp} {s : Store} (hreads : op.reads = false)
    (hwritten : op.written? k.store = some s) : k.act op = ⟨s, (s.save k.disk .none).2⟩ := by
  have hrun := op.run_of_not_reads hreads k.store k.disk .none
  rw [hwritten] at hrun
  rw [act, hrun]

/-- An operation that reads the file changes nothing. -/
theorem act_of_reads (h : Mirror k) {op : StoreOp} (hreads : op.reads = true) : k.act op = k := by
  cases op with
  | load =>
    show Keeper.mk (k.store.load k.disk .none).store (k.store.load k.disk .none).disk = k
    rw [load_of_mirror h]
  | sync =>
    show Keeper.mk (k.store.sync k.disk).store (k.store.sync k.disk).disk = k
    rw [sync_of_mirror h]
  | upsert | revoke | adopt | token => cases hreads

theorem Mirror.act (h : Mirror k) {op : StoreOp} (hnamed : op.Named) : Mirror (k.act op) := by
  by_cases hreads : op.reads = true
  · rw [act_of_reads h hreads]
    exact h
  · rw [Bool.not_eq_true] at hreads
    cases hwritten : op.written? k.store with
    | none =>
      rw [act_of_idle hreads hwritten]
      exact h
    | some s =>
      have hnormal : s.Normal := StoreOp.normal_written h.normal hwritten
      rw [act_of_written hreads hwritten]
      exact ⟨onFile_saved h.usable hnormal, hnormal, StoreOp.named_written hnamed h.named hwritten,
        StoreOp.waiting_written h.waiting hwritten⟩

/-- A restart changes nothing but that the store is another one. -/
theorem turn_restart (h : Mirror k) : k.turn .restart = k := by
  show Keeper.mk (Store.empty.load k.disk .none).store (Store.empty.load k.disk .none).disk = k
  rw [load_of_mirror h]

theorem Mirror.turn (h : Mirror k) {t : Turn} (hnamed : t.Named) : Mirror (k.turn t) := by
  cases t with
  | own op => exact h.act hnamed
  | restart =>
    rw [turn_restart h]
    exact h

theorem Mirror.run (h : Mirror k) {turns : List Turn} (hnamed : ∀ t ∈ turns, t.Named) :
    Mirror (k.run turns) := by
  induction turns generalizing k with
  | nil => exact h
  | cons t turns ih =>
    exact ih (h.turn (hnamed t List.mem_cons_self)) fun u hu =>
      hnamed u (List.mem_cons_of_mem _ hu)

/-! ## What is announced -/

/-- The accounts that hold credentials, as a set. -/
def accountSet (k : Keeper) : AccountSet :=
  .ofAccounts k.store.accounts

theorem contains_accountSet (k : Keeper) (a : AccountId) :
    k.accountSet.contains a = true ↔ k.store.held.contains a = true := by
  rw [accountSet, AccountSet.contains_ofAccounts, Store.accounts, Catalog.mem_accounts]

theorem accountSet_congr {k' : Keeper}
    (h : ∀ a, k.store.held.contains a = true ↔ k'.store.held.contains a = true) :
    k.accountSet = k'.accountSet := by
  apply AccountSet.ext
  intro a
  rw [contains_accountSet, contains_accountSet, h]

/-- What has been written is announced if it has to be: the write succeeds. -/
theorem save_written (h : Mirror k) {op : StoreOp} {s : Store}
    (hwritten : op.written? k.store = some s) : (s.save k.disk .none).1 = .ok () :=
  (s.save_usable h.usable (StoreOp.normal_written h.normal hwritten)).1

theorem announced_upsert (h : Mirror k) (now : Int64) (email refreshToken : String) :
    (StoreOp.upsert now email refreshToken).announced k.store k.disk .none =
      [.available (.ofString email)] := by
  have hwritten : (StoreOp.upsert now email refreshToken).written? k.store = some
      ⟨k.store.held.insert (.ofString email)
          (Store.renewed (k.store.held.get? (.ofString email)) refreshToken now),
        k.store.pending.filter (·.account ≠ .ofString email)⟩ := rfl
  have hsave := save_written h hwritten
  simp only [StoreOp.announced, Store.upsert]
  split
  · rfl
  · next heq =>
    rw [heq] at hsave
    cases hsave

theorem announced_revoke (h : Mirror k) {email : String}
    (holds : k.store.holds (.ofString email) = true) :
    (StoreOp.revoke email).announced k.store k.disk .none = [.revoked (.ofString email)] := by
  have hwritten : (StoreOp.revoke email).written? k.store =
      some ⟨k.store.held.erase (.ofString email), k.store.pending⟩ := if_pos holds
  have hsave := save_written h hwritten
  simp only [StoreOp.announced, Store.revoke, if_pos holds]
  split
  · rfl
  · next heq =>
    rw [heq] at hsave
    cases hsave

theorem announced_adopt (k : Keeper) (now : Int64) (email : String) (place : UInt64) :
    (StoreOp.adopt now email place).announced k.store k.disk .none = [] := by
  simp only [StoreOp.announced, Store.adopt]
  split <;> rfl

/-- An adoption that is noted leaves the accounts held as they are. -/
theorem contains_of_noted {s s' : Store} {now : Int64} {email : String} {place : UInt64}
    (h : (StoreOp.adopt now email place).written? s = some s') (a : AccountId) :
    s'.held.contains a = true ↔ s.held.contains a = true := by
  simp only [StoreOp.written?] at h
  split at h
  · cases h
  · cases h
    exact Iff.rfl

/-- An access token is given to an account that is held, and only there. -/
theorem contains_of_minted {s s' : Store} {asked arrival : Int64} {email : String}
    {endpoint : String → Except RefreshError Grant}
    (h : (StoreOp.token asked arrival email endpoint).written? s = some s') (a : AccountId) :
    s'.held.contains a = true ↔ s.held.contains a = true := by
  simp only [StoreOp.written?] at h
  split at h
  · split at h
    · next g c _ hget =>
      cases h
      rw [Catalog.contains_insert]
      refine ⟨?_, .inr⟩
      rintro (rfl | ha)
      · rw [Catalog.contains, hget]
        rfl
      · exact ha
    · cases h
  · cases h

/-- An operation that writes nothing new about who is held leaves the accounts as they are. -/
theorem accountSet_act_of_kept {op : StoreOp} (hreads : op.reads = false)
    (kept : ∀ s, op.written? k.store = some s →
      ∀ a, s.held.contains a = true ↔ k.store.held.contains a = true) :
    k.accountSet = (k.act op).accountSet := by
  cases hwritten : op.written? k.store with
  | none => rw [act_of_idle hreads hwritten]
  | some s =>
    rw [act_of_written hreads hwritten]
    exact accountSet_congr fun a => (kept s hwritten a).symm

/-- What an operation announces takes the accounts before it to those after it. -/
theorem replay_announced (h : Mirror k) (op : StoreOp) :
    k.accountSet.replay (op.announced k.store k.disk .none) = (k.act op).accountSet := by
  cases op with
  | load =>
    rw [act_of_reads h rfl, StoreOp.announced, load_of_mirror h]
    rfl
  | sync =>
    rw [act_of_reads h rfl, StoreOp.announced, sync_of_mirror h]
    rfl
  | upsert now email refreshToken =>
    rw [announced_upsert h, act_of_written rfl rfl]
    apply AccountSet.ext
    intro a
    show (k.accountSet.add _).contains a = true ↔ _
    rw [AccountSet.contains_add, contains_accountSet, contains_accountSet, Catalog.contains_insert]
  | revoke email =>
    by_cases holds : k.store.holds (.ofString email) = true
    · have hwritten : (StoreOp.revoke email).written? k.store =
          some ⟨k.store.held.erase (.ofString email), k.store.pending⟩ := if_pos holds
      rw [announced_revoke h holds, act_of_written rfl hwritten]
      apply AccountSet.ext
      intro a
      show (k.accountSet.erase _).contains a = true ↔ _
      rw [Catalog.contains_erase, contains_accountSet, contains_accountSet, Catalog.contains_erase]
    · have hwritten : (StoreOp.revoke email).written? k.store = none := if_neg holds
      rw [act_of_idle rfl hwritten, StoreOp.announced, Store.revoke, if_neg holds]
      rfl
  | adopt now email place =>
    rw [announced_adopt]
    exact accountSet_act_of_kept rfl fun s hs => contains_of_noted hs
  | token asked arrival email endpoint =>
    exact accountSet_act_of_kept rfl fun s hs => contains_of_minted hs

theorem replay_tells (h : Mirror k) {ops : List StoreOp} (hnamed : ∀ op ∈ ops, op.Named) :
    k.accountSet.replay (k.tells ops) = (k.live ops).accountSet := by
  induction ops generalizing k with
  | nil => rfl
  | cons op ops ih =>
    rw [tells, AccountSet.replay_append, replay_announced h op]
    exact ih (h.act (hnamed op List.mem_cons_self)) fun o ho =>
      hnamed o (List.mem_cons_of_mem _ ho)

end Keeper

/-! ## Every run -/

/-- A process alone writes into a directory in which there was no account file, and does whatever it
does, with restarts or without. Then the account file holds exactly what the process has in memory,
or there is no file and nothing in memory; a sync finds nothing new and changes nothing; and
whatever the store announces from now on takes the accounts of this moment to the accounts it holds
in the end. If there is no file, the same is true of a store that has read nothing yet. -/
theorem sole_writer (folder : Folder) (hnew : folder.get? accountFile = none) (turns : List Turn)
    (hturns : ∀ t ∈ turns, t.Named) (later : List StoreOp) (hlater : ∀ op ∈ later, op.Named) :
    let k := (Keeper.created (some folder)).run turns
    k.OnFile
      ∧ k.store.sync k.disk = ⟨.ok 0, k.store, k.disk, []⟩
      ∧ (AccountSet.ofAccounts k.store.accounts).replay (k.tells later) =
        .ofAccounts (k.live later).store.accounts
      ∧ (k.disk.bind (·.get? accountFile) = none →
        let fresh := Keeper.created k.disk
        (AccountSet.ofAccounts fresh.store.accounts).replay (fresh.tells later) =
          .ofAccounts (fresh.live later).store.accounts) := by
  intro k
  have hmirror : Keeper.Mirror k := (Keeper.mirror_created hnew).run hturns
  refine ⟨hmirror.onFile, Keeper.sync_of_mirror hmirror, Keeper.replay_tells hmirror hlater, ?_⟩
  intro hnone fresh
  have hfresh : Keeper.Mirror fresh := by
    obtain ⟨folder', hdisk, -⟩ := hmirror.onFile
    rw [hdisk] at hnone
    show Keeper.Mirror (Keeper.created k.disk)
    rw [hdisk]
    exact Keeper.mirror_created hnone
  exact Keeper.replay_tells hfresh hlater

/-- An account is added, another waits for credentials, an access token is asked for, and the
process begins again; then the first account goes and a third one comes. -/
theorem sole_writer_restarted :
    let grant : Grant := ⟨"access", 3600, "Bearer", some "rotated"⟩
    let turns : List Turn := [.own (.upsert 0 " X@a " "old"), .own (.adopt 1 "y" 3),
      .own (.token 1 2 "x@A" fun _ => .ok grant), .restart]
    let later : List StoreOp := [.revoke "x@a", .upsert 3 "z" "new"]
    let k := (Keeper.created (some [])).run turns
    k.store.held.toList = [(⟨"x@a"⟩, ⟨"rotated", some (grant.token 2), 0, 2⟩)]
      ∧ k.store.pending = [⟨⟨"y"⟩, 3, 1⟩]
      ∧ k.store.sync k.disk = ⟨.ok 0, k.store, k.disk, []⟩
      ∧ k.tells later = [.revoked ⟨"x@a"⟩, .available ⟨"z"⟩]
      ∧ (AccountSet.ofAccounts [⟨"x@a"⟩]).replay (k.tells later) = .ofAccounts [⟨"z"⟩] := by
  intro grant turns later k
  have hturns : ∀ t ∈ turns, t.Named := by
    intro t ht
    simp only [turns, List.mem_cons, List.not_mem_nil, or_false] at ht
    rcases ht with rfl | rfl | rfl | rfl
    · show (AccountId.ofString " X@a ").isEmpty = false
      decide +kernel
    · show (AccountId.ofString "y").isEmpty = false
      decide +kernel
    · trivial
    · trivial
  have hlater : ∀ op ∈ later, op.Named := by
    intro op hop
    simp only [later, List.mem_cons, List.not_mem_nil, or_false] at hop
    rcases hop with rfl | rfl
    · trivial
    · show (AccountId.ofString "z").isEmpty = false
      decide +kernel
  obtain ⟨-, hsync, hreplay, -⟩ := sole_writer [] rfl turns hturns later hlater
  have hrun : k.store.held.toList = [(⟨"x@a"⟩, ⟨"rotated", some (grant.token 2), 0, 2⟩)]
      ∧ k.store.pending = [⟨⟨"y"⟩, 3, 1⟩] ∧ (k.live later).store.accounts = [⟨"z"⟩]
      ∧ k.tells later = [.revoked ⟨"x@a"⟩, .available ⟨"z"⟩] := by
    decide +kernel
  obtain ⟨hheld, hpending, hafter, htells⟩ := hrun
  have hbefore : k.store.accounts = [⟨"x@a"⟩] := by
    rw [Store.accounts, Catalog.accounts, hheld]
    rfl
  rw [hbefore, hafter] at hreplay
  exact ⟨hheld, hpending, hsync, htells, hreplay⟩

end SessionSync
