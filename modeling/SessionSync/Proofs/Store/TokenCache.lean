import SessionSync.Proofs.Store.SoleWriter

/-!
# Which access token is given

A store keeps the last access token of an account and gives it out until little is left of it. In a
process that alone writes its account file this is decided by the history of the account alone: what
was set, what the token endpoint answered, and when. Restarts and syncs do not count.

* `Keeper.call` — what a request for an access token sends and what it comes to.
* `Keeper.Deed`, `Record` — what a process does, and what that adds to the history of an account.
* `Keeper.Ledger` — memory and account file agree with the history; `Ledger.run` for every run.
* `token_cache_exact` — the main result.
-/

namespace SessionSync

/-! ## Requests that are written down -/

/-- A request for an access token that has come to its end. -/
structure Call where
  /-- The refresh tokens that were sent, in order. -/
  sent : List String
  /-- What the caller is told. -/
  answer : Except TokenError String
  /-- The process afterwards. -/
  after : Keeper

/-- An endpoint that writes down the refresh tokens that it is sent. -/
def logged (arrival : Int64) (endpoint : String → Except RefreshError Grant)
    (refreshToken : String) :
    StateM (List String) (Int64 × Except RefreshError Grant) := do
  modify (· ++ [refreshToken])
  pure (arrival, endpoint refreshToken)

namespace Keeper

variable {k : Keeper} {asked arrival : Int64} {a : AccountId} {r : String}
  {endpoint : String → Except RefreshError Grant}

/-- A process asks for an access token, and nothing else happens until the answer has arrived. -/
def call (k : Keeper) (asked arrival : Int64) (a : AccountId)
    (endpoint : String → Except RefreshError Grant) : Call :=
  let ((answer, store, disk), sent) :=
    (k.store.requestToken k.disk asked a (logged arrival endpoint) .none).run []
  ⟨sent, answer, ⟨store, disk⟩⟩

theorem call_of_unknown (h : k.store.begin asked a = .unknown) :
    k.call asked arrival a endpoint = ⟨[], .error .invalidCredentials, k⟩ := by
  rw [call, Store.requestToken, h]
  rfl

theorem call_of_cached {token : String} (h : k.store.begin asked a = .cached token) :
    k.call asked arrival a endpoint = ⟨[], .ok token, k⟩ := by
  rw [call, Store.requestToken, h]
  rfl

theorem call_of_refused (h : k.store.begin asked a = .refresh r) {e : RefreshError}
    (refused : endpoint r = .error e) :
    k.call asked arrival a endpoint = ⟨[r], .error e.toTokenError, k⟩ := by
  rw [call, Store.requestToken, h]
  simp only [logged, refused]
  rfl

theorem call_of_granted (h : k.store.begin asked a = .refresh r) {g : Grant}
    (granted : endpoint r = .ok g) :
    k.call asked arrival a endpoint = ⟨[r], .ok g.accessToken,
      ⟨(k.store.settle k.disk arrival a g .none).1,
        (k.store.settle k.disk arrival a g .none).2⟩⟩ := by
  rw [call, Store.requestToken, h]
  simp only [logged, granted]
  rfl

end Keeper

/-! ## The history of an account -/

/-- An access token that was given by the token endpoint. -/
structure Mint where
  /-- When the answer arrived. -/
  time : Int64
  /-- The answer. -/
  grant : Grant
  deriving Repr, DecidableEq

namespace Mint

/-- The access token as it is kept. -/
def token (m : Mint) : AccessToken :=
  m.grant.token m.time

/-- Enough is left of the access token at a time. -/
def Lasts (m : Mint) (now : Int64) : Prop :=
  now.toInt + AccessToken.refreshMargin.toInt ≤ m.time.toInt + m.grant.expiresIn.toInt

/-- What is left of the access token at a time is a number of 64 bits. -/
def Exact (m : Mint) (now : Int64) : Prop :=
  (m.time + m.grant.expiresIn - now).toInt =
    m.time.toInt + m.grant.expiresIn.toInt - now.toInt

theorem isStale_token {m : Mint} {now : Int64} (h : m.Exact now) :
    m.token.isStale now = true ↔ ¬ m.Lasts now := by
  unfold Exact at h
  unfold Lasts token Grant.token AccessToken.isStale
  dsimp only
  rw [decide_eq_true_eq, Int64.lt_iff_toInt_lt, h]
  omega

end Mint

/-- What has happened to the credentials of an account. -/
inductive Record
  /-- It was given a refresh token that it did not hold. -/
  | set (account : AccountId) (refreshToken : String)
  /-- An access token was given for it. -/
  | minted (account : AccountId) (mint : Mint)
  deriving Repr, DecidableEq

namespace Record

/-- The account that it happened to. -/
def account : Record → AccountId
  | set a _ => a
  | minted a _ => a

/-- The access token that was given. -/
def mint? : Record → Option Mint
  | set _ _ => none
  | minted _ m => some m

/-- The refresh token that came with it. -/
def refreshToken? : Record → Option String
  | set _ r => some r
  | minted _ m => m.grant.refreshToken

end Record

/-- What has happened to one account. -/
def about (history : List Record) (a : AccountId) : List Record :=
  history.filter (·.account = a)

/-- The access token that was given last for an account, unless it was given another refresh token
since. -/
def lastMint? (history : List Record) (a : AccountId) : Option Mint :=
  (about history a).getLast?.bind Record.mint?

/-- The refresh token that an account was given last, by whoever set it or in an answer. -/
def lastRefreshToken? (history : List Record) (a : AccountId) : Option String :=
  (about history a).reverse.findSome? Record.refreshToken?

section

variable {history : List Record} {a : AccountId}

theorem about_concat (history : List Record) (x : Record) (a : AccountId) :
    about (history ++ [x]) a =
      if x.account = a then about history a ++ [x] else about history a := by
  unfold about
  rw [List.filter_append]
  split <;> next h => simp [h]

theorem lastMint?_concat (history : List Record) (x : Record) (a : AccountId) :
    lastMint? (history ++ [x]) a =
      if x.account = a then x.mint? else lastMint? history a := by
  unfold lastMint?
  rw [about_concat]
  split <;> simp

theorem lastRefreshToken?_concat (history : List Record) (x : Record) (a : AccountId) :
    lastRefreshToken? (history ++ [x]) a =
      if x.account = a then x.refreshToken?.or (lastRefreshToken? history a)
      else lastRefreshToken? history a := by
  unfold lastRefreshToken?
  rw [about_concat]
  split
  · rw [List.reverse_append, List.reverse_singleton, List.singleton_append, List.findSome?_cons]
    cases x.refreshToken? <;> rfl
  · rfl

end

/-! ## What a process does -/

/-- What a process does. A request for an access token comes to its end before anything else is
done. -/
inductive Keeper.Deed
  /-- It sets a refresh token. -/
  | upsert (now : Int64) (email refreshToken : String)
  /-- It drops the credentials of an account. -/
  | revoke (email : String)
  /-- It notes an account that waits for credentials. -/
  | adopt (now : Int64) (email : String) (place : UInt64)
  /-- It takes over the changes that others made to the account file. -/
  | sync
  /-- It begins again: a store that has read nothing yet loads the file. -/
  | restart
  /-- It asks for an access token. -/
  | request (asked arrival : Int64) (email : String)
    (endpoint : String → Except RefreshError Grant)

/-- What a deed adds to the history. -/
def Keeper.Deed.records (k : Keeper) : Deed → List Record
  | upsert _ email r =>
    let a := AccountId.ofString email
    if k.store.tokenOf a = some r then [] else [.set a r]
  | request asked arrival email endpoint =>
    let a := AccountId.ofString email
    (k.call asked arrival a endpoint).sent.filterMap fun r =>
      (endpoint r).toOption.map fun g => .minted a ⟨arrival, g⟩
  | _ => []

namespace Keeper

/-- What a deed leads to, when nothing goes wrong with the write. -/
def perform (k : Keeper) : Deed → Keeper
  | .upsert now email r => k.act (.upsert now email r)
  | .revoke email => k.act (.revoke email)
  | .adopt now email place => k.act (.adopt now email place)
  | .sync => k.act .sync
  | .restart => k.turn .restart
  | .request asked arrival email endpoint => (k.call asked arrival (.ofString email) endpoint).after

/-- What deeds lead to. -/
def performAll (k : Keeper) (deeds : List Deed) : Keeper :=
  deeds.foldl perform k

/-- The history that deeds make. -/
def history (k : Keeper) : List Deed → List Record
  | [] => []
  | d :: deeds => d.records k ++ (k.perform d).history deeds

/-! ## Memory and file -/

/-- The account file says what is in memory, but for an account without a name, and no account that
is held waits for credentials. -/
structure Filed (k : Keeper) : Prop where
  usable : Usable k.disk
  normal : k.store.Normal
  onFile : ∃ book, readBook k.disk = .ok book ∧ book.pending = k.store.pending
    ∧ ∀ a, book.last? a = if a.isEmpty then none else k.store.held.get? a
  waiting : ∀ p ∈ k.store.pending, k.store.held.contains p.account = false

theorem filed_created {folder : Folder} (h : folder.get? accountFile = none) :
    Filed (created (some folder)) where
  usable := (mirror_created h).usable
  normal := (mirror_created h).normal
  onFile := ⟨_, (mirror_created h).readBook, rfl, fun a => by
    rw [← get?_catalogOf, Store.get?_catalogOf_book]⟩
  waiting := (mirror_created h).waiting

variable {k : Keeper}

/-- What has been written is on file. -/
theorem Filed.written (h : k.Filed) {s : Store} (normal : s.Normal)
    (waiting : ∀ p ∈ s.pending, s.held.contains p.account = false) :
    Filed ⟨s, (s.save k.disk .none).2⟩ := by
  obtain ⟨-, husable, hread⟩ := s.save_usable h.usable normal
  refine ⟨husable, normal, ⟨s.book, hread, rfl, fun a => ?_⟩, waiting⟩
  rw [← get?_catalogOf, Store.get?_catalogOf_book]

theorem Filed.act (h : k.Filed) {op : StoreOp} (hreads : op.reads = false) :
    (k.act op).Filed := by
  cases hwritten : op.written? k.store with
  | none =>
    rw [act_of_idle hreads hwritten]
    exact h
  | some s =>
    rw [act_of_written hreads hwritten]
    exact h.written (StoreOp.normal_written h.normal hwritten)
      (StoreOp.waiting_written h.waiting hwritten)

/-- What keeping an answer leads to for an account that is held. -/
theorem Filed.settled (h : k.Filed) {a : AccountId} {c : Credential}
    (held : k.store.held.get? a = some c) (g : Grant) (now : Int64) :
    let s : Store := ⟨k.store.held.insert a (Store.granted c g now), k.store.pending⟩
    Filed ⟨s, (s.save k.disk .none).2⟩ := by
  intro s
  have hsettled : k.store.settled? now a g = some s := Store.settled?_of_held held now g
  refine h.written (Store.normal_settled h.normal hsettled) fun p hp => ?_
  have hheld : k.store.held.contains a = true := Option.isSome_of_eq_some held
  have hwaits := h.waiting p hp
  refine Bool.eq_false_iff.2 fun hinserted => ?_
  rcases (Catalog.contains_insert _ _ _ _).1 hinserted with hsame | hbefore
  · rw [hsame, hheld] at hwaits
    cases hwaits
  · rw [hbefore] at hwaits
    cases hwaits

/-- Another process has read the file: it holds what was held, but for an account without a name. -/
structure Reread (k k' : Keeper) : Prop where
  disk : k'.disk = k.disk
  pending : k'.store.pending = k.store.pending
  held : ∀ a, k'.store.held.get? a = if a.isEmpty then none else k.store.held.get? a

theorem Filed.reread_sync (h : k.Filed) : Reread k (k.act .sync) := by
  obtain ⟨book, hread, hpending, hlast⟩ := h.onFile
  have hheld (a : AccountId) : (k.act .sync).store.held.get? a =
      if a.isEmpty then none else k.store.held.get? a := by
    show (k.store.sync k.disk).store.held.get? a = _
    rw [k.store.get?_sync hread, hlast]
    split
    · rfl
    · cases k.store.held.get? a <;> simp [Store.merged]
  refine ⟨(k.store.sync_of_readBook hread).2.1, ?_, hheld⟩
  show (k.store.sync k.disk).store.pending = _
  rw [k.store.waiting_sync hread, hpending, List.filter_eq_self]
  intro p hp
  have hwaits : k.store.held.get? p.account = none :=
    Option.not_isSome_iff_eq_none.1 (Bool.eq_false_iff.1 (h.waiting p hp))
  rw [hlast, hwaits]
  split <;> rfl

theorem Filed.reread_restart (h : k.Filed) : Reread k (k.turn .restart) := by
  obtain ⟨book, hread, hpending, hlast⟩ := h.onFile
  have hload := Store.empty.load_of_readBook hread .none
  have hturn : k.turn .restart = ⟨⟨Store.catalogOf book, book.pending⟩, k.disk⟩ := by
    show Keeper.mk (Store.empty.load k.disk .none).store (Store.empty.load k.disk .none).disk = _
    rw [hload]
  rw [hturn]
  refine ⟨rfl, hpending, fun a => ?_⟩
  show (Store.catalogOf book).get? a = _
  rw [get?_catalogOf, hlast]

theorem Filed.of_reread (h : k.Filed) {k' : Keeper} (reread : Reread k k')
    (normal : k'.store.Normal) : k'.Filed := by
  obtain ⟨book, hread, hpending, hlast⟩ := h.onFile
  refine ⟨reread.disk ▸ h.usable, normal, ⟨book, reread.disk ▸ hread,
    hpending.trans reread.pending.symm, fun a => ?_⟩, fun p hp => ?_⟩
  · rw [reread.held, hlast]
    split <;> rfl
  · have hwaits : k.store.held.get? p.account = none :=
      Option.not_isSome_iff_eq_none.1 (Bool.eq_false_iff.1 (h.waiting p (reread.pending ▸ hp)))
    rw [Catalog.contains, reread.held, hwaits]
    split <;> rfl

/-! ## Memory and history -/

/-- What the history says about an account that is held: the refresh token is the last that it was
given, and the access token the last that was given for it since. -/
def Told (history : List Record) (a : AccountId) (c : Credential) : Prop :=
  lastRefreshToken? history a = some c.refreshToken
    ∧ c.token = (lastMint? history a).map Mint.token

/-- Memory and account file are what the history says. -/
structure Ledger (k : Keeper) (history : List Record) : Prop extends Filed k where
  told : ∀ a c, k.store.held.get? a = some c → Told history a c

variable {history : List Record}

theorem ledger_created {folder : Folder} (h : folder.get? accountFile = none) :
    Ledger (created (some folder)) [] where
  toFiled := filed_created h
  told a c hc := by cases hc

theorem Told.concat {a : AccountId} {c : Credential} (h : Told history a c) {x : Record}
    (other : x.account ≠ a) : Told (history ++ [x]) a c := by
  unfold Told
  rw [lastRefreshToken?_concat, lastMint?_concat, if_neg other, if_neg other]
  exact h

/-- The credential after an answer is what the history says with the answer. -/
theorem Told.minted {a : AccountId} {c : Credential} (h : Told history a c) (m : Mint) :
    Told (history ++ [.minted a m]) a (Store.granted c m.grant m.time) := by
  have hsame : (Record.minted a m).account = a := rfl
  unfold Told
  rw [lastRefreshToken?_concat, lastMint?_concat, if_pos hsame, if_pos hsame, h.1]
  refine ⟨?_, rfl⟩
  show m.grant.refreshToken.or _ = some (m.grant.refreshToken.getD _)
  cases m.grant.refreshToken <;> rfl

/-- The credential after another refresh token is set is what the history says with it. -/
theorem told_renewed {a : AccountId} {s : Store} {r : String} (new : s.tokenOf a ≠ some r)
    (now : Int64) :
    Told (history ++ [.set a r]) a (Store.renewed (s.held.get? a) r now) := by
  have hrenewed : (Store.renewed (s.held.get? a) r now).refreshToken = r
      ∧ (Store.renewed (s.held.get? a) r now).token = none := by
    unfold Store.tokenOf at new
    cases hheld : s.held.get? a with
    | none => exact ⟨rfl, rfl⟩
    | some c =>
      have hother : c.refreshToken ≠ r := by
        rintro rfl
        exact new (by rw [hheld, Option.map_some])
      simp [Store.renewed, hother]
  have hsame : (Record.set a r).account = a := rfl
  unfold Told
  rw [lastRefreshToken?_concat, lastMint?_concat, if_pos hsame, if_pos hsame, hrenewed.1,
    hrenewed.2]
  exact ⟨rfl, rfl⟩

/-- Setting the refresh token that is held leaves what the history says. -/
theorem Told.renewed_same {a : AccountId} {s : Store} {r : String} (same : s.tokenOf a = some r)
    (told : ∀ c, s.held.get? a = some c → Told history a c) (now : Int64) :
    Told history a (Store.renewed (s.held.get? a) r now) := by
  obtain ⟨c, hc, rfl⟩ := Option.map_eq_some_iff.1 same
  rw [hc, Store.renewed, if_pos rfl]
  exact told c hc

theorem Ledger.upsert (h : k.Ledger history) (now : Int64) (email r : String) :
    Ledger (k.perform (.upsert now email r))
      (history ++ (Deed.upsert now email r).records k) := by
  refine ⟨h.toFiled.act rfl, fun b c hc => ?_⟩
  rw [perform, act_of_written rfl rfl] at hc
  replace hc : (k.store.held.insert (.ofString email)
      (Store.renewed (k.store.held.get? (.ofString email)) r now)).get? b = some c := hc
  rw [Catalog.get?_insert] at hc
  unfold Deed.records
  dsimp only
  by_cases hb : b = .ofString email
  · obtain rfl := hb
    rw [if_pos rfl] at hc
    cases hc
    -- the refresh token that is held is no news, and the access token given for it is kept
    split
    · next hsame =>
      rw [List.append_nil]
      exact Told.renewed_same hsame (h.told _) now
    · next hnew => exact told_renewed hnew now
  · rw [if_neg hb] at hc
    split
    · rw [List.append_nil]
      exact h.told b c hc
    · exact (h.told b c hc).concat (Ne.symm hb)

/-- What leaves every credential that is still held as it was adds nothing to the history. -/
theorem Ledger.of_fewer (h : k.Ledger history) {k' : Keeper} (filed : k'.Filed)
    (fewer : ∀ a c, k'.store.held.get? a = some c → k.store.held.get? a = some c) :
    Ledger k' (history ++ []) := by
  rw [List.append_nil]
  exact ⟨filed, fun a c hc => h.told a c (fewer a c hc)⟩

theorem Ledger.of_reread (h : k.Ledger history) {k' : Keeper} (reread : Reread k k')
    (normal : k'.store.Normal) : Ledger k' (history ++ []) := by
  refine h.of_fewer (h.toFiled.of_reread reread normal) fun a c hc => ?_
  rw [reread.held] at hc
  split at hc
  · cases hc
  · exact hc

theorem fewer_revoke (k : Keeper) (email : String) (a : AccountId) (c : Credential)
    (hc : (k.act (.revoke email)).store.held.get? a = some c) : k.store.held.get? a = some c := by
  cases hwritten : (StoreOp.revoke email).written? k.store with
  | none =>
    rw [act_of_idle rfl hwritten] at hc
    exact hc
  | some s =>
    rw [act_of_written rfl hwritten] at hc
    simp only [StoreOp.written?] at hwritten
    split at hwritten
    · cases hwritten
      dsimp only at hc
      rw [Catalog.get?_erase] at hc
      split at hc
      · cases hc
      · exact hc
    · cases hwritten

/-! ## What is sent -/

section

variable {a : AccountId} {c : Credential}

/-- Whether an access token is at hand is what the history says. -/
theorem begin_of_told (held : k.store.held.get? a = some c) (told : Told history a c)
    {asked : Int64} (exact : ∀ m, lastMint? history a = some m → m.Exact asked) :
    (∃ m, lastMint? history a = some m ∧ m.Lasts asked
        ∧ k.store.begin asked a = .cached m.grant.accessToken)
      ∨ (∀ m, lastMint? history a = some m → ¬ m.Lasts asked)
        ∧ k.store.begin asked a = .refresh c.refreshToken := by
  obtain ⟨-, htoken⟩ := told
  unfold Store.begin
  rw [held]
  dsimp only
  cases hlast : lastMint? history a with
  | none =>
    rw [hlast] at htoken
    rw [htoken]
    exact .inr ⟨nofun, rfl⟩
  | some m =>
    rw [hlast] at htoken
    have hstale := Mint.isStale_token (exact m hlast)
    rw [htoken, Option.map_some]
    dsimp only
    by_cases hlasts : m.Lasts asked
    · rw [if_neg fun h => hstale.1 h hlasts]
      exact .inl ⟨m, rfl, hlasts, rfl⟩
    · rw [if_pos (hstale.2 hlasts)]
      refine .inr ⟨fun m' hm' => ?_, rfl⟩
      obtain rfl := Option.some.inj hm'
      exact hlasts

theorem begin_of_not_held (lost : k.store.held.get? a = none) (asked : Int64) :
    k.store.begin asked a = .unknown := by
  rw [Store.begin, lost]

end

/-- What keeping an answer leads to. -/
theorem settle_of_held {s : Store} {a : AccountId} {c : Credential}
    (held : s.held.get? a = some c) (disk : Disk) (g : Grant) (now : Int64) :
    let s' : Store := ⟨s.held.insert a (Store.granted c g now), s.pending⟩
    s.settle disk now a g .none = (s', (s'.save disk .none).2) := by
  rw [Store.settle_eq, Store.settled?_of_held held]

theorem Ledger.request (h : k.Ledger history) (asked arrival : Int64) (email : String)
    (endpoint : String → Except RefreshError Grant) :
    Ledger (k.perform (.request asked arrival email endpoint))
      (history ++ (Deed.request asked arrival email endpoint).records k) := by
  unfold perform Deed.records
  dsimp only
  cases hbegin : k.store.begin asked (.ofString email) with
  | unknown =>
    rw [call_of_unknown hbegin]
    exact h.of_fewer h.toFiled fun _ _ hc => hc
  | cached token =>
    rw [call_of_cached hbegin]
    exact h.of_fewer h.toFiled fun _ _ hc => hc
  | refresh r =>
    cases hanswer : endpoint r with
    | error e =>
      rw [call_of_refused hbegin hanswer, List.filterMap_cons, hanswer]
      exact h.of_fewer h.toFiled fun _ _ hc => hc
    | ok g =>
      obtain ⟨c, hheld, -⟩ := Option.map_eq_some_iff.1 (Store.tokenOf_of_begin hbegin)
      have hsettle := settle_of_held hheld k.disk g arrival
      have hrecords : ([r].filterMap fun r => (endpoint r).toOption.map fun g =>
          Record.minted (.ofString email) ⟨arrival, g⟩) =
          [.minted (.ofString email) ⟨arrival, g⟩] := by
        rw [List.filterMap_cons, hanswer]
        rfl
      rw [call_of_granted hbegin hanswer, hsettle]
      dsimp only
      rw [hrecords]
      refine ⟨h.toFiled.settled hheld g arrival, fun b d hd => ?_⟩
      dsimp only at hd
      rw [Catalog.get?_insert] at hd
      by_cases hb : b = .ofString email
      · obtain rfl := hb
        rw [if_pos rfl] at hd
        cases hd
        exact (h.told _ c hheld).minted ⟨arrival, g⟩
      · rw [if_neg hb] at hd
        exact (h.told b d hd).concat (Ne.symm hb)

/-! ## Every run -/

theorem Ledger.perform (h : k.Ledger history) (d : Deed) :
    Ledger (k.perform d) (history ++ d.records k) := by
  cases d with
  | upsert now email r => exact h.upsert now email r
  | revoke email => exact h.of_fewer (h.toFiled.act rfl) (k.fewer_revoke email)
  | adopt now email place =>
    refine h.of_fewer (h.toFiled.act rfl) fun a c hc => ?_
    have hheld := k.store.held_adopt k.disk now (.ofString email) place .none
    exact (congrArg (·.get? a) hheld).symm.trans hc
  | sync => exact h.of_reread h.toFiled.reread_sync (Store.normal_sync h.normal k.disk)
  | restart =>
    exact h.of_reread h.toFiled.reread_restart
      (Store.normal_load Store.normal_empty k.disk .none)
  | request asked arrival email endpoint => exact h.request asked arrival email endpoint

theorem Ledger.run (h : k.Ledger history) (deeds : List Deed) :
    Ledger (k.performAll deeds) (history ++ k.history deeds) := by
  induction deeds generalizing k history with
  | nil =>
    rw [Keeper.history, List.append_nil]
    exact h
  | cons d deeds ih =>
    rw [Keeper.history, ← List.append_assoc]
    exact ih (h.perform d)

end Keeper

/-! ## Main result -/

/-- A request for an access token that has led to an answer of the token endpoint: in memory and on
file the credential of the account is another one, and nothing else is. -/
structure Call.Kept (k : Keeper) (a : AccountId) (c : Credential) (arrival : Int64) (g : Grant)
    (call : Call) : Prop where
  /-- The caller gets the access token. -/
  answer : call.answer = .ok g.accessToken
  /-- The account has the access token, and the refresh token that came with it if one did. -/
  account : call.after.store.held.get? a = some { c with
    refreshToken := g.refreshToken.getD c.refreshToken
    token := some (g.token arrival)
    lastUsed := arrival }
  /-- The other accounts are as they were. -/
  others : ∀ b, b ≠ a → call.after.store.held.get? b = k.store.held.get? b
  /-- The same accounts wait for credentials. -/
  pending : call.after.store.pending = k.store.pending
  /-- The account file says the same, but for the account. -/
  file : ∃ before after, FileHolds k.disk before ∧ FileHolds call.after.disk after
    ∧ after.pending = before.pending ∧ (∀ b, b ≠ a → after.last? b = before.last? b)
    ∧ (a.isEmpty = false → after.last? a = call.after.store.held.get? a)

theorem Keeper.Filed.kept_call {k : Keeper} (h : k.Filed) {asked arrival : Int64} {a : AccountId}
    {c : Credential} {r : String} {endpoint : String → Except RefreshError Grant} {g : Grant}
    (held : k.store.held.get? a = some c) (sent : k.store.begin asked a = .refresh r)
    (granted : endpoint r = .ok g) :
    Call.Kept k a c arrival g (k.call asked arrival a endpoint) := by
  obtain ⟨before, hbefore, hpending, hlast⟩ := h.onFile
  obtain ⟨after, hafter, hpending', hlast'⟩ := (h.settled held g arrival).onFile
  rw [call_of_granted sent granted, settle_of_held held]
  refine ⟨rfl, ?_, fun b hb => ?_, rfl, before, after, readBook_eq_ok_iff.1 hbefore,
    readBook_eq_ok_iff.1 hafter, hpending'.trans hpending.symm, fun b hb => ?_, fun ha => ?_⟩
  · exact (Catalog.get?_insert _ _ _ _).trans (if_pos rfl)
  · exact (Catalog.get?_insert _ _ _ _).trans (if_neg hb)
  · rw [hlast, hlast', Catalog.get?_insert, if_neg hb]
  · rw [hlast', ha, if_neg Bool.false_ne_true]

/-- **The cache of access tokens is exact.** A process alone writes into a directory in which there
was no account file; it sets and drops refresh tokens, notes accounts, syncs, begins again, and asks
for access tokens, whatever the endpoint answers. When it asks once more, at a time from which to
the expiry of the last access token there are not more seconds than 64 bits can say, for an account
that it holds, nothing is sent exactly if an access token has been given for the account since it
was last given another refresh token, and enough is left of the last one; this one the caller gets.
Otherwise one refresh token is sent, the last that the account was given. A refusal changes nothing;
an answer changes the credential of this account and nothing else. For an account that is not held
nothing is sent either. -/
theorem token_cache_exact (folder : Folder) (hnew : folder.get? accountFile = none)
    (deeds : List Keeper.Deed) (asked arrival : Int64) (a : AccountId)
    (exact : ∀ m, lastMint? ((Keeper.created (some folder)).history deeds) a = some m →
      m.Exact asked)
    (endpoint : String → Except RefreshError Grant) :
    let k := (Keeper.created (some folder)).performAll deeds
    let history := (Keeper.created (some folder)).history deeds
    let call := k.call asked arrival a endpoint
    (k.store.holds a = false →
        call.sent = [] ∧ call.answer = .error .invalidCredentials ∧ call.after = k)
      ∧ ∀ c, k.store.held.get? a = some c →
        (call.sent = [] ↔ ∃ m, lastMint? history a = some m ∧ m.Lasts asked)
          ∧ (∀ m, lastMint? history a = some m → m.Lasts asked →
            call.answer = .ok m.grant.accessToken ∧ call.after = k)
          ∧ (call.sent ≠ [] → ∃ r, lastRefreshToken? history a = some r ∧ call.sent = [r]
            ∧ (∀ e, endpoint r = .error e →
              call.answer = .error e.toTokenError ∧ call.after = k)
            ∧ ∀ g, endpoint r = .ok g → Call.Kept k a c arrival g call) := by
  intro k history call
  have hledger : k.Ledger history := (Keeper.ledger_created hnew).run deeds
  refine ⟨fun lost => ?_, fun c hheld => ?_⟩
  · have hnone : k.store.held.get? a = none :=
      Option.not_isSome_iff_eq_none.1 (Bool.eq_false_iff.1 lost)
    have hcall : call = ⟨[], .error .invalidCredentials, k⟩ :=
      Keeper.call_of_unknown (Keeper.begin_of_not_held hnone asked)
    rw [hcall]
    exact ⟨rfl, rfl, rfl⟩
  have htold := hledger.told a c hheld
  -- the store decides by what it has in memory, which the ledger says in terms of the history
  rcases Keeper.begin_of_told hheld htold exact with
    ⟨m, hlast, hlasts, hbegin⟩ | ⟨hstale, hbegin⟩
  · have hcall : call = ⟨[], .ok m.grant.accessToken, k⟩ := Keeper.call_of_cached hbegin
    rw [hcall]
    refine ⟨iff_of_true rfl ⟨m, hlast, hlasts⟩, fun m' hm' _ => ?_, fun h => absurd rfl h⟩
    obtain rfl := Option.some.inj (hlast.symm.trans hm')
    exact ⟨rfl, rfl⟩
  · have hsent : call.sent = [c.refreshToken] := by
      cases hanswer : endpoint c.refreshToken with
      | error e => exact congrArg Call.sent (Keeper.call_of_refused hbegin hanswer)
      | ok g => exact congrArg Call.sent (Keeper.call_of_granted hbegin hanswer)
    have hsome : call.sent ≠ [] := hsent ▸ List.cons_ne_nil _ _
    refine ⟨iff_of_false hsome fun ⟨m, hm, hlasts⟩ => hstale m hm hlasts,
      fun m hm hlasts => absurd hlasts (hstale m hm),
      fun _ => ⟨c.refreshToken, htold.1, hsent, fun e he => ?_, fun g hg => ?_⟩⟩
    · have hcall : call = ⟨[c.refreshToken], .error e.toTokenError, k⟩ :=
        Keeper.call_of_refused hbegin he
      rw [hcall]
      exact ⟨rfl, rfl⟩
    · exact hledger.toFiled.kept_call hheld hbegin hg

/-- An access token and another refresh token, for an hour. -/
def hourly : Grant :=
  ⟨"access", 3600, "Bearer", some "second"⟩

/-- An account is added and given an access token, another one is noted, and the process begins
again. -/
def oneMint : List Keeper.Deed :=
  [.upsert 0 "x" "first", .request 10 12 "x" (fun _ => .ok hourly), .adopt 13 "y" 0, .restart,
    .sync]

/-- Five minutes before the access token expires it is still given, and a second later the refresh
token that came with it is sent. -/
theorem token_cache_exact_restarted :
    let k := (Keeper.created (some [])).performAll oneMint
    let refuses : String → Except RefreshError Grant := fun _ => .error (.rejected 400 "")
    let early := k.call 3312 3312 ⟨"x"⟩ refuses
    let late := k.call 3313 3313 ⟨"x"⟩ refuses
    let unknown := k.call 3313 3313 ⟨"y"⟩ refuses
    early.sent = [] ∧ early.answer.toOption = some "access"
      ∧ late.sent = ["second"] ∧ late.answer = .error .invalidCredentials ∧ late.after = k
      ∧ unknown.sent = [] := by
  intro k refuses early late unknown
  have hhistory : (Keeper.created (some [])).history oneMint =
      [.set ⟨"x"⟩ "first", .minted ⟨"x"⟩ ⟨12, hourly⟩] := by decide +kernel
  have hheld : k.store.held.get? ⟨"x"⟩ =
      some ⟨"second", some (hourly.token 12), 0, 12⟩ := by decide +kernel
  have hlast : lastMint? ((Keeper.created (some [])).history oneMint) ⟨"x"⟩ =
      some ⟨12, hourly⟩ := by
    rw [hhistory]
    decide
  have hnever : lastMint? ((Keeper.created (some [])).history oneMint) ⟨"y"⟩ = none := by
    rw [hhistory]
    decide
  have hearly : Mint.Lasts ⟨12, hourly⟩ 3312 := by
    show (3312 : Int64).toInt + (300 : Int64).toInt ≤ (12 : Int64).toInt + (3600 : Int64).toInt
    decide
  have hlate : ¬ Mint.Lasts ⟨12, hourly⟩ 3313 := by
    show ¬ (3313 : Int64).toInt + (300 : Int64).toInt ≤ (12 : Int64).toInt + (3600 : Int64).toInt
    decide
  have hlaw (asked : Int64) (hexact : Mint.Exact ⟨12, hourly⟩ asked) :=
    token_cache_exact [] rfl oneMint asked asked ⟨"x"⟩
      (fun m hm => Option.some.inj (hlast.symm.trans hm) ▸ hexact) refuses
  have hother := token_cache_exact [] rfl oneMint 3313 3313 ⟨"y"⟩
    (fun m hm => nomatch hnever.symm.trans hm) refuses
  obtain ⟨hcached, hgiven, -⟩ := (hlaw 3312 (by unfold Mint.Exact; decide)).2 _ hheld
  obtain ⟨hsends, -, hsent⟩ := (hlaw 3313 (by unfold Mint.Exact; decide)).2 _ hheld
  have hsome : late.sent ≠ [] := by
    intro hnone
    obtain ⟨m, hm, hlasts⟩ := hsends.1 hnone
    obtain rfl := Option.some.inj (hlast.symm.trans hm)
    exact hlate hlasts
  obtain ⟨r, hr, hlate', hrefused, -⟩ := hsent hsome
  have hsecond : r = "second" := by
    rw [hhistory] at hr
    exact (Option.some.inj hr).symm
  obtain ⟨hanswer, hafter⟩ := hrefused _ rfl
  have hnone : k.store.holds ⟨"y"⟩ = false := by decide +kernel
  refine ⟨hcached.2 ⟨_, hlast, hearly⟩, ?_, hsecond ▸ hlate', hanswer, hafter,
    (hother.1 hnone).1⟩
  rw [(hgiven _ hlast hearly).1]
  rfl

end SessionSync
