import SessionSync.Proofs.Store.RefreshTokens
import SessionSync.Proofs.Store.Saving

/-!
# Refreshes in flight

Between the request for an access token and its answer anything may happen to the store. The answer
is kept for the account as it is then: it is dropped if the account holds no credentials any more,
but nobody asks whether the refresh token is still the one that was sent.

* `Refreshing` — a store with the requests in flight and the answers that have come so far.
* `Refreshing.normal_run` — a store stays in normal form through any history.
* `Vouched` — where the access token of a credential comes from.
* `answered_in_flight` — what an answer does, and when every access token is vouched for.
* `newer_overwritten` — what a late answer does to newer credentials.
-/

namespace SessionSync

/-! ## Requests and answers -/

/-- A successful answer of the token endpoint. -/
structure Answer where
  /-- The account that it is for. -/
  account : AccountId
  /-- The refresh token that was sent. -/
  sent : String
  /-- When it arrives. -/
  now : Int64
  /-- What it says. -/
  grant : Grant

/-- The access token that an answer brings. -/
def Answer.token (x : Answer) : AccessToken :=
  x.grant.token x.now

/-- The access token of a credential was given for its refresh token, or in the answer that brought
the refresh token. -/
def Vouched (answers : List Answer) (a : AccountId) (c : Credential) : Prop :=
  ∀ t ∈ c.token, ∃ x ∈ answers, x.account = a ∧ x.token = t
    ∧ (x.sent = c.refreshToken ∨ x.grant.refreshToken = some c.refreshToken)

/-- The answers that come while an operation runs. -/
def StoreOp.answers (s : Store) : StoreOp → List Answer
  | token asked arrival email endpoint =>
    match s.begin asked (.ofString email) with
    | .refresh sent =>
      match endpoint sent with
      | .ok g => [⟨.ofString email, sent, arrival, g⟩]
      | .error _ => []
    | _ => []
  | _ => []

/-- A store that waits for answers. -/
structure Refreshing where
  /-- The store. -/
  store : Store
  /-- The data directory. -/
  disk : Disk
  /-- The requests in flight: the account, and the refresh token that was sent. -/
  flying : List (AccountId × String) := []
  /-- The answers that have come, oldest first. -/
  answers : List Answer := []

/-- What can happen meanwhile. -/
inductive RefreshEvent
  /-- An access token is asked for. -/
  | ask (now : Int64) (account : AccountId)
  /-- A request is answered. -/
  | answer (place : Nat) (now : Int64) (grant : Grant) (fault : WriteFault)
  /-- A request fails. -/
  | fail (place : Nat)
  /-- The store does something at once. -/
  | own (op : StoreOp) (fault : WriteFault)
  /-- Somebody else changes the data directory. -/
  | edit (disk : Disk)

namespace Refreshing

/-- What an event leads to. -/
def react (w : Refreshing) : RefreshEvent → Refreshing
  | .ask now a =>
    match w.store.begin now a with
    | .refresh sent => { w with flying := w.flying ++ [(a, sent)] }
    | _ => w
  | .answer place now g fault =>
    match w.flying[place]? with
    | none => w
    | some (a, sent) =>
      let (store, disk) := w.store.settle w.disk now a g fault
      { store, disk, flying := w.flying.eraseIdx place
        answers := w.answers ++ [⟨a, sent, now, g⟩] }
  | .fail place => { w with flying := w.flying.eraseIdx place }
  | .own op fault =>
    let (store, disk) := op.run w.store w.disk fault
    { w with store, disk, answers := w.answers ++ op.answers w.store }
  | .edit disk => { w with disk }

/-- Events happen one after the other. -/
def run (w : Refreshing) (events : List RefreshEvent) : Refreshing :=
  events.foldl react w

end Refreshing

/-! ## Where access tokens come from -/

/-- All access tokens in memory are vouched for. -/
def Store.Vouched (answers : List Answer) (s : Store) : Prop :=
  ∀ a c, s.held.get? a = some c → SessionSync.Vouched answers a c

/-- All access tokens on file are vouched for. -/
def VouchedOnFile (answers : List Answer) (disk : Disk) : Prop :=
  ∀ book, readBook disk = .ok book →
    ∀ a c, (Store.catalogOf book).get? a = some c → Vouched answers a c

/-- All access tokens are vouched for, in memory and on file. -/
structure Refreshing.Sound (w : Refreshing) : Prop where
  normal : w.store.Normal
  inMemory : w.store.Vouched w.answers
  onFile : VouchedOnFile w.answers w.disk

/-- An answer that brings no refresh token finds the one that was sent, or no credentials; and what
others leave on file is vouched for. -/
def RefreshEvent.Timely (w : Refreshing) : RefreshEvent → Prop
  | .answer place _ g _ =>
    ∀ a sent, w.flying[place]? = some (a, sent) →
      ∀ r ∈ w.store.tokenOf a, r = sent ∨ g.refreshToken.isSome = true
  | .edit disk => VouchedOnFile w.answers disk
  | _ => True

/-- All events are timely when they happen. -/
def Refreshing.Timely (w : Refreshing) : List RefreshEvent → Prop
  | [] => True
  | e :: events => e.Timely w ∧ (w.react e).Timely events

section

variable {answers more : List Answer} {a : AccountId} {c : Credential} {s : Store} {disk : Disk}

theorem Vouched.mono (h : Vouched answers a c) (sub : answers ⊆ more) : Vouched more a c := by
  intro t ht
  obtain ⟨x, hx, hfrom⟩ := h t ht
  exact ⟨x, sub hx, hfrom⟩

theorem Store.Vouched.mono (h : s.Vouched answers) (sub : answers ⊆ more) : s.Vouched more :=
  fun a c hc => (h a c hc).mono sub

theorem VouchedOnFile.mono (h : VouchedOnFile answers disk) (sub : answers ⊆ more) :
    VouchedOnFile more disk :=
  fun book hbook a c hc => (h book hbook a c hc).mono sub

theorem vouched_of_no_token (h : c.token = none) : Vouched answers a c := by
  intro t ht
  rw [h] at ht
  cases ht

/-- Only the refresh token and the access token matter. -/
theorem Vouched.of_same {d : Credential} (h : Vouched answers a c)
    (refreshToken : d.refreshToken = c.refreshToken) (token : d.token = c.token) :
    Vouched answers a d := by
  intro t ht
  rw [token] at ht
  rw [refreshToken]
  exact h t ht

/-! ### Saving -/

theorem Store.Vouched.save (h : s.Vouched answers) (normal : s.Normal)
    (onFile : VouchedOnFile answers disk) (fault : WriteFault) :
    VouchedOnFile answers (s.save disk fault).2 := by
  intro book hbook a c hc
  rcases readBook_saveBook normal disk fault with hsame | hnew
  · exact onFile book (hsame.symm.trans hbook) a c hc
  · obtain rfl : s.book = book := Except.ok.inj (hnew.symm.trans hbook)
    rw [Store.get?_catalogOf_book] at hc
    split at hc
    · cases hc
    · exact h a c hc

theorem Store.Vouched.insert (h : s.Vouched answers) (hc : SessionSync.Vouched answers a c)
    (pending : List Adoption) : Store.Vouched answers ⟨s.held.insert a c, pending⟩ := by
  intro b d hd
  rw [Catalog.get?_insert] at hd
  split at hd
  · next hb =>
    cases hd
    exact hb ▸ hc
  · exact h b d hd

/-! ### Changing credentials -/

theorem vouched_renewed {old : Option Credential} (h : ∀ c ∈ old, Vouched answers a c)
    (refreshToken : String) (now : Int64) :
    Vouched answers a (Store.renewed old refreshToken now) := by
  unfold Store.renewed
  split
  · next c =>
    split
    · exact (h c rfl).of_same rfl rfl
    · exact vouched_of_no_token rfl
  · exact vouched_of_no_token rfl

/-- An answer that is timely, or brings a refresh token, vouches for the access token it brings. -/
theorem vouched_granted {x : Answer} (hx : x ∈ answers)
    (timely : c.refreshToken = x.sent ∨ x.grant.refreshToken.isSome = true) :
    Vouched answers x.account (Store.granted c x.grant x.now) := by
  intro t ht
  refine ⟨x, hx, rfl, Option.some.inj ht, ?_⟩
  unfold Store.granted
  cases hbrings : x.grant.refreshToken with
  | some r => exact .inr rfl
  | none =>
    rw [hbrings] at timely
    exact .inl (timely.resolve_right Bool.false_ne_true).symm

theorem Store.Vouched.erase (h : s.Vouched answers) (a : AccountId) (pending : List Adoption) :
    Store.Vouched answers ⟨s.held.erase a, pending⟩ := by
  intro b d hd
  rw [Catalog.get?_erase] at hd
  split at hd
  · cases hd
  · exact h b d hd

/-- What an operation writes is vouched for. -/
theorem Store.Vouched.written (h : s.Vouched answers) {op : StoreOp} {s' : Store}
    (written : op.written? s = some s') : s'.Vouched (answers ++ op.answers s) := by
  have hmore := h.mono (List.subset_append_left answers (op.answers s))
  cases op with
  | load | sync => cases written
  | upsert now email refreshToken =>
    cases written
    exact hmore.insert (vouched_renewed (hmore _) refreshToken now) _
  | revoke email =>
    simp only [StoreOp.written?] at written
    split at written
    · cases written
      exact hmore.erase _ _
    · cases written
  | adopt now email place =>
    simp only [StoreOp.written?] at written
    split at written
    · cases written
    · cases written
      exact hmore
  | token asked arrival email endpoint =>
    simp only [StoreOp.written?] at written
    split at written
    · next sent hbegin =>
      split at written
      · next g c hg hc =>
        cases written
        have hsent : c.refreshToken = sent := by
          have := tokenOf_of_begin hbegin
          rw [tokenOf, hc] at this
          exact Option.some.inj this
        have hcame : ⟨.ofString email, sent, arrival, g⟩ ∈
            answers ++ StoreOp.answers s (.token asked arrival email endpoint) := by
          simp [StoreOp.answers, hbegin, hg]
        exact hmore.insert (vouched_granted hcame (.inl hsent)) _
      · cases written
    · cases written

end

/-! ## What events preserve -/

namespace Refreshing

variable {w : Refreshing}

theorem Sound.load (h : w.Sound) (fault : WriteFault) :
    Sound { w with
      store := (w.store.load w.disk fault).store
      disk := (w.store.load w.disk fault).disk } := by
  have hnormal := Store.normal_load h.normal w.disk fault
  obtain ⟨book, hbook, hload⟩ | ⟨-, -, hload⟩ | ⟨e, e', -, hload⟩ := w.store.load_cases w.disk fault
  · rw [hload] at hnormal ⊢
    exact ⟨hnormal, h.onFile book hbook, h.onFile⟩
  · rw [hload] at hnormal ⊢
    refine ⟨hnormal, nofun, fun book hempty => ?_⟩
    rw [readBook_moveBookAside] at hempty
    cases hempty
    nofun
  · rw [hload]
    exact ⟨h.normal, h.inMemory, h.onFile⟩

theorem Sound.sync (h : w.Sound) :
    Sound { w with store := (w.store.sync w.disk).store, disk := (w.store.sync w.disk).disk } := by
  cases hbook : readBook w.disk with
  | error e =>
    rw [w.store.sync_of_error hbook]
    exact ⟨h.normal, h.inMemory, h.onFile⟩
  | ok book =>
    obtain ⟨-, hdisk, hheld, -⟩ := w.store.sync_of_readBook hbook
    refine ⟨Store.normal_sync h.normal w.disk, fun a c hc => ?_, ?_⟩
    · have hc' : (w.store.sync w.disk).store.held.get? a = some c := hc
      rw [hheld, Catalog.get?_mapValues] at hc'
      obtain ⟨d, hd, rfl⟩ := Option.map_eq_some_iff.1 hc'
      unfold Store.merged
      split
      · next own hown =>
        split
        · exact h.inMemory a own hown
        · exact h.onFile book hbook a d hd
      · exact h.onFile book hbook a d hd
    · show VouchedOnFile w.answers (w.store.sync w.disk).disk
      rw [hdisk]
      exact h.onFile

/-- What reads the account file asks for no access token. -/
theorem answers_of_reads {op : StoreOp} (reads : op.reads = true) (s : Store) :
    op.answers s = [] := by
  cases op with
  | load | sync => rfl
  | upsert | revoke | adopt | token => cases reads

theorem Sound.own (h : w.Sound) (op : StoreOp) (fault : WriteFault) :
    (w.react (.own op fault)).Sound := by
  show Sound ⟨(op.run w.store w.disk fault).1, (op.run w.store w.disk fault).2, w.flying,
    w.answers ++ op.answers w.store⟩
  by_cases hreads : op.reads = true
  · rw [answers_of_reads hreads, List.append_nil]
    cases op with
    | load => exact h.load fault
    | sync => exact h.sync
    | upsert | revoke | adopt | token => cases hreads
  · have hsub := List.subset_append_left w.answers (op.answers w.store)
    rw [op.run_of_not_reads (Bool.eq_false_iff.2 hreads)]
    cases hwritten : op.written? w.store with
    | none => exact ⟨h.normal, h.inMemory.mono hsub, h.onFile.mono hsub⟩
    | some s =>
      have hnormal := StoreOp.normal_written h.normal hwritten
      have hvouched := h.inMemory.written hwritten
      exact ⟨hnormal, hvouched, hvouched.save hnormal (h.onFile.mono hsub) fault⟩

/-- What an answer leads to for an account that holds credentials. -/
theorem react_answer_of_held {place : Nat} {a : AccountId} {sent : String} {c : Credential}
    (flying : w.flying[place]? = some (a, sent)) (held : w.store.held.get? a = some c)
    (now : Int64) (g : Grant) (fault : WriteFault) :
    let s : Store := ⟨w.store.held.insert a (Store.granted c g now), w.store.pending⟩
    w.react (.answer place now g fault) = ⟨s, (s.save w.disk fault).2, w.flying.eraseIdx place,
      w.answers ++ [⟨a, sent, now, g⟩]⟩ := by
  simp only [react, flying, Store.settle, held]

/-- What an answer leads to for an account that holds none. -/
theorem react_answer_of_not_held {place : Nat} {a : AccountId} {sent : String}
    (flying : w.flying[place]? = some (a, sent)) (lost : w.store.held.get? a = none)
    (now : Int64) (g : Grant) (fault : WriteFault) :
    w.react (.answer place now g fault) = { w with
      flying := w.flying.eraseIdx place, answers := w.answers ++ [⟨a, sent, now, g⟩] } := by
  simp only [react, flying, Store.settle, lost]

theorem normal_react (h : w.store.Normal) (e : RefreshEvent) :
    (w.react e).store.Normal := by
  cases e with
  | ask now a =>
    unfold react
    dsimp only
    split <;> exact h
  | fail place => exact h
  | edit disk => exact h
  | own op fault => exact op.normal_run h w.disk fault
  | answer place now g fault =>
    unfold react
    dsimp only
    split
    · exact h
    · exact Store.normal_settle h w.disk now _ g fault

/-- Whatever happens, all accounts stay in normal form. -/
theorem normal_run (h : w.store.Normal) (events : List RefreshEvent) :
    (w.run events).store.Normal := by
  induction events generalizing w with
  | nil => exact h
  | cons e events ih => exact ih (normal_react h e)

theorem Sound.answer (h : w.Sound) {place : Nat} {now : Int64} {g : Grant} {fault : WriteFault}
    (timely : RefreshEvent.Timely w (.answer place now g fault)) :
    (w.react (.answer place now g fault)).Sound := by
  cases hflying : w.flying[place]? with
  | none =>
    have hsame : w.react (.answer place now g fault) = w := by simp only [Refreshing.react, hflying]
    exact hsame.symm ▸ h
  | some request =>
    obtain ⟨a, sent⟩ := request
    have hsub := List.subset_append_left w.answers [⟨a, sent, now, g⟩]
    cases hheld : w.store.held.get? a with
    | none =>
      rw [react_answer_of_not_held hflying hheld]
      exact ⟨h.normal, h.inMemory.mono hsub, h.onFile.mono hsub⟩
    | some c =>
      have htoken : w.store.tokenOf a = some c.refreshToken := by rw [Store.tokenOf, hheld]; rfl
      have hcame : (⟨a, sent, now, g⟩ : Answer) ∈ w.answers ++ [⟨a, sent, now, g⟩] :=
        List.mem_append_right w.answers List.mem_cons_self
      have hgranted := vouched_granted hcame (timely a sent hflying c.refreshToken htoken)
      have hvouched := (h.inMemory.mono hsub).insert hgranted w.store.pending
      have hholds : w.store.held.contains a = true := by rw [Catalog.contains, hheld]; rfl
      have hnames : Catalog.AllAccounts AccountId.Normal w.store.held := h.normal.accounts
      have hnormal : Store.Normal
          ⟨w.store.held.insert a (Store.granted c g now), w.store.pending⟩ :=
        ⟨hnames.insert (hnames.of_contains hholds) _, h.normal.pending⟩
      rw [react_answer_of_held hflying hheld]
      exact ⟨hnormal, hvouched, hvouched.save hnormal (h.onFile.mono hsub) fault⟩

/-- Timely events keep every access token vouched for. -/
theorem Sound.react (h : w.Sound) {e : RefreshEvent} (timely : e.Timely w) : (w.react e).Sound := by
  cases e with
  | ask now a =>
    show (match w.store.begin now a with
      | .refresh sent => { w with flying := w.flying ++ [(a, sent)] }
      | _ => w).Sound
    split
    · exact ⟨h.normal, h.inMemory, h.onFile⟩
    · exact h
  | answer place now g fault => exact h.answer timely
  | fail place => exact ⟨h.normal, h.inMemory, h.onFile⟩
  | own op fault => exact h.own op fault
  | edit disk => exact ⟨h.normal, h.inMemory, timely⟩

theorem Sound.run (h : w.Sound) {events : List RefreshEvent} (timely : w.Timely events) :
    (w.run events).Sound := by
  induction events generalizing w with
  | nil => exact h
  | cons e events ih => exact ih (h.react timely.1) timely.2

/-! ## Main result -/

/-- An access token that came in one answer only is vouched for by that answer. -/
theorem timely_of_vouched {x : Answer} {answers : List Answer} {c : Credential}
    (unseen : ∀ y ∈ answers, y.token ≠ x.token)
    (vouched : Vouched (answers ++ [x]) x.account (Store.granted c x.grant x.now)) :
    c.refreshToken = x.sent ∨ x.grant.refreshToken.isSome = true := by
  obtain ⟨y, hy, -, htoken, hfrom⟩ := vouched x.token rfl
  rcases List.mem_append.1 hy with hy | hy
  · exact absurd htoken (unseen y hy)
  · obtain rfl : y = x := List.mem_singleton.1 hy
    unfold Store.granted at hfrom
    cases hbrings : y.grant.refreshToken with
    | some r => exact .inr rfl
    | none =>
      rw [hbrings] at hfrom
      exact .inl (hfrom.resolve_right nofun).symm

/-- What comes of an answer to a request that is in flight, whatever has happened to the store since
the refresh token was sent. If the account holds no credentials any more, nothing. If it holds some,
they get the access token of the answer, and its refresh token if it brings one, whether or not the
refresh token is still the one that was sent; with a new access token all access tokens remain
vouched for exactly if it still is or the answer brings one. What others have left on file under
another refresh token is taken over as it stands. So all access tokens are vouched for, in memory
and on file, as long as answers are timely and what others leave on file is vouched for. -/
theorem answered_in_flight (w : Refreshing) :
    (∀ place a sent, w.flying[place]? = some (a, sent) → ∀ now g fault,
      let w' := w.react (.answer place now g fault)
      (w.store.holds a = false → w'.store = w.store ∧ w'.disk = w.disk)
        ∧ ∀ c, w.store.held.get? a = some c →
          w'.store.held.get? a = some { c with
              refreshToken := g.refreshToken.getD c.refreshToken
              token := some (g.token now)
              lastUsed := now }
            ∧ (∀ b, b ≠ a → w'.store.held.get? b = w.store.held.get? b)
            ∧ w'.store.pending = w.store.pending ∧ w'.disk = (w'.store.save w.disk fault).2
            ∧ (w.Sound → (∀ x ∈ w.answers, x.token ≠ g.token now) →
              (w'.Sound ↔ c.refreshToken = sent ∨ g.refreshToken.isSome = true)))
      ∧ (∀ book a c, readBook w.disk = .ok book → (Store.catalogOf book).get? a = some c →
        w.store.tokenOf a ≠ some c.refreshToken → ∀ fault,
        (w.react (.own .sync fault)).store.held.get? a = some c)
      ∧ ∀ events, w.Sound → w.Timely events → (w.run events).Sound := by
  refine ⟨fun place a sent flying now g fault => ⟨fun lost => ?_, fun c held => ?_⟩, ?_,
    fun events h timely => h.run timely⟩
  · have hnone : w.store.held.get? a = none := by simpa [Store.holds, Catalog.contains] using lost
    rw [react_answer_of_not_held flying hnone]
    exact ⟨rfl, rfl⟩
  · have htimely : RefreshEvent.Timely w (.answer place now g fault) ↔
        c.refreshToken = sent ∨ g.refreshToken.isSome = true := by
      have htoken : w.store.tokenOf a = some c.refreshToken := by rw [Store.tokenOf, held]; rfl
      simp [RefreshEvent.Timely, flying, htoken]
    have hreact := react_answer_of_held flying held now g fault
    have hinserted : (w.react (.answer place now g fault)).store.held.get? a =
        some (Store.granted c g now) := by
      rw [hreact, Catalog.get?_insert, if_pos rfl]
    refine ⟨hinserted, fun b hb => ?_, ?_, ?_, fun h unseen => ⟨fun h' => ?_, fun h' => ?_⟩⟩
    · rw [hreact, Catalog.get?_insert, if_neg hb]
    · rw [hreact]
    · rw [hreact]
    · have hvouched := h'.inMemory a _ hinserted
      rw [hreact] at hvouched
      exact timely_of_vouched (x := ⟨a, sent, now, g⟩) unseen hvouched
    · exact h.answer (htimely.2 h')
  · intro book a c hbook hfile news fault
    show (w.store.sync w.disk).store.held.get? a = some c
    rw [(w.store.sync_of_readBook hbook).2.2.1, Catalog.get?_mapValues, hfile]
    unfold Store.merged
    rw [Option.map_some]
    split
    · next own hown =>
      have hother : own.refreshToken ≠ c.refreshToken := by
        rw [Store.tokenOf, hown] at news
        exact fun heq => news (congrArg some heq)
      rw [if_neg hother]
    · rfl

/-! ## Late answers -/

/-- A store that has read nothing yet, with an empty data directory. -/
def fresh : Refreshing where
  store := .empty
  disk := some []

theorem sound_fresh : fresh.Sound where
  normal := AccountBook.normal_empty
  inMemory := nofun
  onFile := by
    intro book hbook
    cases hbook
    nofun

/-- An account with a first refresh token, and a request in flight with it. -/
def asked : List RefreshEvent :=
  [.own (.upsert 0 "x" "first") .none, .ask 0 ⟨"x"⟩]

/-- The answer with an access token, and with a refresh token if there is one. -/
def arrives (refreshToken : Option String) : RefreshEvent :=
  .answer 0 0 ⟨"access", 3600, "Bearer", refreshToken⟩ .none

/-- An answer in time: its access token is kept, and vouched for. -/
theorem vouched_in_time :
    (fresh.run (asked ++ [arrives none])).Sound
      ∧ ((fresh.run (asked ++ [arrives none])).store.held.get? ⟨"x"⟩).map (·.token) =
        some (some ⟨"access", 3600, 3600, "Bearer"⟩) := by
  have hflying : (fresh.run asked).flying = [(⟨"x"⟩, "first")] := by decide +kernel
  have htoken : (fresh.run asked).store.tokenOf ⟨"x"⟩ = some "first" := by decide +kernel
  refine ⟨(answered_in_flight fresh).2.2 _ sound_fresh ⟨trivial, trivial, ?_, trivial⟩,
    by decide +kernel⟩
  show RefreshEvent.Timely (fresh.run asked) (arrives none)
  intro a sent hplace r hr
  rw [hflying] at hplace
  obtain ⟨rfl, rfl⟩ := Prod.mk.inj (Option.some.inj hplace)
  rw [htoken] at hr
  exact .inl (Option.some.inj hr).symm

/-- A refresh token has been replaced while a request was in flight. An answer that brings a refresh
token puts it in the place of the newer one; one that brings none leaves an access token that was
given for the refresh token that was replaced. -/
theorem newer_overwritten :
    let replaced := fresh.run (asked ++ [.own (.upsert 0 "x" "second") .none])
    replaced.flying = [(⟨"x"⟩, "first")] ∧ replaced.store.tokenOf ⟨"x"⟩ = some "second"
      ∧ (replaced.react (arrives (some "third"))).store.tokenOf ⟨"x"⟩ = some "third"
      ∧ ∃ c, (replaced.react (arrives none)).store.held.get? ⟨"x"⟩ = some c
        ∧ c.refreshToken = "second"
        ∧ ¬ Vouched (replaced.react (arrives none)).answers ⟨"x"⟩ c := by
  intro replaced
  have hflying : replaced.flying[0]? = some (⟨"x"⟩, "first") := by decide +kernel
  have hheld : replaced.store.held.get? ⟨"x"⟩ = some ⟨"second", none, 0, 0⟩ := by decide +kernel
  have hnone : replaced.answers = [] := List.isEmpty_iff.1 (by decide +kernel)
  refine ⟨by decide +kernel, by decide +kernel, by decide +kernel,
    ⟨"second", some ⟨"access", 3600, 3600, "Bearer"⟩, 0, 0⟩, by decide +kernel, rfl, fun h => ?_⟩
  rw [arrives, react_answer_of_held hflying hheld, hnone] at h
  obtain ⟨x, hx, -, -, hfrom⟩ := h _ rfl
  obtain rfl := List.mem_singleton.1 hx
  exact hfrom.elim (by decide) nofun

end Refreshing

end SessionSync
