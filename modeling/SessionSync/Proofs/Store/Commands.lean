import SessionSync.CommandLine.Accounts
import SessionSync.Proofs.Store.Operations

/-!
# What the account commands do to the account file

A command opens a store of its own, loads the file and saves it again if it changes something, so
what it does can be said in terms of the refresh tokens on file.

* `command_effect` — every command: the file is saved with one account changed, or only loaded.
* `tokenOnFile_edit` — the account that a command changes.
* `tokenOnFile_of_not_edits` — any other account.
-/

namespace SessionSync

open Store
open CommandLine (AccountCommand AccountError runAccountCommand addAccount removeAccount)

/-! ## Refresh tokens in memory -/

namespace Store

theorem refreshToken_renewed (old : Option Credential) (refreshToken : String) (now : Int64) :
    (renewed old refreshToken now).refreshToken = refreshToken := by
  unfold renewed
  cases old with
  | none => rfl
  | some c =>
    dsimp only
    split
    · next h => exact h
    · rfl

theorem tokenOf_insert (held : Catalog Credential) (pending : List Adoption) (a b : AccountId)
    (c : Credential) :
    tokenOf ⟨held.insert a c, pending⟩ b =
      if b = a then some c.refreshToken else (held.get? b).map (·.refreshToken) := by
  rw [tokenOf, Catalog.get?_insert]
  split <;> rfl

theorem tokenOf_erase (held : Catalog Credential) (pending : List Adoption) (a b : AccountId) :
    tokenOf ⟨held.erase a, pending⟩ b =
      if b = a then none else (held.get? b).map (·.refreshToken) := by
  rw [tokenOf, Catalog.get?_erase]
  split <;> rfl

/-- Setting a refresh token when the store can then be saved. -/
theorem upsert_of_saved {s s' : Store} {disk : Disk} {now : Int64} {a : AccountId}
    {refreshToken : String} (hs' : s' = ⟨s.held.insert a (renewed (s.held.get? a) refreshToken now),
      s.pending.filter (·.account ≠ a)⟩) (saved : (s'.save disk .none).1 = .ok ()) :
    s.upsert disk now a refreshToken .none =
      ⟨.ok (), s', (s'.save disk .none).2, [.available a]⟩ := by
  subst hs'
  simp only [upsert]
  split
  · next heq => rw [heq]
  · next heq =>
    rw [heq] at saved
    cases saved

/-- Dropping credentials when the store can then be saved. -/
theorem revoke_of_saved {s s' : Store} {disk : Disk} {a : AccountId} (holds : s.holds a = true)
    (hs' : s' = ⟨s.held.erase a, s.pending⟩) (saved : (s'.save disk .none).1 = .ok ()) :
    s.revoke disk a .none = ⟨.ok true, s', (s'.save disk .none).2, [.revoked a]⟩ := by
  subst hs'
  rw [revoke, if_pos holds]
  dsimp only
  split
  · next heq => rw [heq]
  · next heq =>
    rw [heq] at saved
    cases saved

/-- A store that has set a refresh token, and has saved itself with it. -/
theorem upsert_usable {s : Store} {disk : Disk} (h : Usable disk) (hs : s.Normal) (now : Int64)
    {a : AccountId} (ha : a.Normal) (refreshToken : String) :
    ∃ s' : Store, s'.Normal ∧ (∀ b, s'.tokenOf b = if b = a then some refreshToken else s.tokenOf b)
      ∧ s.upsert disk now a refreshToken .none =
        ⟨.ok (), s', (s'.save disk .none).2, [.available a]⟩ := by
  have hheld : Catalog.AllAccounts AccountId.Normal s.held := hs.accounts
  let s' : Store := ⟨s.held.insert a (renewed (s.held.get? a) refreshToken now),
    s.pending.filter (·.account ≠ a)⟩
  have hnormal : s'.Normal :=
    ⟨hheld.insert ha _, fun p hp => hs.pending p (List.mem_filter.1 hp).1⟩
  refine ⟨s', hnormal, fun b => ?_, ?_⟩
  · rw [tokenOf_insert, refreshToken_renewed]
    rfl
  · exact upsert_of_saved rfl (s'.save_usable h hnormal).1

/-- A store that has dropped the credentials of an account, and has saved itself without them. -/
theorem revoke_usable {s : Store} {disk : Disk} (h : Usable disk) (hs : s.Normal) {a : AccountId}
    (holds : s.holds a = true) :
    ∃ s' : Store, s'.Normal ∧ (∀ b, s'.tokenOf b = if b = a then none else s.tokenOf b)
      ∧ s.revoke disk a .none = ⟨.ok true, s', (s'.save disk .none).2, [.revoked a]⟩ := by
  have hheld : Catalog.AllAccounts AccountId.Normal s.held := hs.accounts
  let s' : Store := ⟨s.held.erase a, s.pending⟩
  have hnormal : s'.Normal := ⟨hheld.erase a, hs.pending⟩
  refine ⟨s', hnormal, fun b => ?_, ?_⟩
  · rw [tokenOf_erase]
    rfl
  · exact revoke_of_saved holds rfl (s'.save_usable h hnormal).1

end Store

/-! ## Commands -/

/-- The account that a command is about, with the refresh token that it is to have. -/
def CommandLine.AccountCommand.edit? : AccountCommand → Option (AccountId × Option String)
  | .add email refreshToken =>
    some (.ofString email, some (String.ofList (Text.trim refreshToken.toList)))
  | .remove email => some (.ofString email, none)
  | .list => none

/-- A command about an account is carried out: the account is to have that refresh token, or none.
-/
def Edits (disk : Disk) (now : Int64) (c : AccountCommand) (a : AccountId) (v : Option String) :
    Prop :=
  c.edit? = some (a, v) ∧ ∃ lines, (runAccountCommand disk now c).1 = .ok lines

/-- A store has been saved with the refresh token of one account changed. -/
def SavedWith (s : Store) (disk : Disk) (a : AccountId) (v : Option String) (after : Disk) : Prop :=
  a.isEmpty = false ∧ ∃ s' : Store, s'.Normal ∧
    (∀ b, s'.tokenOf b = if b = a then v else s.tokenOf b) ∧ after = (s'.save disk .none).2

section

variable {s : Store} {disk : Disk}

theorem addAccount_cases (hs : s.Normal) (h : Usable disk) (now : Int64)
    (email refreshToken : String) :
    let r := addAccount s disk now email refreshToken
    ((∃ lines, r.1 = .ok lines) ∧ SavedWith s disk (.ofString email)
        (some (String.ofList (Text.trim refreshToken.toList))) r.2)
      ∨ ((∃ e, r.1 = .error e) ∧ r.2 = disk) := by
  by_cases hempty : (AccountId.ofString email).isEmpty = true
  · have hadd : addAccount s disk now email refreshToken = (.error .noAccount, disk) :=
      if_pos hempty
    exact .inr ⟨⟨.noAccount, by rw [hadd]⟩, by rw [hadd]⟩
  · generalize htoken : String.ofList (Text.trim refreshToken.toList) = token
    by_cases hblank : token = ""
    · have hadd : addAccount s disk now email refreshToken = (.error .noToken, disk) := by
        simp only [addAccount, htoken]
        rw [if_neg hempty, if_pos hblank]
      exact .inr ⟨⟨.noToken, by rw [hadd]⟩, by rw [hadd]⟩
    · obtain ⟨s', hnormal, htokens, hupsert⟩ :=
        upsert_usable h hs now (AccountId.normal_ofString email) token
      have hadd : addAccount s disk now email refreshToken =
          (.ok [s!"Stored refresh token for {(AccountId.ofString email).text}"],
            (s'.save disk .none).2) := by
        simp only [addAccount, htoken]
        rw [if_neg hempty, if_neg hblank, hupsert]
      exact .inl ⟨⟨_, by rw [hadd]⟩, by simpa using hempty, s', hnormal, htokens, by rw [hadd]⟩

theorem removeAccount_cases (hs : s.Normal) (h : Usable disk)
    (hname : Catalog.AllAccounts (fun a => a.isEmpty = false) s.held) (email : String) :
    let r := removeAccount s disk email
    ((∃ lines, r.1 = .ok lines) ∧ SavedWith s disk (.ofString email) none r.2)
      ∨ ((∃ e, r.1 = .error e) ∧ r.2 = disk) := by
  let a := AccountId.ofString email
  by_cases hholds : s.holds a = true
  · obtain ⟨s', hnormal, htokens, hrevoke⟩ := revoke_usable h hs hholds
    have hremove : removeAccount s disk email =
        (.ok [s!"Removed refresh token for {a.text}"], (s'.save disk .none).2) := by
      simp only [removeAccount]
      rw [hrevoke]
    exact .inl ⟨⟨_, by rw [hremove]⟩, hname.of_contains hholds, s', hnormal, htokens,
      by rw [hremove]⟩
  · have hrevoke : s.revoke disk a .none = ⟨.ok false, s, disk, []⟩ := if_neg hholds
    have hremove : removeAccount s disk email = (.error (.notHeld a), disk) := by
      simp only [removeAccount]
      rw [hrevoke]
    exact .inr ⟨⟨_, by rw [hremove]⟩, by rw [hremove]⟩

end

/-- What a command may do to the file: it loads it, and saves it with one account changed if it is
carried out. -/
def CommandEffect (disk : Disk) (now : Int64) (c : AccountCommand) : Prop :=
  let loaded := Store.empty.load disk .none
  let after := (runAccountCommand disk now c).2
  (∃ a v, Edits disk now c a v ∧ SavedWith loaded.store loaded.disk a v after)
    ∨ ((∀ a v, ¬ Edits disk now c a v) ∧ after = loaded.disk)

section

variable {disk : Disk} {now : Int64} {c : AccountCommand} {a : AccountId} {v : Option String}

theorem CommandEffect.of_result (hedit : c.edit? = some (a, v))
    {r : Except AccountError (List String) × Disk} (hrun : runAccountCommand disk now c = r)
    (h : ((∃ lines, r.1 = .ok lines) ∧
        SavedWith (Store.empty.load disk .none).store (Store.empty.load disk .none).disk a v r.2)
      ∨ ((∃ e, r.1 = .error e) ∧ r.2 = (Store.empty.load disk .none).disk)) :
    CommandEffect disk now c := by
  subst hrun
  rcases h with ⟨hok, hsaved⟩ | ⟨⟨e, he⟩, hkeep⟩
  · exact .inl ⟨a, v, ⟨hedit, hok⟩, hsaved⟩
  · refine .inr ⟨fun b u hb => ?_, hkeep⟩
    obtain ⟨lines, hlines⟩ := hb.2
    rw [he] at hlines
    cases hlines

theorem command_effect (h : Usable disk) (now : Int64) (c : AccountCommand) :
    CommandEffect disk now c := by
  obtain ⟨book, hbook, -, hresult, hstore, husable⟩ := Store.empty.load_usable h
  have hnormal : (Store.empty.load disk .none).store.Normal := by
    rw [hstore]
    exact ⟨normal_catalogOf hbook, hbook.pending⟩
  have hname : Catalog.AllAccounts (fun a => a.isEmpty = false)
      (Store.empty.load disk .none).store.held := by
    rw [hstore]
    exact isEmpty_catalogOf book
  cases c with
  | list =>
    refine .inr ⟨fun a v hedit => ?_, ?_⟩
    · obtain ⟨hnone, -⟩ := hedit
      cases hnone
    · simp only [runAccountCommand, hresult]
  | add email refreshToken =>
    refine .of_result rfl ?_ (addAccount_cases hnormal husable now email refreshToken)
    simp only [runAccountCommand, hresult]
  | remove email =>
    refine .of_result rfl ?_ (removeAccount_cases hnormal husable hname email)
    simp only [runAccountCommand, hresult]

theorem edits_unique {b : AccountId} {u : Option String} (h : Edits disk now c a v)
    (k : Edits disk now c b u) : b = a ∧ u = v := by
  have heq := h.1.symm.trans k.1
  injection heq with heq
  injection heq with ha hv
  exact ⟨ha.symm, hv.symm⟩

/-! ## Files that can be read -/

/-- A directory whose account file can be read and replaced. -/
def Readable (disk : Disk) : Prop :=
  Usable disk ∧ ∃ book, readBook disk = .ok book

theorem load_readable (h : Readable disk) :
    (Store.empty.load disk .none).disk = disk
      ∧ ∀ b, (Store.empty.load disk .none).store.tokenOf b = tokenOnFile disk b := by
  obtain ⟨husable, book, hbook⟩ := h
  obtain ⟨book', -, hread, -, hstore, -⟩ := Store.empty.load_usable husable
  rcases hread with ⟨hbook', hdisk⟩ | ⟨hbad, -, -⟩
  · rw [hbook] at hbook'
    cases hbook'
    refine ⟨hdisk, fun b => ?_⟩
    rw [hstore, tokenOnFile, hbook]
    rfl
  · rw [hbook] at hbad
    cases hbad

theorem SavedWith.readable {s : Store} {after : Disk} (h : Usable disk)
    (hsaved : SavedWith s disk a v after) : Readable after := by
  obtain ⟨-, s', hs', -, rfl⟩ := hsaved
  obtain ⟨-, husable, hread⟩ := s'.save_usable h hs'
  exact ⟨husable, _, hread⟩

theorem SavedWith.tokenOnFile {s : Store} {after : Disk} (h : Usable disk)
    (hsaved : SavedWith s disk a v after) {b : AccountId} (hb : b.isEmpty = false) :
    tokenOnFile after b = if b = a then v else s.tokenOf b := by
  obtain ⟨-, s', hs', htokens, rfl⟩ := hsaved
  rw [tokenOnFile_save h hs' hb, htokens]

/-- A command that changes an account leaves a file that can be read and has that change. -/
theorem tokenOnFile_edit (h : Usable disk) (hedit : Edits disk now c a v) :
    a.isEmpty = false ∧ Readable (runAccountCommand disk now c).2
      ∧ tokenOnFile (runAccountCommand disk now c).2 a = v := by
  obtain ⟨-, -, -, -, -, husable⟩ := Store.empty.load_usable h
  rcases command_effect h now c with ⟨b, u, hb, hsaved⟩ | ⟨hnone, -⟩
  · obtain ⟨rfl, rfl⟩ := edits_unique hedit hb
    refine ⟨hsaved.1, hsaved.readable husable, ?_⟩
    rw [hsaved.tokenOnFile husable hsaved.1, if_pos rfl]
  · exact absurd hedit (hnone a v)

/-- A command leaves the refresh tokens on file of the accounts that it does not change. -/
theorem tokenOnFile_of_not_edits (h : Readable disk) (ha : a.isEmpty = false)
    (hedit : ∀ v, ¬ Edits disk now c a v) :
    Readable (runAccountCommand disk now c).2
      ∧ tokenOnFile (runAccountCommand disk now c).2 a = tokenOnFile disk a := by
  obtain ⟨hdisk, htokens⟩ := load_readable h
  rcases command_effect h.1 now c with ⟨b, u, hb, hsaved⟩ | ⟨-, hkeep⟩
  · rw [hdisk] at hsaved
    have hne : a ≠ b := fun hab => hedit u (hab ▸ hb)
    refine ⟨hsaved.readable h.1, ?_⟩
    rw [hsaved.tokenOnFile h.1 ha, if_neg hne, htokens]
  · rw [hkeep, hdisk]
    exact ⟨h, rfl⟩

end

end SessionSync
