import SessionSync.Proofs.Store.CanonicalForm
import SessionSync.Proofs.Store.Commands

/-!
# The account commands as a map

Every command opens a store of its own, reads the whole file and writes it again, but taken together
the commands behave like a map from accounts to refresh tokens that is changed one account at a
time.

* `MapStep` — what a command says and does, in terms of such a map.
* `Keeps` — what a command leaves alone in the account file.
* `Stored.command` — one command, on a file that a store has written.
* `commands_are_map` — any number of commands.
-/

namespace SessionSync

open Store
open CommandLine (AccountCommand AccountError runAccountCommand addAccount removeAccount)

/-! ## The map -/

/-- The refresh tokens of accounts. -/
abbrev TokenMap := AccountId → Option String

/-- The map with one account changed. -/
def TokenMap.set (m : TokenMap) (a : AccountId) (v : Option String) : TokenMap :=
  fun b => if b = a then v else m b

/-- A refresh token without white space at its ends. -/
def trimmed (refreshToken : String) : String :=
  String.ofList (Text.trim refreshToken.toList)

/-- What a command says and does when refresh tokens are kept in a map. -/
inductive MapStep (m : TokenMap) :
    AccountCommand → Except AccountError (List String) → TokenMap → Prop
  | nameless {email refreshToken : String} (name : AccountId.normalize email = "") :
    MapStep m (.add email refreshToken) (.error .noAccount) m
  | blank {email refreshToken : String} (name : AccountId.normalize email ≠ "")
    (token : trimmed refreshToken = "") :
    MapStep m (.add email refreshToken) (.error .noToken) m
  | bound {email refreshToken : String} (name : AccountId.normalize email ≠ "")
    (token : trimmed refreshToken ≠ "") :
    MapStep m (.add email refreshToken)
      (.ok [s!"Stored refresh token for {AccountId.normalize email}"])
      (m.set (.ofString email) (some (trimmed refreshToken)))
  | notHeld {email : String} (unbound : m (.ofString email) = none) :
    MapStep m (.remove email) (.error (.notHeld (.ofString email))) m
  | unbound {email : String} (bound : m (.ofString email) ≠ none) :
    MapStep m (.remove email) (.ok [s!"Removed refresh token for {AccountId.normalize email}"])
      (m.set (.ofString email) none)
  | listed {ids : List AccountId} (all : ∀ a, a ∈ ids ↔ m a ≠ none)
    (inOrder : ids.Pairwise fun a b =>
      Text.Utf8.encode a.text.toList < Text.Utf8.encode b.text.toList) :
    MapStep m .list (.ok (ids.map (·.text))) m

/-- What commands say and do one after the other. -/
inductive MapRun : TokenMap → List AccountCommand → List (Except AccountError (List String)) →
    TokenMap → Prop
  | nil (m : TokenMap) : MapRun m [] [] m
  | cons {m m' m'' : TokenMap} {c : AccountCommand} {result : Except AccountError (List String)}
    {commands : List AccountCommand} {results : List (Except AccountError (List String))}
    (step : MapStep m c result m') (rest : MapRun m' commands results m'') :
    MapRun m (c :: commands) (result :: results) m''

/-! ## What a command leaves alone -/

/-- Whether a command is about an account. -/
def CommandLine.AccountCommand.concerns (a : AccountId) : AccountCommand → Bool
  | .add email _ => a = .ofString email
  | .remove email => a = .ofString email
  | .list => false

/-- A command leaves all entries as they are that are not about its account. -/
structure Keeps (c : AccountCommand) (before after : AccountBook) : Prop where
  accounts : after.accounts.filter (fun e => !c.concerns e.1) =
    before.accounts.filter fun e => !c.concerns e.1
  pending : after.pending.filter (fun p => !c.concerns p.account) =
    before.pending.filter fun p => !c.concerns p.account

theorem Keeps.refl (c : AccountCommand) (book : AccountBook) : Keeps c book book :=
  ⟨rfl, rfl⟩

namespace Catalog

/-- Changing an account leaves the other entries as they are. -/
theorem filter_toList_of_erase {c d : Catalog α} {a : AccountId} (h : c.erase a = d.erase a) :
    c.toList.filter (fun e => !decide (e.1 = a)) = d.toList.filter fun e => !decide (e.1 = a) := by
  have htoList := congrArg Catalog.toList h
  simpa [erase] using htoList

end Catalog

/-! ## A file that a store has written -/

/-- What a directory holds is what a store with these credentials and adoptions has written. -/
structure Stored (s : Store) (disk : Disk) : Prop where
  normal : s.Normal
  named : Catalog.AllAccounts (fun a => a.isEmpty = false) s.held
  usable : Usable disk
  onFile : readBook disk = .ok s.book

namespace Stored

variable {s : Store} {disk : Disk}

/-- A store that loads the file holds what the other has written. -/
theorem load (h : Stored s disk) :
    Store.empty.load disk .none = ⟨.ok s.held.size, s, disk, [.loaded]⟩ := by
  rw [Store.empty.load_of_readBook h.onFile, catalogOf_book h.named]
  rfl

theorem tokenOnFile_eq (h : Stored s disk) : tokenOnFile disk = s.tokenOf := by
  funext a
  rw [tokenOnFile, h.onFile]
  dsimp only
  rw [catalogOf_book h.named, tokenOf]

/-- A save leaves such a file. -/
theorem save {s' : Store} (h : Stored s disk) (normal : s'.Normal)
    (named : Catalog.AllAccounts (fun a => a.isEmpty = false) s'.held) :
    (s'.save disk .none).1 = .ok () ∧ Stored s' (s'.save disk .none).2 := by
  obtain ⟨hok, husable, hread⟩ := s'.save_usable h.usable normal
  exact ⟨hok, normal, named, husable, hread⟩

end Stored

/-! ## One command -/

/-- What a command comes to on a file that a store has written: it is a step of the map, it leaves
the other accounts alone, and it leaves everything alone if it fails. -/
structure Carried (s : Store) (disk : Disk) (c : AccountCommand)
    (r : Except AccountError (List String) × Disk) (s' : Store) : Prop where
  stored : Stored s' r.2
  step : MapStep s.tokenOf c r.1 s'.tokenOf
  keeps : Keeps c s.book s'.book
  failed : ∀ e, r.1 = .error e → r.2 = disk
  added : ∀ email refreshToken lines, c = .add email refreshToken → r.1 = .ok lines →
    ∀ p ∈ s'.pending, p.account ≠ .ofString email

namespace Stored

variable {s : Store} {disk : Disk}

/-- A store that has set a refresh token, and has saved itself with it. -/
theorem upsert (h : Stored s disk) (now : Int64) {a : AccountId} (normal : a.Normal)
    (name : a.isEmpty = false) (refreshToken : String) :
    ∃ s' : Store, s'.held = s.held.insert a (renewed (s.held.get? a) refreshToken now)
      ∧ s'.pending = s.pending.filter (·.account ≠ a)
      ∧ Stored s' (s'.save disk .none).2
      ∧ s.upsert disk now a refreshToken .none =
        ⟨.ok (), s', (s'.save disk .none).2, [.available a]⟩ := by
  let s' : Store := ⟨s.held.insert a (renewed (s.held.get? a) refreshToken now),
    s.pending.filter (·.account ≠ a)⟩
  have hheld : Catalog.AllAccounts AccountId.Normal s.held := h.normal.accounts
  have hnormal : s'.Normal :=
    ⟨hheld.insert normal _, fun p hp => h.normal.pending p (List.mem_filter.1 hp).1⟩
  obtain ⟨hok, hstored⟩ := h.save hnormal (h.named.insert name _)
  exact ⟨s', rfl, rfl, hstored, upsert_of_saved rfl hok⟩

/-- A store that has dropped the credentials of an account, and has saved itself without them. -/
theorem revoke (h : Stored s disk) {a : AccountId} (holds : s.holds a = true) :
    ∃ s' : Store, s'.held = s.held.erase a ∧ s'.pending = s.pending
      ∧ Stored s' (s'.save disk .none).2
      ∧ s.revoke disk a .none = ⟨.ok true, s', (s'.save disk .none).2, [.revoked a]⟩ := by
  let s' : Store := ⟨s.held.erase a, s.pending⟩
  have hheld : Catalog.AllAccounts AccountId.Normal s.held := h.normal.accounts
  have hnormal : s'.Normal := ⟨hheld.erase a, h.normal.pending⟩
  obtain ⟨hok, hstored⟩ := h.save hnormal (h.named.erase a)
  exact ⟨s', rfl, rfl, hstored, revoke_of_saved holds rfl hok⟩

/-- A command that fails. -/
theorem refused (h : Stored s disk) {c : AccountCommand} {e : AccountError}
    (step : MapStep s.tokenOf c (.error e) s.tokenOf) : Carried s disk c (.error e, disk) s where
  stored := h
  step := step
  keeps := .refl c s.book
  failed _ _ := rfl
  added _ _ _ _ hok := by cases hok

theorem add (h : Stored s disk) (now : Int64) (email refreshToken : String) :
    ∃ s', Carried s disk (.add email refreshToken) (addAccount s disk now email refreshToken)
      s' := by
  unfold addAccount
  dsimp only
  rw [← trimmed]
  by_cases hname : AccountId.normalize email = ""
  · have hempty : (AccountId.ofString email).isEmpty = true := decide_eq_true hname
    rw [if_pos hempty]
    exact ⟨s, h.refused (.nameless hname)⟩
  have hempty : (AccountId.ofString email).isEmpty = false := decide_eq_false hname
  rw [if_neg (Bool.eq_false_iff.1 hempty)]
  by_cases htoken : trimmed refreshToken = ""
  · rw [if_pos htoken]
    exact ⟨s, h.refused (.blank hname htoken)⟩
  rw [if_neg htoken]
  obtain ⟨s', hheld, hpending, hstored, hupsert⟩ :=
    h.upsert now (AccountId.normal_ofString email) hempty (trimmed refreshToken)
  have htokens : s'.tokenOf =
      TokenMap.set s.tokenOf (.ofString email) (some (trimmed refreshToken)) := by
    funext b
    rw [tokenOf, hheld, Catalog.get?_insert, TokenMap.set]
    split
    · rw [Option.map_some, refreshToken_renewed]
    · rfl
  rw [hupsert]
  refine ⟨s', hstored, htokens ▸ .bound hname htoken, ⟨?_, ?_⟩, by rintro _ ⟨⟩, ?_⟩
  · refine Catalog.filter_toList_of_erase ?_
    rw [hheld, Catalog.erase_insert]
  · show s'.pending.filter (fun p => !decide (p.account = .ofString email)) =
      s.pending.filter fun p => !decide (p.account = .ofString email)
    rw [hpending]
    simp [List.filter_filter]
  · rintro _ _ lines ⟨⟩ - p hp
    rw [hpending] at hp
    simpa using (List.mem_filter.1 hp).2

theorem remove (h : Stored s disk) (email : String) :
    ∃ s', Carried s disk (.remove email) (removeAccount s disk email) s' := by
  unfold removeAccount
  dsimp only
  by_cases hholds : s.holds (.ofString email) = true
  · obtain ⟨s', hheld, hpending, hstored, hrevoke⟩ := h.revoke hholds
    have htokens : s'.tokenOf = TokenMap.set s.tokenOf (.ofString email) none := by
      funext b
      rw [tokenOf, hheld, Catalog.get?_erase, TokenMap.set]
      split <;> rfl
    have hbound : s.tokenOf (.ofString email) ≠ none := by
      rw [tokenOf, ne_eq, Option.map_eq_none_iff]
      exact Option.isSome_iff_ne_none.1 hholds
    rw [hrevoke]
    refine ⟨s', hstored, htokens ▸ .unbound hbound, ⟨?_, ?_⟩, by rintro _ ⟨⟩, by rintro _ _ _ ⟨⟩⟩
    · refine Catalog.filter_toList_of_erase ?_
      rw [hheld, Catalog.erase_erase]
    · exact congrArg (List.filter _) hpending
  · have hrevoke : s.revoke disk (.ofString email) .none = ⟨.ok false, s, disk, []⟩ :=
      if_neg hholds
    have hunbound : s.tokenOf (.ofString email) = none := by
      rw [tokenOf, Option.map_eq_none_iff]
      exact Option.not_isSome_iff_eq_none.1 hholds
    rw [hrevoke]
    exact ⟨s, h.refused (.notHeld hunbound)⟩

/-- The list of accounts is in the order of their bytes. -/
theorem list (h : Stored s disk) :
    Carried s disk .list (.ok (s.accounts.map (·.text)), disk) s where
  stored := h
  step := by
    refine .listed (fun a => ?_) ?_
    · rw [accounts, Catalog.mem_accounts, tokenOf, ne_eq, Option.map_eq_none_iff]
      exact Option.isSome_iff_ne_none
    · refine List.Pairwise.map _ (fun x y hxy => ?_) s.held.sorted
      exact Text.Utf8.encode_lt hxy
  keeps := .refl _ _
  failed _ herror := by cases herror
  added _ _ _ hc := by cases hc

/-- A command on a file that a store has written leaves such a file again. -/
theorem command (h : Stored s disk) (now : Int64) (c : AccountCommand) :
    ∃ s', Carried s disk c (runAccountCommand disk now c) s' := by
  unfold runAccountCommand
  rw [h.load]
  cases c with
  | add email refreshToken => exact h.add now email refreshToken
  | remove email => exact h.remove email
  | list => exact ⟨s, h.list⟩

end Stored

/-! ## Any number of commands -/

/-- Carries out commands one after the other, each at its time, and gives what they say. -/
def runAccountCommands (disk : Disk) :
    List (Int64 × AccountCommand) → List (Except AccountError (List String)) × Disk
  | [] => ([], disk)
  | (now, c) :: rest =>
    let r := runAccountCommand disk now c
    let more := runAccountCommands r.2 rest
    (r.1 :: more.1, more.2)

theorem Stored.run {s : Store} {disk : Disk} (h : Stored s disk)
    (steps : List (Int64 × AccountCommand)) :
    ∃ s', Stored s' (runAccountCommands disk steps).2
      ∧ MapRun s.tokenOf (steps.map (·.2)) (runAccountCommands disk steps).1 s'.tokenOf := by
  induction steps generalizing s disk with
  | nil => exact ⟨s, h, .nil _⟩
  | cons step steps ih =>
    obtain ⟨s', hcarried⟩ := h.command step.1 step.2
    obtain ⟨s'', hstored, hrun⟩ := ih hcarried.stored
    exact ⟨s'', hstored, .cons hcarried.step hrun⟩

/-- A directory that can be used and has no account file. -/
def NoAccountFile (disk : Disk) : Prop :=
  ∃ folder, disk = some folder ∧ folder.get? accountFile = none

theorem NoAccountFile.stored {disk : Disk} (h : NoAccountFile disk) : Stored .empty disk := by
  obtain ⟨folder, rfl, hnone⟩ := h
  refine ⟨AccountBook.normal_empty, Catalog.allAccounts_empty, ⟨folder, rfl, ?_⟩, ?_⟩
  · rw [Folder.isFolder, hnone]
  · simp only [readBook, Option.bind_some, hnone]
    rfl

theorem Store.SavedIn.stored {s : Store} {disk : Disk} (h : s.SavedIn disk) (normal : s.Normal)
    (named : Catalog.AllAccounts (fun a => a.isEmpty = false) s.held) : Stored s disk := by
  obtain ⟨before, fault, hsaved⟩ := h
  obtain ⟨folder, rfl, hfile⟩ := get?_of_saveBook hsaved
  exact ⟨normal, named, ⟨folder, rfl, Folder.isFolder_of_file hfile⟩,
    readBook_of_file normal hfile⟩

/-! ## Main result -/

/-- **The account commands are a map that is kept on file.** Starting without an account file, or
from one that a store has written, any commands at any times say what the commands of a map say. At
each of them, one that fails leaves the directory as it was; and whatever it says, the file holds a
book afterwards in which every other account has its credential and its adoptions as before, and in
which an account that was added has no adoptions. -/
theorem commands_are_map {disk : Disk}
    (start : NoAccountFile disk ∨ ∃ s : Store, s.SavedIn disk ∧ s.Normal
      ∧ Catalog.AllAccounts (fun a => a.isEmpty = false) s.held)
    (steps : List (Int64 × AccountCommand)) :
    MapRun (tokenOnFile disk) (steps.map (·.2)) (runAccountCommands disk steps).1
        (tokenOnFile (runAccountCommands disk steps).2)
      ∧ (NoAccountFile disk → ∀ a, tokenOnFile disk a = none)
      ∧ ∀ (now : Int64) (c : AccountCommand),
        let before := (runAccountCommands disk steps).2
        let r := runAccountCommand before now c
        (∀ e, r.1 = .error e → r.2 = before)
          ∧ ∃ old new, readBook before = .ok old ∧ readBook r.2 = .ok new ∧ Keeps c old new
            ∧ ∀ email refreshToken lines, c = .add email refreshToken → r.1 = .ok lines →
              ∀ p ∈ new.pending, p.account ≠ .ofString email := by
  have hstart : ∃ s, Stored s disk := by
    rcases start with hnone | ⟨s, hsaved, hnormal, hnamed⟩
    · exact ⟨.empty, hnone.stored⟩
    · exact ⟨s, hsaved.stored hnormal hnamed⟩
  obtain ⟨s, hstored⟩ := hstart
  obtain ⟨s', hstored', hrun⟩ := hstored.run steps
  refine ⟨?_, fun hnone a => ?_, fun now c => ?_⟩
  · rw [hstored.tokenOnFile_eq, hstored'.tokenOnFile_eq]
    exact hrun
  · rw [hnone.stored.tokenOnFile_eq]
    rfl
  · obtain ⟨s'', hcarried⟩ := hstored'.command now c
    exact ⟨hcarried.failed, s'.book, s''.book, hstored'.onFile, hcarried.stored.onFile,
      hcarried.keeps, hcarried.added⟩

/-- A store with one account, for which an adoption waits as well, and one more adoption. -/
def keptStore : Store where
  held := Catalog.empty.insert (.ofString "b@x")
    ⟨"1//b", some ⟨"ya29", 3600, 5000, "Bearer"⟩, -3, 12⟩
  pending := [⟨.ofString "b@x", 0, 4⟩, ⟨.ofString "C@x", 18446744073709551615, 5⟩]

/-- Commands on the file of that store. -/
theorem commands_are_map_kept :
    ∃ (disk : Disk) (steps : List (Int64 × AccountCommand)), keptStore.SavedIn disk
      ∧ MapRun (tokenOnFile disk) (steps.map (·.2)) (runAccountCommands disk steps).1
        (tokenOnFile (runAccountCommands disk steps).2)
      ∧ (runAccountCommands disk steps).1.map (·.toOption) =
        [some ["Stored refresh token for a@x"], some ["a@x", "b@x"], none] := by
  have husable : Usable (some []) := ⟨[], rfl, rfl⟩
  have hnormal : keptStore.Normal := by
    refine ⟨Catalog.allAccounts_empty.insert (AccountId.normal_ofString _) _, fun p hp => ?_⟩
    rcases List.mem_cons.1 hp with rfl | hp
    · exact AccountId.normal_ofString _
    · rw [List.mem_singleton.1 hp]
      exact AccountId.normal_ofString _
  have hnamed : Catalog.AllAccounts (fun a => a.isEmpty = false) keptStore.held :=
    Catalog.allAccounts_empty.insert (by decide +kernel) _
  have hsaved : keptStore.SavedIn (keptStore.save (some []) .none).2 :=
    ⟨some [], .none, Prod.ext (keptStore.save_usable husable hnormal).1 rfl⟩
  let steps : List (Int64 × AccountCommand) :=
    [(5, .add " A@X " "\t1//a "), (7, .list), (6, .remove "c@x")]
  exact ⟨_, steps, hsaved, (commands_are_map (.inr ⟨_, hsaved, hnormal, hnamed⟩) steps).1,
    by decide +kernel⟩

end SessionSync
