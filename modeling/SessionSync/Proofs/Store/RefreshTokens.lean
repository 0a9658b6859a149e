import SessionSync.Proofs.Account.AccountSet
import SessionSync.Proofs.Store.Operations

/-!
# What leaves the refresh tokens alone

Giving an access token and noting an adoption change a store, but neither an account nor its refresh
token.

* `Alike` — two stores with the same refresh tokens and the same accounts waiting; `alike_settle`
  says that an access token leads from one to the other unless the refresh token is replaced.
* `Noted` — an account holds credentials or waits for some; then `adopt` has nothing to do
  (`adopt_of_noted`).
-/

namespace SessionSync.Store

/-! ## Accounts -/

theorem holds_eq (s : Store) (a : AccountId) : s.holds a = (s.tokenOf a).isSome := by
  rw [tokenOf, Option.isSome_map]
  rfl

theorem mem_accounts {s : Store} {a : AccountId} : a ∈ s.accounts ↔ s.holds a = true :=
  Catalog.mem_accounts

/-- Stores that hold credentials of the same accounts list them alike. -/
theorem accounts_congr {s t : Store} (h : ∀ a, s.holds a = t.holds a) :
    s.accounts = t.accounts := by
  have hsame : s.held.mapValues (fun _ _ => ()) = t.held.mapValues (fun _ _ => ()) := by
    apply AccountSet.ext
    intro a
    unfold Catalog.contains
    rw [Catalog.get?_mapValues, Catalog.get?_mapValues, Option.isSome_map, Option.isSome_map]
    show s.holds a = true ↔ t.holds a = true
    rw [h]
  have hkeys : ∀ c : Catalog Credential, (c.mapValues fun _ _ => ()).accounts = c.accounts := by
    intro c
    unfold Catalog.accounts Catalog.mapValues
    rw [List.map_map]
    rfl
  unfold accounts
  rw [← hkeys s.held, ← hkeys t.held, hsame]

/-! ## Access tokens -/

/-- The other store holds the same refresh tokens, and the same accounts wait in it. -/
structure Alike (s t : Store) : Prop where
  tokens : ∀ a, t.tokenOf a = s.tokenOf a
  pending : t.pending = s.pending

section

variable {s t u : Store}

theorem Alike.refl (s : Store) : s.Alike s :=
  ⟨fun _ => rfl, rfl⟩

theorem Alike.trans (h : s.Alike t) (h' : t.Alike u) : s.Alike u :=
  ⟨fun a => (h'.tokens a).trans (h.tokens a), h'.pending.trans h.pending⟩

theorem Alike.holds (h : s.Alike t) (a : AccountId) : t.holds a = s.holds a := by
  rw [holds_eq, holds_eq, h.tokens]

theorem Alike.accounts (h : s.Alike t) : t.accounts = s.accounts :=
  accounts_congr h.holds

/-- A new access token leaves the refresh token alone that it was asked for with. -/
theorem alike_settle {a : AccountId} {g : Grant} {refreshToken : String}
    (known : s.tokenOf a = some refreshToken) (keeps : ∀ r ∈ g.refreshToken, r = refreshToken)
    (disk : Disk) (now : Int64) (fault : WriteFault) :
    s.Alike (s.settle disk now a g fault).1 := by
  unfold tokenOf at known
  cases hheld : s.held.get? a with
  | none =>
    rw [hheld] at known
    cases known
  | some c =>
    rw [hheld] at known
    have htoken : c.refreshToken = refreshToken := Option.some.inj known
    have hgranted : (granted c g now).refreshToken = c.refreshToken := by
      unfold granted
      cases hr : g.refreshToken with
      | none => rfl
      | some r => exact (keeps r hr).trans htoken.symm
    have hstore : (s.settle disk now a g fault).1 =
        ⟨s.held.insert a (granted c g now), s.pending⟩ := by
      rw [settle, hheld]
    rw [hstore]
    refine ⟨fun b => ?_, rfl⟩
    unfold tokenOf
    rw [Catalog.get?_insert]
    by_cases hb : b = a
    · subst hb
      rw [if_pos rfl, hheld, Option.map_some, hgranted]
      rfl
    · rw [if_neg hb]

theorem begin_ne_unknown {a : AccountId} (h : s.holds a = true) (now : Int64) :
    s.begin now a ≠ .unknown := by
  obtain ⟨c, hc⟩ := Option.isSome_iff_exists.1 h
  unfold begin
  rw [hc]
  dsimp only
  split
  · split <;> exact TokenNeed.noConfusion
  · exact TokenNeed.noConfusion

/-- The refresh token that is sent is the one that the store holds. -/
theorem tokenOf_of_begin {a : AccountId} {now : Int64} {refreshToken : String}
    (h : s.begin now a = .refresh refreshToken) : s.tokenOf a = some refreshToken := by
  unfold begin at h
  unfold tokenOf
  cases hheld : s.held.get? a with
  | none =>
    rw [hheld] at h
    cases h
  | some c =>
    rw [hheld] at h
    dsimp only at h
    split at h
    · split at h
      · injection h with h
        exact congrArg some h
      · cases h
    · injection h with h
      exact congrArg some h

/-- There is a time at which no access token of an account lasts: that at which it expires. -/
theorem exists_begin_refresh (s : Store) (a : AccountId) :
    ∃ now, s.begin now a = .unknown ∨ ∃ refreshToken, s.begin now a = .refresh refreshToken := by
  unfold begin
  cases s.held.get? a with
  | none => exact ⟨0, .inl rfl⟩
  | some c =>
    dsimp only
    cases c.token with
    | none => exact ⟨0, .inr ⟨c.refreshToken, rfl⟩⟩
    | some token =>
      have hstale : token.isStale token.expiry = true := by
        rw [AccessToken.isStale, Int64.sub_self]
        decide
      exact ⟨token.expiry, .inr ⟨c.refreshToken, if_pos hstale⟩⟩

end

/-! ## Adoptions -/

/-- An account holds credentials or waits for some. -/
def Noted (s : Store) (a : AccountId) : Prop :=
  s.holds a = true ∨ ∃ p ∈ s.pending, p.account = a

section

variable {s t : Store} {a b : AccountId}

theorem noted_iff : s.Noted a ↔ (s.holds a || s.pending.any (·.account = a)) = true := by
  simp [Noted]

theorem Alike.noted (h : s.Alike t) (hnoted : s.Noted a) : t.Noted a := by
  unfold Noted at hnoted ⊢
  rw [h.holds, h.pending]
  exact hnoted

theorem adopt_of_noted (h : s.Noted a) (disk : Disk) (now : Int64) (place : UInt64)
    (fault : WriteFault) : s.adopt disk now a place fault = ⟨.ok (), s, disk, []⟩ := by
  unfold adopt
  rw [if_pos (noted_iff.1 h)]

/-- An account that is noted waits behind those that do already. -/
theorem adopt_of_not_noted (h : ¬ s.Noted a) (disk : Disk) (now : Int64) (place : UInt64)
    (fault : WriteFault) :
    (s.adopt disk now a place fault).store = ⟨s.held, s.pending ++ [⟨a, place, now⟩]⟩ := by
  unfold adopt
  rw [if_neg (mt noted_iff.2 h)]

theorem held_adopt (s : Store) (disk : Disk) (now : Int64) (a : AccountId) (place : UInt64)
    (fault : WriteFault) : (s.adopt disk now a place fault).store.held = s.held := by
  by_cases h : s.Noted a
  · rw [adopt_of_noted h]
  · rw [adopt_of_not_noted h]

/-- After an adoption the account is noted, and every account that was noted still is. -/
theorem noted_adopt (disk : Disk) (now : Int64) (place : UInt64) (fault : WriteFault)
    (h : b = a ∨ s.Noted b) : (s.adopt disk now a place fault).store.Noted b := by
  by_cases hnoted : s.Noted a
  · rw [adopt_of_noted hnoted]
    rcases h with rfl | h
    · exact hnoted
    · exact h
  · rw [adopt_of_not_noted hnoted]
    rcases h with rfl | hholds | ⟨p, hp, rfl⟩
    · exact .inr ⟨_, List.mem_append_right _ List.mem_cons_self, rfl⟩
    · exact .inl hholds
    · exact .inr ⟨p, List.mem_append_left _ hp, rfl⟩

end

end SessionSync.Store
