import Mathlib.Data.List.Nodup
import SessionSync.Proofs.Pass.Planning

/-!
# Which actions a plan has, and in which order

A plan is said twice: by `plan`, which makes the list, and by what has to be in it (`Needed`) and in
which order (`Action.Precedes`). The two leave no choice, so they say the same.

* `plan_eq_error_iff` — when there is no plan.
* `mem_plan_iff`, `ordered_plan` — the actions of a plan and their order.
* `Action.eq_of_ordered` — the order leaves one list of the same actions.
* `plan_exact` — the main result.
-/

namespace SessionSync

/-! ## What a plan is to be -/

/-- A session that an account other than the primary leads. -/
def LedByStranger (primary : AccountId) (session : List AccountId) : Prop :=
  ∃ first rest, session = first :: rest ∧ first ≠ primary

/-- The actions that a plan has to have. -/
inductive Needed (primary : AccountId) (session : List AccountId) (valid invalid : AccountSet) :
    Action → Prop
  /-- A session that a stranger leads is left. -/
  | leave (led : LedByStranger primary session) : Needed primary session valid invalid .logoutAll
  /-- Every valid account joins it again. -/
  | rejoin {a : AccountId} (led : LedByStranger primary session) (works : valid.contains a = true) :
    Needed primary session valid invalid (.merge a)
  /-- A valid account that is missing joins any other session. -/
  | join {a : AccountId} (led : ¬ LedByStranger primary session) (works : valid.contains a = true)
      (missing : a ∉ session) : Needed primary session valid invalid (.merge a)
  /-- An account there of whose credentials nothing is known is adopted at each of its places. -/
  | adopt {a : AccountId} {place : Nat} (led : ¬ LedByStranger primary session)
      (there : session[place]? = some a) (unknown : ¬ Known valid invalid a) :
    Needed primary session valid invalid (.adopt a place)

/-- The order of the actions of a plan: leaving the session, then merges, the primary's first and
the others in ascending order, and then adoptions by place. -/
inductive Action.Precedes (primary : AccountId) : Action → Action → Prop
  | leave_merge {a : AccountId} : Precedes primary .logoutAll (.merge a)
  | leave_adopt {a : AccountId} {place : Nat} : Precedes primary .logoutAll (.adopt a place)
  | merge_merge {a b : AccountId} (other : b ≠ primary) (order : a = primary ∨ a < b) :
    Precedes primary (.merge a) (.merge b)
  | merge_adopt {a b : AccountId} {place : Nat} : Precedes primary (.merge a) (.adopt b place)
  | adopt_adopt {a b : AccountId} {place later : Nat} (order : place < later) :
    Precedes primary (.adopt a place) (.adopt b later)

/-! ## The order leaves no choice -/

namespace Action

variable {primary : AccountId} {x y : Action}

theorem Precedes.asymm (h : Precedes primary x y) : ¬ Precedes primary y x := by
  intro h'
  cases h with
  | leave_merge | leave_adopt | merge_adopt => cases h'
  | merge_merge other order =>
    cases h' with
    | merge_merge other' order' =>
      exact AccountId.lt_asymm (order.resolve_left other') (order'.resolve_left other)
  | adopt_adopt order =>
    cases h' with
    | adopt_adopt order' => exact Nat.lt_asymm order order'

theorem nodup_of_ordered {l : List Action} (h : l.Pairwise (Precedes primary)) : l.Nodup := by
  refine h.imp ?_
  rintro x y hxy rfl
  exact hxy.asymm hxy

/-- Lists of the same actions in order are the same. -/
theorem eq_of_ordered {l m : List Action} (hl : l.Pairwise (Precedes primary))
    (hm : m.Pairwise (Precedes primary)) (h : ∀ x, x ∈ l ↔ x ∈ m) : l = m := by
  have hperm : l.Perm m :=
    (List.perm_ext_iff_of_nodup (nodup_of_ordered hl) (nodup_of_ordered hm)).2 h
  exact hperm.eq_of_pairwise (fun x y _ _ hxy hyx => absurd hyx hxy.asymm) hl hm

end Action

/-! ## The order of a plan -/

section

variable {primary : AccountId} {session : List AccountId} {valid invalid : AccountSet}
  {actions : List Action}

theorem ledByOther_iff : ledByOther primary session = true ↔ LedByStranger primary session := by
  unfold ledByOther LedByStranger
  cases session with
  | nil => simp
  | cons first rest => simp

theorem ledByOther_eq_false_iff_not :
    ledByOther primary session = false ↔ ¬ LedByStranger primary session := by
  rw [← ledByOther_iff, Bool.not_eq_true]

/-- The primary is merged first and the others in ascending order. -/
theorem pairwise_mergeOrder (valid : AccountSet) (primary : AccountId) :
    (valid.mergeOrder primary).Pairwise fun a b => b ≠ primary ∧ (a = primary ∨ a < b) := by
  have hothers : (valid.accounts.filter (· ≠ primary)).Pairwise
      fun a b => b ≠ primary ∧ (a = primary ∨ a < b) := by
    refine (valid.pairwise_accounts.filter _).imp_of_mem fun _ hb hlt => ?_
    exact ⟨by simpa using (List.mem_filter.1 hb).2, .inr hlt⟩
  unfold AccountSet.mergeOrder
  split
  · refine List.pairwise_cons.2 ⟨fun b hb => ?_, hothers⟩
    exact ⟨by simpa using (List.mem_filter.1 hb).2, .inl rfl⟩
  · exact hothers

theorem ordered_merges {l : List AccountId}
    (h : l.Pairwise fun a b => b ≠ primary ∧ (a = primary ∨ a < b)) :
    (l.map Action.merge).Pairwise (Action.Precedes primary) :=
  List.Pairwise.map _ (fun _ _ hab => .merge_merge hab.1 hab.2) h

/-- Adoptions come by place. -/
theorem ordered_adoptionsOf (session : List AccountId) (valid invalid : AccountSet) :
    (adoptionsOf session valid invalid).Pairwise (Action.Precedes primary) := by
  have hplaces : session.zipIdx.Pairwise fun e f => e.2 < f.2 := by
    rw [← List.pairwise_map, List.zipIdx_map_snd]
    exact List.pairwise_lt_range'
  refine List.Pairwise.filterMap _ (fun e f hlt x hx y hy => ?_) hplaces
  simp only [Option.ite_none_left_eq_some, Option.some.injEq] at hx hy
  rw [← hx.2, ← hy.2]
  exact .adopt_adopt hlt

theorem ordered_plan (h : plan primary session valid invalid = .ok actions) :
    actions.Pairwise (Action.Precedes primary) := by
  have hmerges := pairwise_mergeOrder valid primary
  rcases plan_cases h with ⟨-, -, rfl⟩ | ⟨-, rfl⟩
  · refine List.pairwise_cons.2 ⟨fun x hx => ?_, ordered_merges hmerges⟩
    obtain ⟨a, -, rfl⟩ := List.mem_map.1 hx
    exact .leave_merge
  · refine List.pairwise_append.2 ⟨ordered_merges (hmerges.filter _),
      ordered_adoptionsOf session valid invalid, fun x hx y hy => ?_⟩
    obtain ⟨a, -, rfl⟩ := List.mem_map.1 hx
    obtain ⟨b, place, -, -, rfl⟩ := mem_adoptionsOf.1 hy
    exact .merge_adopt

/-! ## The actions of a plan -/

theorem mem_plan_iff (h : plan primary session valid invalid = .ok actions) (x : Action) :
    x ∈ actions ↔ Needed primary session valid invalid x := by
  rcases plan_cases h with ⟨hled, -, rfl⟩ | ⟨hled, rfl⟩
  · rw [ledByOther_iff] at hled
    rw [List.mem_cons, List.mem_map]
    constructor
    · rintro (rfl | ⟨a, ha, rfl⟩)
      · exact .leave hled
      · exact .rejoin hled (AccountSet.mem_mergeOrder.1 ha)
    · intro hneeded
      cases hneeded with
      | leave => exact .inl rfl
      | rejoin _ works => exact .inr ⟨_, AccountSet.mem_mergeOrder.2 works, rfl⟩
      | join hnot | adopt hnot => exact absurd hled hnot
  · rw [ledByOther_eq_false_iff_not] at hled
    rw [List.mem_append, List.mem_map, mem_adoptionsOf]
    constructor
    · rintro (⟨a, ha, rfl⟩ | ⟨a, place, there, unknown, rfl⟩)
      · obtain ⟨hvalid, hmissing⟩ := List.mem_filter.1 ha
        exact .join hled (AccountSet.mem_mergeOrder.1 hvalid) (by simpa using hmissing)
      · exact .adopt hled there unknown
    · intro hneeded
      cases hneeded with
      | leave hled' | rejoin hled' => exact absurd hled' hled
      | @join a _ works missing =>
        have hvalid : a ∈ valid.mergeOrder primary := AccountSet.mem_mergeOrder.2 works
        exact .inl ⟨_, List.mem_filter.2 ⟨hvalid, by simpa using missing⟩, rfl⟩
      | adopt _ there unknown => exact .inr ⟨_, _, there, unknown, rfl⟩

theorem plan_eq_error_iff {e : PlanError} : plan primary session valid invalid = .error e ↔
    e = .primaryNotValid primary ∧ LedByStranger primary session
      ∧ valid.contains primary = false := by
  rw [← ledByOther_iff]
  unfold plan
  cases hled : ledByOther primary session <;> cases hvalid : valid.contains primary <;>
    simp [eq_comm]

/-- There is a plan exactly if no stranger leads or the primary is valid. -/
theorem exists_plan_iff : (∃ actions, plan primary session valid invalid = .ok actions) ↔
    (LedByStranger primary session → valid.contains primary = true) := by
  constructor
  · rintro ⟨actions, h⟩ led
    rcases plan_cases h with ⟨-, hvalid, -⟩ | ⟨hnot, -⟩
    · exact hvalid
    · exact absurd led (ledByOther_eq_false_iff_not.1 hnot)
  · intro leader
    apply exists_plan
    by_cases led : LedByStranger primary session
    · exact .inl (leader led)
    · exact .inr (ledByOther_eq_false_iff_not.2 led)

/-- A plan is the one list of what is needed in its order. -/
theorem plan_eq_ok_iff : plan primary session valid invalid = .ok actions ↔
    (LedByStranger primary session → valid.contains primary = true)
      ∧ (∀ x, x ∈ actions ↔ Needed primary session valid invalid x)
      ∧ actions.Pairwise (Action.Precedes primary) := by
  constructor
  · intro h
    exact ⟨exists_plan_iff.1 ⟨actions, h⟩, mem_plan_iff h, ordered_plan h⟩
  · rintro ⟨leader, hneeded, hordered⟩
    obtain ⟨made, hmade⟩ := exists_plan_iff.2 leader
    have hsame : made = actions := by
      refine Action.eq_of_ordered (ordered_plan hmade) hordered fun x => ?_
      rw [mem_plan_iff hmade, hneeded]
    rw [hmade, hsame]

/-- A session that a stranger leads is left, and then the primary joins it first. -/
theorem plan_of_stranger (h : plan primary session valid invalid = .ok actions)
    (led : LedByStranger primary session) :
    actions = .logoutAll :: .merge primary :: (valid.accounts.filter (· ≠ primary)).map .merge := by
  rcases plan_cases h with ⟨-, hvalid, rfl⟩ | ⟨hnot, -⟩
  · rw [AccountSet.mergeOrder_of_valid hvalid, List.map_cons]
  · exact absurd led (ledByOther_eq_false_iff_not.1 hnot)

/-- An account that is merged is valid. -/
theorem valid_of_needed {a : AccountId} (h : Needed primary session valid invalid (.merge a)) :
    valid.contains a = true := by
  cases h with
  | rejoin _ works => exact works
  | join _ works => exact works

/-- Of an account that is adopted nothing is known. -/
theorem unknown_of_needed {a : AccountId} {place : Nat}
    (h : Needed primary session valid invalid (.adopt a place)) : ¬ Known valid invalid a := by
  cases h with
  | adopt _ _ unknown => exact unknown

end

/-! ## Main result -/

/-- **A plan is exactly what has to be done, in order.** There is none exactly if a stranger leads
the session and the primary is not valid; otherwise it is the one list of the needed actions in
their order. So no action is taken twice; a session that a stranger leads is left, then the primary
and the other valid accounts join it, and nothing else is done; no account is both merged and
adopted; and an account whose credentials do not work is named nowhere, unless they count as valid
too. -/
theorem plan_exact (primary : AccountId) (session : List AccountId) (valid invalid : AccountSet) :
    (∀ e, plan primary session valid invalid = .error e ↔
        e = .primaryNotValid primary ∧ LedByStranger primary session
          ∧ valid.contains primary = false)
      ∧ (∀ actions, plan primary session valid invalid = .ok actions ↔
        (LedByStranger primary session → valid.contains primary = true)
          ∧ (∀ x, x ∈ actions ↔ Needed primary session valid invalid x)
          ∧ actions.Pairwise (Action.Precedes primary))
      ∧ ∀ actions, plan primary session valid invalid = .ok actions →
        actions.Nodup
          ∧ (LedByStranger primary session → ∃ others : List AccountId,
            actions = .logoutAll :: .merge primary :: others.map .merge
              ∧ others.Pairwise (· < ·)
              ∧ ∀ a, a ∈ others ↔ valid.contains a = true ∧ a ≠ primary)
          ∧ (∀ a place, .merge a ∈ actions → .adopt a place ∉ actions)
          ∧ ∀ a, invalid.contains a = true → valid.contains a = false →
            .merge a ∉ actions ∧ ∀ place, .adopt a place ∉ actions := by
  refine ⟨fun e => plan_eq_error_iff, fun actions => plan_eq_ok_iff, fun actions h => ?_⟩
  have hmem := mem_plan_iff h
  refine ⟨Action.nodup_of_ordered (ordered_plan h), fun led => ?_, fun a place hmerge hadopt => ?_,
    fun a hinvalid hvalid => ⟨fun hmerge => ?_, fun place hadopt => ?_⟩⟩
  · refine ⟨valid.accounts.filter (· ≠ primary), plan_of_stranger h led,
      valid.pairwise_accounts.filter _, fun a => ?_⟩
    rw [List.mem_filter, Catalog.mem_accounts, decide_eq_true_eq]
  · have hvalid := valid_of_needed ((hmem _).1 hmerge)
    exact unknown_of_needed ((hmem _).1 hadopt) (.inl hvalid)
  · have hworks := valid_of_needed ((hmem _).1 hmerge)
    rw [hvalid] at hworks
    cases hworks
  · exact unknown_of_needed ((hmem _).1 hadopt) (.inr hinvalid)

/-- In a session that the primary leads another account is listed twice: it is adopted at both of
its places. A session that a stranger leads is left, and the stranger stays out. -/
theorem plan_exact_repeated :
    let valid : AccountSet := .ofAccounts [⟨"p"⟩, ⟨"b"⟩, ⟨"z"⟩]
    let invalid : AccountSet := .ofAccounts [⟨"i"⟩]
    (let session : List AccountId := [⟨"p"⟩, ⟨"s"⟩, ⟨"i"⟩, ⟨"z"⟩, ⟨"s"⟩]
      let actions : List Action := [.merge ⟨"b"⟩, .adopt ⟨"s"⟩ 1, .adopt ⟨"s"⟩ 4]
      plan ⟨"p"⟩ session valid invalid = .ok actions ∧ actions.Nodup
        ∧ (.merge ⟨"b"⟩ ∈ actions ∧ ∀ place, .adopt ⟨"b"⟩ place ∉ actions)
        ∧ invalid.contains ⟨"i"⟩ = true ∧ valid.contains ⟨"i"⟩ = false
        ∧ .merge ⟨"i"⟩ ∉ actions ∧ ∀ place, .adopt ⟨"i"⟩ place ∉ actions)
      ∧ let session : List AccountId := [⟨"s"⟩, ⟨"p"⟩]
        let actions : List Action := [.logoutAll, .merge ⟨"p"⟩, .merge ⟨"b"⟩, .merge ⟨"z"⟩]
        plan ⟨"p"⟩ session valid invalid = .ok actions ∧ LedByStranger ⟨"p"⟩ session
          ∧ ∃ others : List AccountId, actions = .logoutAll :: .merge ⟨"p"⟩ :: others.map .merge
            ∧ others.Pairwise (· < ·) ∧ ∀ a, a ∈ others ↔ valid.contains a = true ∧ a ≠ ⟨"p"⟩ := by
  intro valid invalid
  constructor
  · intro session actions
    have hplan : plan ⟨"p"⟩ session valid invalid = .ok actions := by decide +kernel
    have hmerge : .merge ⟨"b"⟩ ∈ actions := List.mem_cons_self
    have hinvalid : invalid.contains ⟨"i"⟩ = true := by decide +kernel
    have hvalid : valid.contains ⟨"i"⟩ = false := by decide +kernel
    obtain ⟨hnodup, -, hapart, hnamed⟩ :=
      (plan_exact ⟨"p"⟩ session valid invalid).2.2 actions hplan
    exact ⟨hplan, hnodup, ⟨hmerge, fun place => hapart _ place hmerge⟩, hinvalid, hvalid,
      hnamed _ hinvalid hvalid⟩
  · intro session actions
    have hplan : plan ⟨"p"⟩ session valid invalid = .ok actions := by decide +kernel
    have hled : LedByStranger ⟨"p"⟩ session := ⟨⟨"s"⟩, [⟨"p"⟩], rfl, by decide⟩
    exact ⟨hplan, hled, ((plan_exact ⟨"p"⟩ session valid invalid).2.2 actions hplan).2.1 hled⟩

end SessionSync
