import SessionSync.Pass.Plan
import SessionSync.Proofs.Account.AccountSet
import SessionSync.Proofs.Account.Entries

/-!
# What a plan leads to

A plan either rebuilds the session or completes it (`plan_cases`), and either way the session and
the accounts that hold credentials can be said outright once its actions have been carried out.

* `AccountSet.mergeOrder` — the valid accounts in the order in which they are merged.
* `enactAll_rebuilt`, `enactAll_completed` — the session and the accounts afterwards.
* `plan_eq_nil_iff` — when there is nothing to do.
* `plan_settles` — after the actions of a plan there is nothing to do any more.
* `led_by_primary_iff` — when the session is then empty or led by the primary, with
  `led_by_other_after_plan` for when it is not.
-/

namespace SessionSync

/-! ## The order of merges -/

/-- The accounts of a set, the primary first and the others in ascending order. -/
def AccountSet.mergeOrder (valid : AccountSet) (primary : AccountId) : List AccountId :=
  (if valid.contains primary then [primary] else []) ++ valid.accounts.filter (· ≠ primary)

theorem mergesOf_eq (primary : AccountId) (valid : AccountSet) (wanted : AccountId → Bool) :
    mergesOf primary valid wanted = ((valid.mergeOrder primary).filter wanted).map .merge := rfl

namespace AccountSet

variable {valid : AccountSet} {primary : AccountId}

theorem mem_mergeOrder {a : AccountId} :
    a ∈ valid.mergeOrder primary ↔ valid.contains a = true := by
  unfold mergeOrder
  rw [List.mem_append, List.mem_filter, Catalog.mem_accounts]
  by_cases ha : a = primary
  · subst ha
    by_cases hvalid : valid.contains a = true <;> simp [hvalid]
  · by_cases hvalid : valid.contains primary = true <;> simp [hvalid, ha]

theorem nodup_mergeOrder (valid : AccountSet) (primary : AccountId) :
    (valid.mergeOrder primary).Nodup := by
  have hothers : (valid.accounts.filter (· ≠ primary)).Nodup := valid.nodup_accounts.filter _
  unfold mergeOrder
  split
  · rw [List.singleton_append, List.nodup_cons]
    exact ⟨by simp, hothers⟩
  · exact hothers

theorem mergeOrder_of_valid (h : valid.contains primary = true) :
    valid.mergeOrder primary = primary :: valid.accounts.filter (· ≠ primary) := by
  rw [mergeOrder, if_pos h]
  rfl

/-- Without the primary the accounts are merged in ascending order. -/
theorem mergeOrder_of_not_valid (h : valid.contains primary = false) :
    valid.mergeOrder primary = valid.accounts := by
  rw [mergeOrder, if_neg (by rw [h]; exact Bool.false_ne_true), List.nil_append,
    List.filter_eq_self]
  intro a ha
  have hne : a ≠ primary := by
    rintro rfl
    rw [Catalog.mem_accounts, h] at ha
    cases ha
  simpa using hne

end AccountSet

/-! ## The two kinds of plans -/

section

variable {primary : AccountId} {session : List AccountId} {valid invalid : AccountSet}
  {actions : List Action}

theorem ledByOther_eq_false_iff :
    ledByOther primary session = false ↔ session = [] ∨ session.head? = some primary := by
  unfold ledByOther
  cases session with
  | nil => simp
  | cons a l => simp

/-- A plan that rebuilds the session. -/
def Rebuilds (primary : AccountId) (session : List AccountId) (valid : AccountSet)
    (actions : List Action) : Prop :=
  ledByOther primary session = true ∧ valid.contains primary = true
    ∧ actions = .logoutAll :: (valid.mergeOrder primary).map .merge

/-- A plan that completes the session: what is missing is merged, and what is unknown is adopted. -/
def Completes (primary : AccountId) (session : List AccountId) (valid invalid : AccountSet)
    (actions : List Action) : Prop :=
  ledByOther primary session = false
    ∧ actions = ((valid.mergeOrder primary).filter fun a => !session.contains a).map .merge
        ++ adoptionsOf session valid invalid

theorem plan_cases (h : plan primary session valid invalid = .ok actions) :
    Rebuilds primary session valid actions ∨ Completes primary session valid invalid actions := by
  unfold plan at h
  split at h
  · next hled =>
    split at h
    · next hvalid =>
      injection h with h
      rw [mergesOf_eq, List.filter_eq_self.2 fun _ _ => rfl] at h
      exact .inl ⟨hled, hvalid, h.symm⟩
    · cases h
  · next hled =>
    injection h with h
    rw [mergesOf_eq] at h
    exact .inr ⟨by simpa using hled, h.symm⟩

/-- An account has credentials of which it is known whether they work. -/
def Known (valid invalid : AccountSet) (a : AccountId) : Prop :=
  valid.contains a = true ∨ invalid.contains a = true

/-- The primary leads or the session is empty, every valid account is in the session, and the
credentials of every account of the session are known. -/
structure Converged (primary : AccountId) (session : List AccountId) (valid invalid : AccountSet) :
    Prop where
  led : ledByOther primary session = false
  present : ∀ a, valid.contains a = true → a ∈ session
  known : ∀ a ∈ session, Known valid invalid a

theorem mem_adoptionsOf {x : Action} :
    x ∈ adoptionsOf session valid invalid ↔
      ∃ a i, session[i]? = some a ∧ ¬ Known valid invalid a ∧ x = .adopt a i := by
  unfold adoptionsOf Known
  rw [List.mem_filterMap]
  constructor
  · rintro ⟨⟨a, i⟩, he, hx⟩
    split at hx
    · cases hx
    · next hunknown =>
      injection hx with hx
      exact ⟨a, i, List.mk_mem_zipIdx_iff_getElem?.1 he, by simpa using hunknown, hx.symm⟩
  · rintro ⟨a, i, hi, hunknown, rfl⟩
    refine ⟨(a, i), List.mk_mem_zipIdx_iff_getElem?.2 hi, ?_⟩
    rw [if_neg (by simpa using hunknown)]

/-- The accounts that are adopted are those of the session whose credentials are not known. -/
theorem exists_adopt_mem_iff {a : AccountId} :
    (∃ place, .adopt a place ∈ adoptionsOf session valid invalid) ↔
      a ∈ session ∧ ¬ Known valid invalid a := by
  constructor
  · rintro ⟨place, hmem⟩
    obtain ⟨b, i, hi, hunknown, heq⟩ := mem_adoptionsOf.1 hmem
    cases heq
    exact ⟨List.mem_of_getElem? hi, hunknown⟩
  · rintro ⟨ha, hunknown⟩
    obtain ⟨i, hi⟩ := List.getElem?_of_mem ha
    exact ⟨i, mem_adoptionsOf.2 ⟨a, i, hi, hunknown, rfl⟩⟩

theorem adoptionsOf_eq_nil_iff :
    adoptionsOf session valid invalid = [] ↔ ∀ a ∈ session, Known valid invalid a := by
  rw [List.eq_nil_iff_forall_not_mem]
  constructor
  · intro h a ha
    apply Classical.byContradiction
    intro hunknown
    obtain ⟨place, hmem⟩ := exists_adopt_mem_iff.2 ⟨ha, hunknown⟩
    exact h _ hmem
  · intro h x hx
    obtain ⟨a, i, hi, hunknown, -⟩ := mem_adoptionsOf.1 hx
    exact hunknown (h a (List.mem_of_getElem? hi))

/-- Where the primary leads and every valid account is present, what is unknown is adopted and that
is all. -/
theorem plan_of_present (led : ledByOther primary session = false)
    (present : ∀ a, valid.contains a = true → a ∈ session) :
    plan primary session valid invalid = .ok (adoptionsOf session valid invalid) := by
  have hmissing : (valid.mergeOrder primary).filter (fun a => !session.contains a) = [] := by
    rw [List.filter_eq_nil_iff]
    intro a ha
    simpa using present a (AccountSet.mem_mergeOrder.1 ha)
  unfold plan
  rw [if_neg (by rw [led]; exact Bool.false_ne_true), mergesOf_eq, hmissing]
  rfl

/-- There is nothing to do exactly when all is converged. -/
theorem plan_eq_nil_iff :
    plan primary session valid invalid = .ok [] ↔ Converged primary session valid invalid := by
  constructor
  · intro h
    rcases plan_cases h with ⟨-, -, hactions⟩ | ⟨hled, hactions⟩
    · cases hactions
    · obtain ⟨hmerges, hadoptions⟩ := List.append_eq_nil_iff.1 hactions.symm
      refine ⟨hled, fun a ha => ?_, adoptionsOf_eq_nil_iff.1 hadoptions⟩
      have hall := List.filter_eq_nil_iff.1 (List.map_eq_nil_iff.1 hmerges)
      simpa using hall a (AccountSet.mem_mergeOrder.2 ha)
  · intro h
    rw [plan_of_present h.led h.present, adoptionsOf_eq_nil_iff.2 h.known]

/-- There is a plan if the primary can be merged, leads, or has no session to lead. -/
theorem exists_plan (leader : valid.contains primary = true ∨ ledByOther primary session = false) :
    ∃ actions, plan primary session valid invalid = .ok actions := by
  unfold plan
  split
  · next hled =>
    rcases leader with hvalid | hnot
    · exact ⟨_, if_pos hvalid⟩
    · rw [hnot] at hled
      cases hled
  · exact ⟨_, rfl⟩

/-! ## Carrying a plan out -/

/-- What an action does when an account that is merged joins the session without a look at it. -/
def SessionView.enact (s : SessionView) : Action → SessionView
  | .merge a => { s with session := s.session ++ [a] }
  | .adopt a _ => { s with held := s.held.add a }
  | .logoutAll => { s with session := [] }

/-- What actions then do one after the other. -/
def SessionView.enactAll (s : SessionView) (actions : List Action) : SessionView :=
  actions.foldl SessionView.enact s

/-- No account is merged that is in the session at that point. -/
def SessionView.Fresh (s : SessionView) (actions : List Action) : Prop :=
  ∀ before a rest, actions = before ++ .merge a :: rest → a ∉ (s.enactAll before).session

namespace SessionView

theorem enactAll_append (s : SessionView) (before after : List Action) :
    s.enactAll (before ++ after) = (s.enactAll before).enactAll after :=
  List.foldl_append

theorem enactAll_merges (s : SessionView) (l : List AccountId) :
    s.enactAll (l.map .merge) = { s with session := s.session ++ l } := by
  induction l generalizing s with
  | nil => simp [enactAll]
  | cons a l ih =>
    rw [List.map_cons, enactAll, List.foldl_cons, ← enactAll, ih]
    simp [enact]

/-- Adoptions leave the session alone and add the accounts that they name. -/
theorem enactAll_adoptions {s : SessionView} {actions : List Action}
    (h : ∀ x ∈ actions, ∃ a i, x = .adopt a i) :
    (s.enactAll actions).session = s.session
      ∧ ∀ b, (s.enactAll actions).held.contains b = true ↔
        (∃ i, Action.adopt b i ∈ actions) ∨ s.held.contains b = true := by
  induction actions generalizing s with
  | nil => simp [enactAll]
  | cons x actions ih =>
    obtain ⟨a, i, rfl⟩ := h x List.mem_cons_self
    obtain ⟨hsession, hheld⟩ := ih (s := s.enact (.adopt a i)) fun y hy =>
      h y (List.mem_cons_of_mem _ hy)
    refine ⟨hsession, fun b => ?_⟩
    rw [enactAll, List.foldl_cons, ← enactAll, hheld, enact, AccountSet.contains_add]
    constructor
    · rintro (⟨j, hj⟩ | rfl | hb)
      · exact .inl ⟨j, List.mem_cons_of_mem _ hj⟩
      · exact .inl ⟨i, List.mem_cons_self⟩
      · exact .inr hb
    · rintro (⟨j, hj⟩ | hb)
      · rcases List.mem_cons.1 hj with heq | hj
        · cases heq
          exact .inr (.inl rfl)
        · exact .inl ⟨j, hj⟩
      · exact .inr (.inr hb)

theorem fresh_cons {s : SessionView} {x : Action} {actions : List Action} :
    s.Fresh (x :: actions) ↔
      (∀ a, x = .merge a → a ∉ s.session) ∧ (s.enact x).Fresh actions := by
  constructor
  · intro h
    refine ⟨?_, ?_⟩
    · rintro a rfl
      exact h [] a actions rfl
    · intro before a rest heq
      exact h (x :: before) a rest (by rw [heq, List.cons_append])
  · rintro ⟨hx, h⟩ before a rest heq
    cases before with
    | nil =>
      injection heq with hhead
      exact hx a hhead
    | cons y before =>
      injection heq with hhead htail
      subst hhead
      exact h before a rest htail

/-- Merging different accounts that are not in the session, and no more merges after that. -/
theorem fresh_merges {s : SessionView} {l : List AccountId} {others : List Action}
    (nodup : l.Nodup) (new : ∀ a ∈ l, a ∉ s.session) (quiet : ∀ a, .merge a ∉ others) :
    s.Fresh (l.map .merge ++ others) := by
  induction l generalizing s with
  | nil =>
    intro before a rest heq
    apply absurd _ (quiet a)
    rw [List.map_nil, List.nil_append] at heq
    rw [heq]
    exact List.mem_append_right _ List.mem_cons_self
  | cons b l ih =>
    obtain ⟨hb, hl⟩ := List.nodup_cons.1 nodup
    rw [List.map_cons, List.cons_append, fresh_cons]
    refine ⟨?_, ih hl ?_⟩
    · rintro a heq
      cases heq
      exact new b List.mem_cons_self
    · intro a ha hmem
      rcases List.mem_append.1 hmem with hold | hnew
      · exact new a (List.mem_cons_of_mem _ ha) hold
      · rw [List.mem_singleton.1 hnew] at ha
        exact hb ha

/-- Actions that merge no account twice do the same when merging passes over an account that is in
the session already. -/
theorem applyAll_eq_enactAll {s : SessionView} {actions : List Action} (h : s.Fresh actions) :
    s.applyAll actions = s.enactAll actions := by
  induction actions generalizing s with
  | nil => rfl
  | cons x actions ih =>
    obtain ⟨hx, hrest⟩ := fresh_cons.1 h
    have hstep : s.apply x = s.enact x := by
      cases x with
      | merge a =>
        have hnew : a ∉ s.session := hx a rfl
        simp [apply, enact, hnew]
      | adopt a i => rfl
      | logoutAll => rfl
    rw [applyAll, List.foldl_cons, hstep, ← applyAll, ih hrest]
    rfl

end SessionView

/-! ## The session afterwards -/

theorem merge_not_mem_adoptionsOf (session : List AccountId) (valid invalid : AccountSet)
    (a : AccountId) : Action.merge a ∉ adoptionsOf session valid invalid := by
  intro h
  obtain ⟨b, i, -, -, heq⟩ := mem_adoptionsOf.1 h
  cases heq

/-- No plan merges an account that is in the session by then. -/
theorem fresh_plan (h : plan primary session valid invalid = .ok actions) :
    SessionView.Fresh ⟨session, valid⟩ actions := by
  have hnodup := valid.nodup_mergeOrder primary
  rcases plan_cases h with ⟨-, -, rfl⟩ | ⟨-, rfl⟩
  · rw [SessionView.fresh_cons]
    have hlogout : ∀ a, Action.logoutAll = .merge a → a ∉ session := by
      intro a heq
      cases heq
    refine ⟨hlogout, ?_⟩
    rw [← List.append_nil (List.map _ _)]
    apply SessionView.fresh_merges hnodup
    · intro a _ ha
      cases ha
    · intro a ha
      cases ha
  · apply SessionView.fresh_merges (hnodup.filter _)
    · intro a ha
      simpa using (List.mem_filter.1 ha).2
    · exact merge_not_mem_adoptionsOf session valid invalid

/-- A session that is rebuilt consists of the valid accounts, the primary first. -/
theorem enactAll_rebuilt (h : Rebuilds primary session valid actions) :
    SessionView.enactAll ⟨session, valid⟩ actions = ⟨valid.mergeOrder primary, valid⟩ := by
  obtain ⟨-, -, rfl⟩ := h
  rw [SessionView.enactAll, List.foldl_cons, ← SessionView.enactAll, SessionView.enactAll_merges]
  rfl

/-- A session that is completed keeps its accounts, and the valid ones that are missing join. What
is unknown is adopted. -/
theorem enactAll_completed (h : Completes primary session valid invalid actions) :
    let after := SessionView.enactAll ⟨session, valid⟩ actions
    after.session = session ++ (valid.mergeOrder primary).filter (fun a => !session.contains a)
      ∧ ∀ a, after.held.contains a = true ↔
        valid.contains a = true ∨ (a ∈ session ∧ ¬ Known valid invalid a) := by
  obtain ⟨-, rfl⟩ := h
  intro after
  have hadopts : ∀ x ∈ adoptionsOf session valid invalid, ∃ a i, x = Action.adopt a i := by
    intro x hx
    obtain ⟨a, i, -, -, rfl⟩ := mem_adoptionsOf.1 hx
    exact ⟨a, i, rfl⟩
  let merged : SessionView :=
    ⟨session ++ (valid.mergeOrder primary).filter fun a => !session.contains a, valid⟩
  obtain ⟨hsession, hheld⟩ := SessionView.enactAll_adoptions (s := merged) hadopts
  have hafter : after = merged.enactAll (adoptionsOf session valid invalid) := by
    show SessionView.enactAll _ (_ ++ _) = _
    rw [SessionView.enactAll_append, SessionView.enactAll_merges]
  rw [hafter]
  refine ⟨hsession, fun a => ?_⟩
  rw [hheld, Or.comm, exists_adopt_mem_iff]

/-- Who leads a session that was completed. -/
theorem head?_completed (hled : ledByOther primary session = false) (missing : List AccountId) :
    (session ++ missing).head? = if session = [] then missing.head? else some primary := by
  rcases ledByOther_eq_false_iff.1 hled with rfl | hhead
  · rfl
  · cases session with
    | nil => cases hhead
    | cons a l => simpa using hhead

theorem missing_of_empty (valid : AccountSet) (primary : AccountId) :
    (valid.mergeOrder primary).filter (fun a => !([] : List AccountId).contains a) =
      valid.mergeOrder primary := by
  rw [List.filter_eq_self]
  intro a _
  rfl

/-- Who leads the session after a plan: the primary, unless the session was empty before and the
primary is not valid; then it is the first of the accounts that are. -/
theorem head?_of_plan (h : plan primary session valid invalid = .ok actions) :
    (SessionView.enactAll ⟨session, valid⟩ actions).session.head? =
      if session = [] ∧ valid.contains primary = false then valid.accounts.head?
      else some primary := by
  rcases plan_cases h with hrebuilt | hcompleted
  · rw [enactAll_rebuilt hrebuilt, AccountSet.mergeOrder_of_valid hrebuilt.2.1, if_neg]
    · rfl
    · rintro ⟨rfl, -⟩
      cases hrebuilt.1
  · have hhead := head?_completed hcompleted.1
    rw [(enactAll_completed hcompleted).1, hhead]
    by_cases hempty : session = []
    · subst hempty
      rw [if_pos rfl, missing_of_empty]
      by_cases hvalid : valid.contains primary = true
      · rw [AccountSet.mergeOrder_of_valid hvalid, if_neg]
        · rfl
        · rintro ⟨-, hinvalid⟩
          rw [hvalid] at hinvalid
          cases hinvalid
      · rw [Bool.not_eq_true] at hvalid
        rw [AccountSet.mergeOrder_of_not_valid hvalid, if_pos ⟨rfl, hvalid⟩]
    · rw [if_neg hempty, if_neg fun hboth => hempty hboth.1]

/-- After the actions of a plan all is converged, if there is somebody to lead the session. -/
theorem converged_of_plan (h : plan primary session valid invalid = .ok actions)
    (leader : session ≠ [] ∨ valid.contains primary = true ∨ valid.accounts = []) :
    let after := SessionView.enactAll ⟨session, valid⟩ actions
    Converged primary after.session after.held invalid := by
  intro after
  have hled : ledByOther primary after.session = false := by
    rw [ledByOther_eq_false_iff, ← List.head?_eq_none_iff, head?_of_plan h]
    split
    · next hboth =>
      rcases leader with hsession | hvalid | hnone
      · exact absurd hboth.1 hsession
      · rw [hboth.2] at hvalid
        cases hvalid
      · exact .inl (by rw [hnone]; rfl)
    · exact .inr rfl
  rcases plan_cases h with hrebuilt | hcompleted
  · have hafter : after = ⟨valid.mergeOrder primary, valid⟩ := enactAll_rebuilt hrebuilt
    rw [hafter] at hled ⊢
    exact ⟨hled, fun a ha => AccountSet.mem_mergeOrder.2 ha,
      fun a ha => .inl (AccountSet.mem_mergeOrder.1 ha)⟩
  · obtain ⟨hsession, hheld⟩ := enactAll_completed hcompleted
    refine ⟨hled, fun a ha => ?_, fun a ha => ?_⟩
    · rw [hsession, List.mem_append]
      rcases (hheld a).1 ha with hvalid | ⟨hmem, -⟩
      · by_cases hmem : a ∈ session
        · exact .inl hmem
        · exact .inr (List.mem_filter.2 ⟨AccountSet.mem_mergeOrder.2 hvalid, by simpa using hmem⟩)
      · exact .inl hmem
    · rw [hsession, List.mem_append] at ha
      unfold Known
      rw [hheld]
      rcases ha with hmem | hnew
      · by_cases hknown : Known valid invalid a
        · exact hknown.imp_left .inl
        · exact .inl (.inr ⟨hmem, hknown⟩)
      · exact .inl (.inl (AccountSet.mem_mergeOrder.1 (List.mem_filter.1 hnew).1))

/-- Only valid accounts are merged. -/
theorem valid_of_merge_mem (h : plan primary session valid invalid = .ok actions) {a : AccountId}
    (ha : .merge a ∈ actions) : valid.contains a = true := by
  rcases plan_cases h with ⟨-, -, rfl⟩ | ⟨-, rfl⟩
  · rcases List.mem_cons.1 ha with heq | ha
    · cases heq
    · obtain ⟨b, hb, heq⟩ := List.mem_map.1 ha
      cases heq
      exact AccountSet.mem_mergeOrder.1 hb
  · rcases List.mem_append.1 ha with ha | ha
    · obtain ⟨b, hb, heq⟩ := List.mem_map.1 ha
      cases heq
      exact AccountSet.mem_mergeOrder.1 (List.mem_filter.1 hb).1
    · exact absurd ha (merge_not_mem_adoptionsOf session valid invalid a)

/-- The accounts that hold credentials after a plan held some before or were adopted. -/
theorem held_of_plan (h : plan primary session valid invalid = .ok actions) (a : AccountId) :
    (SessionView.enactAll ⟨session, valid⟩ actions).held.contains a = true ↔
      valid.contains a = true ∨ ∃ place, .adopt a place ∈ actions := by
  rcases plan_cases h with hrebuilt | hcompleted
  · rw [enactAll_rebuilt hrebuilt]
    obtain ⟨-, -, rfl⟩ := hrebuilt
    simp
  · rw [(enactAll_completed hcompleted).2]
    obtain ⟨-, rfl⟩ := hcompleted
    rw [← exists_adopt_mem_iff]
    refine or_congr Iff.rfl (exists_congr fun place => ?_)
    simp

/-- The session after a plan holds what it held before and valid accounts, none of them twice. -/
theorem session_of_plan (h : plan primary session valid invalid = .ok actions)
    (nodup : session.Nodup) :
    let after := (SessionView.enactAll ⟨session, valid⟩ actions).session
    after.Nodup ∧ ∀ a ∈ after, a ∈ session ∨ valid.contains a = true := by
  intro after
  have hnodup := valid.nodup_mergeOrder primary
  rcases plan_cases h with hrebuilt | hcompleted
  · have hafter : after = valid.mergeOrder primary :=
      congrArg SessionView.session (enactAll_rebuilt hrebuilt)
    rw [hafter]
    exact ⟨hnodup, fun a ha => .inr (AccountSet.mem_mergeOrder.1 ha)⟩
  · rw [show after = _ from (enactAll_completed hcompleted).1]
    refine ⟨List.nodup_append.2 ⟨nodup, hnodup.filter _, ?_⟩, fun a ha => ?_⟩
    · rintro a ha b hb rfl
      have hnew := (List.mem_filter.1 hb).2
      simp [ha] at hnew
    · rcases List.mem_append.1 ha with hmem | hnew
      · exact .inl hmem
      · exact .inr (AccountSet.mem_mergeOrder.1 (List.mem_filter.1 hnew).1)

end

/-! ## Main results -/

/-- One plan settles everything. When its actions have been carried out on a session that is not
empty, or with the primary among the valid accounts, or with no valid account at all, the next plan
has none; no account is merged that is in the session at that point, every account that then holds
credentials is in the session, and a session that is not rebuilt keeps its accounts in front. -/
theorem plan_settles (primary : AccountId) (session : List AccountId) (valid invalid : AccountSet)
    (actions : List Action) (h : plan primary session valid invalid = .ok actions)
    (leader : session ≠ [] ∨ valid.contains primary = true ∨ valid.accounts = []) :
    let start : SessionView := ⟨session, valid⟩
    let after := start.enactAll actions
    plan primary after.session after.held invalid = .ok []
      ∧ (∀ before a rest, actions = before ++ .merge a :: rest →
          a ∉ (start.enactAll before).session)
      ∧ (∀ a, after.held.contains a = true → a ∈ after.session)
      ∧ (ledByOther primary session = false → session <+: after.session) := by
  intro start after
  have hconverged : Converged primary after.session after.held invalid := converged_of_plan h leader
  refine ⟨plan_eq_nil_iff.2 hconverged, fresh_plan h, hconverged.present, fun hled => ?_⟩
  rcases plan_cases h with hrebuilt | hcompleted
  · cases hled.symm.trans hrebuilt.1
  · rw [(enactAll_completed hcompleted).1]
    exact List.prefix_append _ _

/-- A session with a stranger and an account whose credentials do not work. -/
theorem plan_settles_completed :
    let valid : AccountSet := .ofAccounts [⟨"z"⟩, ⟨"a"⟩]
    let invalid : AccountSet := .ofAccounts [⟨"b"⟩]
    let start : SessionView := ⟨[⟨"z"⟩, ⟨"c"⟩, ⟨"b"⟩], valid⟩
    let actions : List Action := [.merge ⟨"a"⟩, .adopt ⟨"c"⟩ 1]
    plan ⟨"z"⟩ start.session valid invalid = .ok actions
      ∧ (start.enactAll actions).session = [⟨"z"⟩, ⟨"c"⟩, ⟨"b"⟩, ⟨"a"⟩]
      ∧ plan ⟨"z"⟩ (start.enactAll actions).session (start.enactAll actions).held invalid =
        .ok [] := by
  intro valid invalid start actions
  have hplan : plan ⟨"z"⟩ start.session valid invalid = .ok actions := rfl
  obtain ⟨hnext, -, -, -⟩ :=
    plan_settles ⟨"z"⟩ start.session valid invalid actions hplan (.inl (List.cons_ne_nil _ _))
  exact ⟨hplan, rfl, hnext⟩

/-- A plan leaves the session empty or led by the primary, unless the session is empty before it and
accounts are valid but the primary is not one of them; then the first of them leads it. -/
theorem led_by_primary_iff (primary : AccountId) (session : List AccountId)
    (valid invalid : AccountSet) (actions : List Action)
    (h : plan primary session valid invalid = .ok actions) :
    let after := (SessionView.applyAll ⟨session, valid⟩ actions).session
    ((after = [] ∨ after.head? = some primary) ↔
        ¬ (session = [] ∧ valid.contains primary = false ∧ valid.accounts ≠ []))
      ∧ (session = [] ∧ valid.contains primary = false → after.head? = valid.accounts.head?) := by
  intro after
  have hhead : after.head? =
      if session = [] ∧ valid.contains primary = false then valid.accounts.head?
      else some primary := by
    rw [← head?_of_plan h, ← SessionView.applyAll_eq_enactAll (fresh_plan h)]
  refine ⟨?_, fun hboth => hhead.trans (if_pos hboth)⟩
  rw [← List.head?_eq_none_iff, hhead]
  split
  · next hboth =>
    obtain ⟨hsession, hvalid⟩ := hboth
    have hother : valid.accounts.head? ≠ some primary := by
      intro hprimary
      have hmem := Catalog.mem_accounts.1 (List.mem_of_mem_head? hprimary)
      rw [hvalid] at hmem
      cases hmem
    simp [hsession, hvalid, hother]
  · next hnot =>
    exact iff_of_true (.inr rfl) fun hall => hnot ⟨hall.1, hall.2.1⟩

/-- The primary is back at the head of a session that another account led. -/
theorem led_by_primary_rebuilt :
    let valid : AccountSet := .ofAccounts [⟨"z"⟩, ⟨"a"⟩]
    let actions : List Action := [.logoutAll, .merge ⟨"z"⟩, .merge ⟨"a"⟩]
    let after := (SessionView.applyAll ⟨[⟨"a"⟩, ⟨"z"⟩], valid⟩ actions).session
    plan ⟨"z"⟩ [⟨"a"⟩, ⟨"z"⟩] valid Catalog.empty = .ok actions
      ∧ (after = [] ∨ after.head? = some ⟨"z"⟩) := by
  intro valid actions after
  have hplan : plan ⟨"z"⟩ [⟨"a"⟩, ⟨"z"⟩] valid Catalog.empty = .ok actions := rfl
  have hiff := (led_by_primary_iff ⟨"z"⟩ [⟨"a"⟩, ⟨"z"⟩] valid Catalog.empty actions hplan).1
  exact ⟨hplan, hiff.2 fun hall => List.cons_ne_nil _ _ hall.1⟩

/-- A plan does not always leave the session empty or led by the primary: the session is empty, the
primary is not valid and another account is, which then leads the session. -/
theorem led_by_other_after_plan :
    let valid : AccountSet := .ofAccounts [⟨"x"⟩]
    let actions : List Action := [.merge ⟨"x"⟩]
    let after := (SessionView.applyAll ⟨[], valid⟩ actions).session
    plan ⟨"p"⟩ [] valid Catalog.empty = .ok actions
      ∧ ¬ (after = [] ∨ after.head? = some ⟨"p"⟩) := by
  intro valid actions after
  exact ⟨rfl, by decide⟩

end SessionSync
