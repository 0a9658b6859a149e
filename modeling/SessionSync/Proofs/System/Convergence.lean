import SessionSync.Proofs.Pass.Planning
import SessionSync.Proofs.System.Carrying
import SessionSync.Proofs.System.Gathering

/-!
# One pass is enough

A pass gathers its answers, the agent is told a plan, and the worker carries it out. After that the
session is as it should be, and another pass finds nothing to change: what it would adopt is noted
already.

* `Resolved` — the moment at which the plan has been told; `goes_startPass` finds it in every run.
* `PassOver` — what a pass and the worker have come to when nothing is due.
* `one_pass_converges` — both passes in one statement.
-/

namespace SessionSync

open Coordinator

/-! ## The plan for a system -/

namespace System

/-- The accounts that hold credentials that work. -/
def valid (v : Server) (s : System) : AccountSet :=
  .ofAccounts (s.store.accounts.filter fun a => v.works a)

/-- The accounts that hold credentials that do not work. -/
def invalid (v : Server) (s : System) : AccountSet :=
  .ofAccounts (s.store.accounts.filter fun a => !v.works a)

theorem contains_valid {v : Server} {s : System} {a : AccountId} :
    (s.valid v).contains a = true ↔ s.store.holds a = true ∧ v.works a = true := by
  rw [valid, AccountSet.contains_ofAccounts, List.mem_filter, Store.mem_accounts]

/-- The plan that a pass comes to. -/
def planned (v : Server) (s : System) (primary : AccountId) : Except PlanError (List Action) :=
  plan primary s.session (s.valid v) (s.invalid v)

end System

section

variable {v : Server} {s t u d : System} {primary : AccountId} {actions : List Action}

theorem dispatched_of_fits {w : Answers} (fits : v.Fits w)
    (reads : accountsOfAnswer w.list = .ok s.session) (signedIn : s.primary = some primary)
    (planned : s.planned v primary = .ok actions) :
    dispatched s.surroundings w = actions.map .perform := by
  have hworks : w.works = v.works := funext fits.works
  have hvalid : workingAccounts s.surroundings w = s.valid v := by
    rw [workingAccounts, hworks]
    rfl
  have hinvalid : failingAccounts s.surroundings w = s.invalid v := by
    rw [failingAccounts, hworks]
    rfl
  unfold System.planned at planned
  unfold dispatched
  rw [reads, hvalid, hinvalid, show s.surroundings.primary = some primary from signedIn]
  dsimp only
  rw [planned]

/-! ## The plan is told -/

/-- A pass in which the agent has just been told the plan. -/
structure Resolved (s : System) (actions : List Action) (d : System) : Prop where
  coherent : Coherent d.coordinator
  idle : d.coordinator.state.started = false
  primary : d.primary = s.primary
  session : d.session = s.session
  calls : d.calls = s.calls
  waits : Waits d
  queue : d.worker.queue = queueOf actions
  tokens : ∀ a, d.store.tokenOf a = s.store.tokenOf a
  noted : ∀ a place, .adopt a place ∈ actions → d.store.Noted a
  pending : (∀ a place, .adopt a place ∈ actions → s.store.Noted a) →
    d.store.pending = s.store.pending

theorem resolved_of_decided (h : Decided v s d) (worker : s.worker = {})
    (signedIn : s.primary = some primary) (planned : s.planned v primary = .ok actions) :
    Resolved s actions d := by
  obtain ⟨now, w, e, hstill, hdue, hcoherent, hidle, hfits, hreads, rfl⟩ := h
  rw [dispatched_of_fits hfits hreads signedIn planned]
  have hworker : e.worker = {} := hstill.worker.trans worker
  have hwaits : Waits e := by
    refine ⟨?_, ?_⟩
    · rw [hworker]
    · rw [hworker, hdue]
      rfl
  have htold := instructed_foldl hwaits now actions
  refine ⟨?_, ?_, htold.primary.trans hstill.primary, htold.session.trans hstill.session,
    htold.calls.trans hstill.calls, htold.waits, ?_, ?_, ?_, ?_⟩
  · rw [htold.coordinator]
    exact hcoherent
  · rw [htold.coordinator]
    exact hidle
  · rw [htold.queue, hworker]
    rfl
  · intro a
    rw [← hstill.store.tokens, Store.tokenOf, Store.tokenOf, htold.held]
  · intro a place hmem
    exact htold.noted a (.inr ⟨place, hmem⟩)
  · intro hall
    rw [htold.store fun a place hmem => hstill.store.noted (hall a place hmem)]
    exact hstill.store.pending

/-- The worker then carries the plan out. -/
theorem carrying_of_resolved (h : Resolved s actions d)
    (planned : s.planned v primary = .ok actions) :
    Carrying v d (actions.foldl onSession s.session) d := by
  refine ⟨.refl _, rfl, rfl, [], actions, ?_, h.queue, ?_, ?_⟩
  · rw [h.waits.stage, h.waits.due]
    exact .nothing
  · intro a ha
    have hvalid := System.contains_valid.1 (valid_of_merge_mem planned ha)
    rw [Store.holds_eq, h.tokens, ← Store.holds_eq]
    refine ⟨hvalid.1, ?_⟩
    have hworks := hvalid.2
    unfold Server.works at hworks
    exact (Bool.and_eq_true_iff.1 hworks).1
  · rw [List.nil_append, h.session]

/-- In the course of a pass answers are gathered, and then the plan has been told. -/
theorem goes_startPass (coherent : Coherent s.coordinator) (atRest : s.AtRest)
    (signedIn : s.primary = some primary) (planned : s.planned v primary = .ok actions)
    (goes : v.Goes s.startPass t) :
    (∃ f p, Gathering v s f p t) ∨ ∃ d, Resolved s actions d ∧ v.Goes d t := by
  rcases goes_gathering goes (gathering_start v coherent atRest) with hgathers | ⟨d, hd, hgoes⟩
  · exact .inl ⟨_, _, hgathers⟩
  · exact .inr ⟨d, resolved_of_decided hd atRest.worker signedIn planned, hgoes⟩

/-- Every pass comes to an end, and the worker to the end of what it leads to. -/
theorem ends_startPass (coherent : Coherent s.coordinator) (atRest : s.AtRest)
    (signedIn : s.primary = some primary) (planned : s.planned v primary = .ok actions)
    (proper : ∀ a ∈ s.session, a.Proper) (nodup : s.session.Nodup) : v.Ends s.startPass := by
  refine ends_gathering proper nodup (fun d hd => ?_) (gathering_start v coherent atRest)
  have hresolved := resolved_of_decided hd atRest.worker signedIn planned
  exact ends_carrying (carrying_of_resolved hresolved planned)

/-! ## When nothing is due any more -/

/-- What a pass has come to when the worker has made all changes. -/
structure PassOver (s : System) (actions : List Action) (t : System) : Prop where
  coherent : Coherent t.coordinator
  atRest : t.AtRest
  primary : t.primary = s.primary
  session : t.session = actions.foldl onSession s.session
  tokens : ∀ a, t.store.tokenOf a = s.store.tokenOf a
  noted : ∀ a place, .adopt a place ∈ actions → t.store.Noted a

theorem pass_over (coherent : Coherent s.coordinator) (atRest : s.AtRest)
    (signedIn : s.primary = some primary) (planned : s.planned v primary = .ok actions)
    (goes : v.Goes s.startPass t) (due : t.due = []) : PassOver s actions t := by
  rcases goes_startPass coherent atRest signedIn planned goes with ⟨f, p, hgathers⟩ | ⟨d, hd, hgoes⟩
  · exact absurd due hgathers.due_ne_nil
  · have hcarrying := goes_carrying hgoes (carrying_of_resolved hd planned)
    obtain ⟨hworker, hsession⟩ := carried_out hcarrying due
    refine ⟨?_, ⟨?_, hworker, due⟩, hcarrying.primary.trans hd.primary, hsession, fun a => ?_,
      fun a place hmem => hcarrying.store.noted (hd.noted a place hmem)⟩
    · rw [hcarrying.coordinator]
      exact hd.coherent
    · rw [hcarrying.coordinator]
      exact hd.idle
    · exact (hcarrying.store.tokens a).trans (hd.tokens a)

/-- The session after a pass is the one that its plan leads to. -/
theorem PassOver.session_eq (h : PassOver s actions t)
    (planned : s.planned v primary = .ok actions) :
    t.session = (SessionView.enactAll ⟨s.session, s.valid v⟩ actions).session := by
  rw [h.session, ← SessionView.applyAll_eq_enactAll (fresh_plan planned), session_applyAll]

theorem PassOver.accounts (h : PassOver s actions t) : t.store.accounts = s.store.accounts := by
  apply Store.accounts_congr
  intro a
  rw [Store.holds_eq, Store.holds_eq, h.tokens]

/-! ## A pass that finds nothing to change -/

/-- What stays as it is when a pass finds nothing to change. -/
structure Unchanged (s t : System) : Prop where
  calls : t.calls = s.calls
  tokens : ∀ a, t.store.tokenOf a = s.store.tokenOf a
  pending : t.store.pending = s.store.pending
  session : t.session = s.session

/-- A pass whose plan only adopts what is noted already changes nothing. -/
theorem unchanged_of_noted (coherent : Coherent s.coordinator) (atRest : s.AtRest)
    (signedIn : s.primary = some primary) (planned : s.planned v primary = .ok actions)
    (quiet : queueOf actions = [])
    (noted : ∀ a place, .adopt a place ∈ actions → s.store.Noted a)
    (goes : v.Goes s.startPass t) : Unchanged s t := by
  rcases goes_startPass coherent atRest signedIn planned goes with ⟨f, p, hgathers⟩ | ⟨d, hd, hgoes⟩
  · have hstill := hgathers.still
    exact ⟨hstill.calls, hstill.store.tokens, hstill.store.pending, hstill.session⟩
  · have hdue : d.due = [] := by
      rw [hd.waits.due, hd.queue, quiet]
      rfl
    rw [hgoes.eq_of_due_eq_nil hdue]
    exact ⟨hd.calls, hd.tokens, hd.pending noted, hd.session⟩

theorem queueOf_adoptionsOf (session : List AccountId) (valid invalid : AccountSet) :
    queueOf (adoptionsOf session valid invalid) = [] := by
  unfold queueOf
  rw [List.filterMap_eq_nil_iff]
  intro x hx
  obtain ⟨a, place, -, -, rfl⟩ := mem_adoptionsOf.1 hx
  rfl

/-- The plan of a pass after another one: what it adopts has been noted by then. -/
theorem planned_again (h : PassOver s actions t) (planned : s.planned v primary = .ok actions)
    (leader : s.session ≠ [] ∨ (s.valid v).contains primary = true ∨ (s.valid v).accounts = []) :
    ∃ more, t.planned v primary = .ok more ∧ queueOf more = []
      ∧ ∀ a place, .adopt a place ∈ more → t.store.Noted a := by
  have hconverged := converged_of_plan planned leader
  have hvalid : t.valid v = s.valid v := by rw [System.valid, System.valid, h.accounts]
  have hinvalid : t.invalid v = s.invalid v := by rw [System.invalid, System.invalid, h.accounts]
  refine ⟨adoptionsOf t.session (s.valid v) (s.invalid v), ?_, queueOf_adoptionsOf _ _ _, ?_⟩
  · rw [System.planned, hvalid, hinvalid]
    rw [h.session_eq planned]
    apply plan_of_present hconverged.led
    intro a ha
    exact hconverged.present a ((held_of_plan planned a).2 (.inl ha))
  · intro a place hmem
    obtain ⟨b, i, hi, hunknown, heq⟩ := mem_adoptionsOf.1 hmem
    cases heq
    rw [h.session_eq planned] at hi
    rcases hconverged.known a (List.mem_of_getElem? hi) with hheld | hfails
    · rcases (held_of_plan planned a).1 hheld with hworks | ⟨place', hadopted⟩
      · exact absurd (.inl hworks) hunknown
      · exact h.noted a place' hadopted
    · exact absurd (.inr hfails) hunknown

end

/-! ## Main result -/

/-- The credentials of an account are held and work. -/
def System.Validates (v : Server) (s : System) (a : AccountId) : Prop :=
  s.store.holds a = true ∧ v.works a = true

/-- With somebody to lead the session there is a plan. -/
theorem exists_planned {v : Server} {s : System} {primary : AccountId}
    (leader : s.Validates v primary ∨ s.session.head? = some primary
      ∨ (s.session = [] ∧ ∀ a, ¬ s.Validates v a)) :
    ∃ actions, s.planned v primary = .ok actions
      ∧ (s.session ≠ [] ∨ (s.valid v).contains primary = true ∨ (s.valid v).accounts = []) := by
  rcases leader with hworks | hled | ⟨hempty, hnone⟩
  · have hvalid := System.contains_valid.2 hworks
    obtain ⟨actions, hactions⟩ := exists_plan (.inl hvalid)
    exact ⟨actions, hactions, .inr (.inl hvalid)⟩
  · obtain ⟨actions, hactions⟩ := exists_plan (.inr (ledByOther_eq_false_iff.2 (.inr hled)))
    refine ⟨actions, hactions, .inl ?_⟩
    intro hempty
    rw [hempty] at hled
    cases hled
  · obtain ⟨actions, hactions⟩ := exists_plan (.inr (ledByOther_eq_false_iff.2 (.inl hempty)))
    refine ⟨actions, hactions, .inr (.inr ?_)⟩
    rw [List.eq_nil_iff_forall_not_mem]
    intro a ha
    exact hnone a (System.contains_valid.1 (Catalog.mem_accounts.1 ha))

/-- A pass is started where all is at rest, in the course of any run of the coordinator, and the
primary can lead the session: its credentials work, or it leads already, or there is nobody to lead.
Then every order of turns and answers comes to an end at which nothing is due. The session is then
empty or led by the primary, and every account whose credentials work is in it. Another pass comes
to its end as well; it asks for no change of the session, and the refresh tokens, the adoptions and
the session stay as they are. -/
theorem one_pass_converges (v : Server) (s : System) (past : List Moment) (primary : AccountId)
    (reached : s.coordinator = ({} : Coordinator).run past) (atRest : s.AtRest)
    (signedIn : s.primary = some primary)
    (held : ∀ a, s.store.holds a = true → a.Proper)
    (listed : ∀ a ∈ s.session, a.Proper) (nodup : s.session.Nodup)
    (leader : s.Validates v primary ∨ s.session.head? = some primary
      ∨ (s.session = [] ∧ ∀ a, ¬ s.Validates v a)) :
    v.Ends s.startPass ∧ ∀ t, v.Goes s.startPass t → t.due = [] →
      t.AtRest
        ∧ (t.session = [] ∨ t.session.head? = some primary)
        ∧ (∀ a, s.Validates v a → a ∈ t.session)
        ∧ v.Ends t.startPass
        ∧ ∀ u, v.Goes t.startPass u → Unchanged t u ∧ (u.due = [] → u.AtRest) := by
  have hcoherent : Coherent s.coordinator := by
    rw [reached]
    exact coherent_run past
  obtain ⟨actions, hplanned, hleader⟩ := exists_planned leader
  refine ⟨ends_startPass hcoherent atRest signedIn hplanned listed nodup, ?_⟩
  intro t ht hdue
  have hover := pass_over hcoherent atRest signedIn hplanned ht hdue
  have hsigned : t.primary = some primary := hover.primary.trans signedIn
  have hconverged := converged_of_plan hplanned hleader
  obtain ⟨hnodup, hsession⟩ := session_of_plan hplanned nodup
  obtain ⟨more, hmore, hquiet, hnoted⟩ := planned_again hover hplanned hleader
  rw [← hover.session_eq hplanned] at hnodup hsession
  have hproper : ∀ a ∈ t.session, a.Proper := by
    intro a ha
    rcases hsession a ha with hmem | hvalid
    · exact listed a hmem
    · exact held a (System.contains_valid.1 hvalid).1
  refine ⟨hover.atRest, ?_, ?_, ends_startPass hover.coherent hover.atRest hsigned hmore hproper
    hnodup, ?_⟩
  · rw [hover.session_eq hplanned]
    exact ledByOther_eq_false_iff.1 hconverged.led
  · intro a ha
    rw [hover.session_eq hplanned]
    exact hconverged.present a ((held_of_plan hplanned a).2 (.inl (System.contains_valid.2 ha)))
  · intro u hu
    refine ⟨unchanged_of_noted hover.coherent hover.atRest hsigned hmore hquiet hnoted hu, ?_⟩
    intro hdue'
    exact (pass_over hover.coherent hover.atRest hsigned hmore hu hdue').atRest

/-- The primary leads a session that a stranger has joined; one of two other accounts works. -/
theorem converged_with_stranger :
    let v : Server :=
      { ownerOf := fun token => some ⟨token⟩
        grants := fun a => a ≠ ⟨"b"⟩
        confirms := fun _ => true
        token_of_grants := fun a _ => ⟨a.text, rfl⟩ }
    let s : System :=
      { coordinator := {}
        worker := {}
        store := ⟨.ofList [(⟨"a"⟩, .new "ra" 0), (⟨"b"⟩, .new "rb" 0), (⟨"z"⟩, .new "rz" 0)], []⟩
        disk := none
        primary := some ⟨"z"⟩
        session := [⟨"z"⟩, ⟨"c"⟩]
        due := []
        calls := [] }
    ∃ t, v.Goes s.startPass t ∧ t.AtRest
      ∧ (t.session = [] ∨ t.session.head? = some ⟨"z"⟩) ∧ ⟨"a"⟩ ∈ t.session
      ∧ ∃ u, v.Goes t.startPass u ∧ u.AtRest ∧ Unchanged t u := by
  intro v s
  have hheld : ∀ a, s.store.holds a = true → a.Proper := by
    have hall : ∀ a ∈ s.store.accounts, a.Proper := by decide +kernel
    intro a ha
    exact hall a (Store.mem_accounts.2 ha)
  have hlisted : ∀ a ∈ s.session, a.Proper := by decide +kernel
  have hworks : ∀ a, a = ⟨"a"⟩ ∨ a = ⟨"z"⟩ → s.Validates v a := by
    rintro a (rfl | rfl) <;> exact ⟨by decide +kernel, by decide +kernel⟩
  obtain ⟨hends, hall⟩ := one_pass_converges v s [] ⟨"z"⟩ rfl ⟨rfl, rfl, rfl⟩ rfl hheld hlisted
    (by decide) (.inl (hworks _ (.inr rfl)))
  obtain ⟨t, ht, hdue⟩ := hends.exists_rest
  obtain ⟨hrest, hled, hpresent, hagain, hunchanged⟩ := hall t ht hdue
  obtain ⟨u, hu, hudue⟩ := hagain.exists_rest
  obtain ⟨hsame, hurest⟩ := hunchanged u hu
  exact ⟨t, ht, hrest, hled, hpresent _ (hworks _ (.inl rfl)), u, hu, hurest hudue, hsame⟩

end SessionSync
