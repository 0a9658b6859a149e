import Mathlib.Data.List.Count
import Mathlib.Data.List.Nodup
import SessionSync.Proofs.Store.Operations
import SessionSync.Proofs.Supervision.Delivery

/-!
# Which revocations reach the agent

When the store takes over the changes in the account file it announces all of them at once, and the
mailbox of the listening task keeps only so many. What is kept is handled once, in the order in
which it was announced, and a removal begins for each revocation; what is not kept is never heard
of.

* `Goes.sublist`, `Goes.complete` — what a run makes of announcements that come one by one.
* `heard_after_sync` — what comes of all that is announced at once.
* `first_revocation_unheard` — with one account too many, the first one is never removed.
-/

namespace SessionSync

/-! ## Announcements -/

namespace EventLoop

variable {capacity : Nat} {d : EventLoop}

theorem foldl_announceToken (d : EventLoop) (sent : List TokenEvent) :
    sent.foldl announceToken d =
      { d with listeners := d.listeners.map fun l => (l.1, l.2.postAll sent) } := by
  induction sent generalizing d with
  | nil =>
    have hsame : (d.listeners.map fun l => (l.1, l.2.postAll [])) = d.listeners :=
      List.map_id d.listeners
    rw [hsame]
    rfl
  | cons e sent ih =>
    rw [List.foldl_cons, ih, announceToken]
    simp only [List.map_map]
    rfl

/-- Of what is announced and what is unread, the last announcements are kept. -/
theorem Serving.announce (h : d.Serving capacity) (sent : List TokenEvent) :
    (sent.foldl announceToken d).Serving capacity
      ∧ (sent.foldl announceToken d).queue = d.queue
      ∧ (sent.foldl announceToken d).unread = (d.unread ++ sent).rtake capacity := by
  obtain ⟨lasting, ⟨task, mail, listener, listeners, rfl, within⟩, running, queued⟩ := h
  have hunread : d.unread = mail.waiting := by
    rw [unread, listeners]
    exact List.append_nil _
  rw [foldl_announceToken, listeners]
  refine ⟨⟨lasting, ⟨task, mail.postAll sent, listener, rfl, mail.capacity_postAll sent,
    within.postAll sent⟩, running, queued⟩, rfl, ?_⟩
  rw [hunread, ← Mailbox.waiting_postAll within]
  exact List.append_nil _

end EventLoop

namespace Lifecycle

variable {capacity : Nat} {o q r : Lifecycle} {sent : List TokenEvent}

theorem serving_announce (h : o.eventLoop.Serving capacity) (sent : List TokenEvent) :
    (o.announce sent).eventLoop.Serving capacity :=
  (h.announce sent).1

theorem onTheWay_announce (h : o.eventLoop.Serving capacity) (sent : List TokenEvent) :
    (o.announce sent).onTheWay = o.eventLoop.queue.filter (·.fromStore) ++
      ((o.eventLoop.unread ++ sent).rtake capacity).map .ofToken := by
  obtain ⟨-, hqueue, hunread⟩ := h.announce sent
  rw [onTheWay, ← hqueue, ← hunread]
  rfl

/-! ## Runs -/

/-- The listening task, the loop and the rest go on as long as they like. -/
theorem Goes.serving (goes : Goes capacity o sent q) (h : o.eventLoop.Serving capacity) :
    q.eventLoop.Serving capacity := by
  induction goes with
  | done => exact h
  | leads step _ ih => exact ih (step.continues h).serving
  | intervenes step _ ih => exact ih (step.continues h).serving
  | announces e _ ih => exact ih (serving_announce h [e])

/-- A removal is ordered or begun for every revocation that is heard. -/
theorem Goes.removes (goes : Goes capacity o sent q) (h : o.eventLoop.Serving capacity)
    (a : AccountId) :
    (q.begun ++ q.ordered).count a + o.heard.count (.revoked a) =
      (o.begun ++ o.ordered).count a + q.heard.count (.revoked a) := by
  induction goes with
  | done => rfl
  | leads step _ ih =>
    have := (step.continues h).removes a
    have := ih (step.continues h).serving
    omega
  | intervenes step _ ih =>
    have := (step.continues h).removes a
    have := ih (step.continues h).serving
    omega
  | announces e _ ih => exact ih (serving_announce h [e])

/-- When nothing more is announced, everything that is on its way stays on its way or is heard. -/
theorem Goes.continues (goes : Goes capacity o [] q) (h : o.eventLoop.Serving capacity) :
    Continues capacity o q := by
  generalize hsent : ([] : List TokenEvent) = sent at goes
  induction goes with
  | done => exact .refl h
  | leads step _ ih => exact (step.continues h).trans (ih (step.continues h).serving hsent)
  | intervenes step _ ih => exact (step.continues h).trans (ih (step.continues h).serving hsent)
  | announces => cases hsent

/-- Whatever is announced meanwhile, nothing is heard twice or out of its order. -/
theorem Goes.sublist (goes : Goes capacity o sent q) (h : o.eventLoop.Serving capacity) :
    (q.heard ++ q.onTheWay).Sublist (o.heard ++ o.onTheWay ++ sent.map .ofToken) := by
  induction goes with
  | done => simp
  | leads step _ ih =>
    rw [← (step.continues h).passes]
    exact ih (step.continues h).serving
  | intervenes step _ ih =>
    rw [← (step.continues h).passes]
    exact ih (step.continues h).serving
  | @announces o q sent e _ ih =>
    have hkept : ((o.announce [e]).onTheWay).Sublist (o.onTheWay ++ [.ofToken e]) := by
      rw [onTheWay_announce h, onTheWay, List.append_assoc]
      have hlast :
          ((o.eventLoop.unread ++ [e]).rtake capacity).Sublist (o.eventLoop.unread ++ [e]) :=
        List.drop_sublist _ _
      have hmap := hlast.map SupervisorEvent.ofToken
      rw [List.map_append] at hmap
      exact hmap.append_left _
    refine (ih (serving_announce h [e])).trans ?_
    rw [List.map_cons, List.append_cons, List.append_assoc o.heard o.onTheWay]
    exact (hkept.append_left o.heard).append_right _

/-- If there is room for all that is announced, all of it is heard or on its way. -/
theorem Goes.complete (goes : Goes capacity o sent q) (h : o.eventLoop.Serving capacity)
    (room : o.eventLoop.unread.length + sent.length ≤ capacity) :
    q.heard ++ q.onTheWay = o.heard ++ o.onTheWay ++ sent.map .ofToken := by
  induction goes with
  | done => simp
  | leads step _ ih =>
    have hc := step.continues h
    rw [← hc.passes]
    exact ih hc.serving ((Nat.add_le_add_right hc.fewer _).trans room)
  | intervenes step _ ih =>
    have hc := step.continues h
    rw [← hc.passes]
    exact ih hc.serving ((Nat.add_le_add_right hc.fewer _).trans room)
  | @announces o q sent e _ ih =>
    obtain ⟨hserving, -, hunread⟩ := h.announce [e]
    have hroom : (o.eventLoop.unread ++ [e]).length ≤ capacity := by
      simp at room ⊢
      omega
    rw [rtake_of_length_le hroom] at hunread
    have hrest : (o.announce [e]).eventLoop.unread.length + sent.length ≤ capacity := by
      show ([e].foldl EventLoop.announceToken o.eventLoop).unread.length + _ ≤ _
      rw [hunread]
      simp at room ⊢
      omega
    rw [ih hserving hrest, onTheWay_announce h, rtake_of_length_le hroom]
    simp [heard, onTheWay, announce]

/-! ## Coming to an end -/

/-- How much the mailbox of the loop holds. -/
def bellMail (d : EventLoop) : Nat :=
  match d.loop with
  | .running mail => mail.deliveries.length
  | _ => 0

/-- How often something is taken up at most. What is in the mailbox of a listening task may be put
into the queue, handled, and begun. -/
def left (o : Lifecycle) : Nat :=
  3 * (o.eventLoop.listeners.flatMap (·.2.deliveries)).length + 2 * o.eventLoop.queue.length +
    2 * bellMail o.eventLoop + o.ordered.length

theorem left_handle {eventLoop : EventLoop} (h : eventLoop.Serving capacity) {e : SupervisorEvent}
    (stays : e ≠ .signedOut) :
    ({ o with eventLoop }.handle capacity e).left ≤ { o with eventLoop }.left + 1 := by
  have hh := handles (o := { o with eventLoop }) h stays
  have hone : e.revoked?.toList.length ≤ 1 := by cases e <;> simp [SupervisorEvent.revoked?]
  simp only [left, bellMail, hh.queue, hh.listeners, hh.loop, hh.ordered, List.length_append]
  omega

theorem left_leads (h : o.eventLoop.Serving capacity) (step : Leads capacity o q) :
    q.left < o.left := by
  cases step with
  | forwards task takes =>
    obtain ⟨own, mail, bell, listeners, loop⟩ := h.exists_mail
    obtain ⟨x, rest, htake, rfl⟩ := EventLoop.forwardOne?_eq_some listeners loop takes
    have hone : (EventLoop.passedOn x).length ≤ 1 := by cases x <;> simp [EventLoop.passedOn]
    simp only [left, bellMail, listeners, Mailbox.deliveries_take htake, List.flatMap_cons,
      List.flatMap_nil, List.append_nil, List.length_cons, List.length_append]
    omega
  | @handles eventLoop e takes =>
    obtain ⟨rest, hqueue, rfl⟩ := EventLoop.takeQueued?_eq_some takes
    obtain ⟨hserving, hstays⟩ := h.popped hqueue
    have hless := left_handle (o := o) hserving hstays
    simp only [left, bellMail, hqueue, List.length_cons] at hless ⊢
    omega
  | @hears eventLoop e takes =>
    obtain ⟨own, mail, bell, -, loop⟩ := h.exists_mail
    obtain ⟨rest, htake, rfl⟩ := EventLoop.takeAnnounced?_eq_some loop takes
    obtain ⟨hserving, hquiet⟩ := h.rung loop htake
    obtain ⟨a, rfl⟩ := hquiet e rfl
    have hless := left_handle (o := o) hserving (SupervisorEvent.ofProfile_signedIn_ne a)
    simp only [left, bellMail, loop, Mailbox.deliveries_take htake, List.length_cons] at hless ⊢
    omega
  | @misses eventLoop n takes =>
    obtain ⟨own, mail, bell, -, loop⟩ := h.exists_mail
    obtain ⟨rest, htake, rfl⟩ := EventLoop.takeAnnounced?_eq_some loop takes
    simp only [left, bellMail, loop, Mailbox.deliveries_take htake, List.length_cons]
    omega
  | begins before after a s ordered =>
    simp [left, happen, ordered]

/-- Whatever is left can be taken up. -/
theorem free (h : o.eventLoop.Serving capacity) : o.Settled ∨ ∃ q, Leads capacity o q := by
  obtain ⟨own, mail, bell, listeners, loop⟩ := h.exists_mail
  by_cases hunread : o.eventLoop.unread = []
  · cases hqueue : o.eventLoop.queue with
    | cons e rest => exact .inr ⟨_, .handles (by rw [EventLoop.takeQueued?, loop, hqueue])⟩
    | nil =>
      cases hordered : o.ordered with
      | cons a rest => exact .inr ⟨_, .begins [] rest a ⟨[], none⟩ hordered⟩
      | nil => exact .inl ⟨hunread, hqueue, hordered⟩
  · have hmail : mail.waiting ≠ [] := by simpa [EventLoop.unread, listeners] using hunread
    obtain ⟨x, rest, htake⟩ := Mailbox.exists_take hmail
    obtain ⟨eventLoop, htakes⟩ := EventLoop.exists_forwardOne? listeners htake
    exact .inr ⟨_, .forwards own htakes⟩

/-- Everything comes to an end. -/
theorem ends (h : o.eventLoop.Serving capacity) : Ends capacity o := by
  induction hleft : o.left using Nat.strong_induction_on generalizing o with
  | h n ih =>
    subst hleft
    exact .intro (free h) fun q step => ih q.left (left_leads h step) (step.continues h).serving rfl

end Lifecycle

namespace Lifecycle

variable {o q : Lifecycle} {due : List SupervisorEvent}

theorem Settled.onTheWay (settled : q.Settled) : q.onTheWay = [] := by
  rw [Lifecycle.onTheWay, settled.unread, settled.queue]
  rfl

/-- When all is settled, a removal has begun for every revocation that was heard. -/
theorem Settled.count_begun (settled : q.Settled) (heard : q.heard = o.heard ++ due)
    (removes : ∀ a, (q.begun ++ q.ordered).count a + o.heard.count (.revoked a) =
      (o.begun ++ o.ordered).count a + q.heard.count (.revoked a)) (a : AccountId) :
    q.begun.count a = o.begun.count a + o.ordered.count a + due.count (.revoked a) := by
  have hcounts := removes a
  rw [settled.ordered, List.append_nil, heard, List.count_append, List.count_append] at hcounts
  omega

end Lifecycle

theorem SupervisorEvent.count_map_ofToken (sent : List TokenEvent) (a : AccountId) :
    (sent.map ofToken).count (.revoked a) = sent.count (.revoked a) := by
  have hinjective : Function.Injective ofToken := fun x y h => by
    cases x <;> cases y <;> cases h <;> rfl
  exact List.count_map_of_injective sent ofToken hinjective (.revoked a)

/-! ## What a reading of the account file announces -/

namespace Store

/-- The store holds an account that the account file does not. -/
def MissesOnFile (s : Store) (disk : Disk) (a : AccountId) : Prop :=
  s.holds a = true ∧ ∃ book, readBook disk = .ok book ∧ (catalogOf book).contains a = false

/-- Every account that is held and missing on file is revoked once, and no other one is. -/
theorem count_revoked_sync (s : Store) (disk : Disk) (a : AccountId) :
    (s.MissesOnFile disk a → (s.sync disk).events.count (.revoked a) = 1)
      ∧ (¬ s.MissesOnFile disk a → (s.sync disk).events.count (.revoked a) = 0) := by
  unfold sync MissesOnFile
  cases hbook : readBook disk with
  | error e =>
    refine ⟨?_, fun _ => rfl⟩
    rintro ⟨-, book, hread, -⟩
    cases hread
  | ok book =>
    dsimp only
    generalize (catalogOf book).toList.filter _ = news
    have hnews : (news.map fun e => TokenEvent.available e.1).count (.revoked a) = 0 := by
      simp [List.count_eq_zero]
    have hinjective : Function.Injective TokenEvent.revoked := fun _ _ heq => by
      cases heq
      rfl
    rw [List.count_append, hnews, Nat.add_zero, List.count_map_of_injective _ _ hinjective]
    have hmem : a ∈ s.accounts.filter (fun a => !(catalogOf book).contains a) ↔
        s.holds a = true ∧ ∃ book', (.ok book : Except FileError AccountBook) = .ok book'
          ∧ (catalogOf book').contains a = false := by
      rw [List.mem_filter, accounts, Catalog.mem_accounts]
      simp [holds]
    rw [← hmem]
    have hnodup := s.held.nodup_accounts.filter fun a => !(catalogOf book).contains a
    exact ⟨List.nodup_iff_count_eq_one.1 hnodup a, List.count_eq_zero_of_not_mem⟩

end Store

/-! ## Main result -/

namespace Lifecycle

variable {o : Lifecycle}

/-- The supervisor listens to the store with a mailbox that keeps 64 announcements, its loop runs,
and nobody signs out. The store takes over the changes in the account file, which it announces at
once: each account that it held and that is missing on file is revoked once. Whatever goes on then
in whatever order, of these announcements and those still unread exactly the last 64 are handled,
each once and in the order in which they were announced, and removals begin for exactly the
revocations that are handled; all this comes to an end. The same if the listening task takes some
announcements while others, of whatever kind, are still being made: nothing is handled twice or out
of its order, and if there is room for all, a removal begins exactly once for each revocation. -/
theorem heard_after_sync (serving : o.eventLoop.Serving 64) (store : Store) (disk : Disk) :
    let sent := (store.sync disk).events
    let due := o.eventLoop.queue.filter (·.fromStore) ++
      ((o.eventLoop.unread ++ sent).rtake 64).map .ofToken
    (∀ a, (store.MissesOnFile disk a → sent.count (.revoked a) = 1)
        ∧ (¬ store.MissesOnFile disk a → sent.count (.revoked a) = 0))
      ∧ (∀ q, Goes 64 (o.announce sent) [] q →
        q.heard <+: o.heard ++ due ∧ Ends 64 q
          ∧ (q.Settled → q.heard = o.heard ++ due
            ∧ ∀ a, q.begun.count a =
              o.begun.count a + o.ordered.count a + due.count (.revoked a)))
      ∧ ∀ all q, Goes 64 o all q →
        q.heard.Sublist (o.heard ++ o.onTheWay ++ all.map .ofToken)
          ∧ (q.Settled → o.eventLoop.unread.length + all.length ≤ 64 →
            q.heard = o.heard ++ o.onTheWay ++ all.map .ofToken
            ∧ ∀ a, q.begun.count a = o.begun.count a + o.ordered.count a +
              o.onTheWay.count (.revoked a) + all.count (.revoked a)) := by
  intro sent due
  refine ⟨store.count_revoked_sync disk, fun q goes => ?_, fun all q goes => ?_⟩
  · have hserving := serving_announce serving sent
    have hpasses : q.heard ++ q.onTheWay = o.heard ++ due := by
      rw [(goes.continues hserving).passes, onTheWay_announce serving]
      rfl
    refine ⟨⟨_, hpasses⟩, ends (goes.serving hserving), fun settled => ?_⟩
    have hheard : q.heard = o.heard ++ due := by rw [← hpasses, settled.onTheWay, List.append_nil]
    exact ⟨hheard, settled.count_begun hheard (goes.removes hserving)⟩
  · refine ⟨(List.sublist_append_left _ _).trans (goes.sublist serving), fun settled room => ?_⟩
    have hheard := goes.complete serving room
    rw [settled.onTheWay, List.append_nil, List.append_assoc] at hheard
    refine ⟨hheard.trans (List.append_assoc _ _ _).symm, fun a => ?_⟩
    rw [settled.count_begun hheard (goes.removes serving) a, List.count_append,
      SupervisorEvent.count_map_ofToken, ← Nat.add_assoc]

/-! ## An account too many -/

/-- The lifecycle when somebody is signed in and the loop begins. -/
def opened (periodic : Bool) (a : AccountId) : Lifecycle :=
  { eventLoop := (EventLoop.new 64 periodic ⟨some a⟩).1.startLoop.1 }

/-- Somebody who is signed in is served from the start. -/
theorem serving_opened (periodic : Bool) (a : AccountId) :
    (opened periodic a).eventLoop.Serving 64 := by
  have hempty : (Mailbox.empty 64 : Mailbox TokenEvent).WithinCapacity :=
    Mailbox.withinCapacity_empty (by decide)
  cases periodic <;> exact ⟨rfl, ⟨0, .empty 64, rfl, rfl, rfl, hempty⟩,
    ⟨.empty Profile.announcementsKept, rfl, nofun⟩, List.not_mem_nil⟩

theorem Ends.exists_settled {capacity : Nat} {o : Lifecycle} (ends : Ends capacity o) :
    ∃ q, Goes capacity o [] q ∧ q.Settled := by
  induction ends with
  | intro free _ ih =>
    rcases free with settled | ⟨q, step⟩
    · exact ⟨_, .done, settled⟩
    · obtain ⟨r, goes, settled⟩ := ih q step
      exact ⟨r, .leads step goes, settled⟩

/-- A store that holds so many accounts. -/
def crowd (n : Nat) : Store :=
  ⟨.ofList ((List.range n).map fun k => (⟨toString k⟩, .new "r" 0)), []⟩

theorem misses_crowd {n : Nat} {a : AccountId} (holds : (crowd n).holds a = true) :
    (crowd n).MissesOnFile (some []) a :=
  ⟨holds, .empty, rfl, rfl⟩

/-- Of two accounts that are missing in an empty directory, both are removed. -/
theorem all_removed_of_two :
    ∃ q, Goes 64 ((opened true ⟨"p"⟩).announce ((crowd 2).sync (some [])).events) [] q
      ∧ q.Settled ∧ q.begun.count ⟨"0"⟩ = 1 ∧ q.begun.count ⟨"1"⟩ = 1 := by
  have hserving := serving_opened true ⟨"p"⟩
  obtain ⟨-, hheard, -⟩ := heard_after_sync hserving (crowd 2) (some [])
  have hannounced := serving_announce hserving ((crowd 2).sync (some [])).events
  obtain ⟨q, goes, settled⟩ := (ends hannounced).exists_settled
  obtain ⟨-, -, hcounts⟩ := hheard q goes
  refine ⟨q, goes, settled, ((hcounts settled).2 _).trans ?_, ((hcounts settled).2 _).trans ?_⟩
  · decide +kernel
  · decide +kernel

/-- A revocation that is neither on its way nor was handled before is never handled. -/
theorem Goes.unheard {capacity : Nat} {o q : Lifecycle} {a : AccountId} {sent : List TokenEvent}
    (goes : Goes capacity (o.announce sent) [] q) (h : o.eventLoop.Serving capacity)
    (fresh : .revoked a ∉ o.handled) (unordered : a ∉ o.begun ++ o.ordered)
    (lost : .revoked a ∉ (o.announce sent).onTheWay) : .revoked a ∉ q.handled ∧ a ∉ q.begun := by
  have hannounced := serving_announce h sent
  have hpasses : q.heard ++ q.onTheWay = o.heard ++ (o.announce sent).onTheWay :=
    (goes.continues hannounced).passes
  have hbefore : .revoked a ∉ o.heard := fun hmem => fresh (List.mem_filter.1 hmem).1
  have hunheard : .revoked a ∉ q.heard := by
    intro hmem
    have := hpasses ▸ List.mem_append_left q.onTheWay hmem
    exact (List.mem_append.1 this).elim hbefore lost
  refine ⟨fun hmem => hunheard (List.mem_filter.2 ⟨hmem, rfl⟩), fun hmem => ?_⟩
  have hcounts : (q.begun ++ q.ordered).count a + o.heard.count (.revoked a) =
      (o.begun ++ o.ordered).count a + q.heard.count (.revoked a) := goes.removes hannounced a
  rw [List.count_eq_zero_of_not_mem hunheard, List.count_eq_zero_of_not_mem hbefore,
    List.count_eq_zero_of_not_mem unordered] at hcounts
  exact List.count_eq_zero.1 hcounts (List.mem_append_left q.ordered hmem)

/-- With 65 accounts that are missing, the revocation of the first one is never handled, and no
removal of it ever begins. -/
theorem first_revocation_unheard :
    (crowd 65).MissesOnFile (some []) ⟨"0"⟩
      ∧ (opened true ⟨"p"⟩).eventLoop.Serving 64
      ∧ (∃ q, Goes 64 ((opened true ⟨"p"⟩).announce ((crowd 65).sync (some [])).events) [] q
        ∧ q.Settled)
      ∧ ∀ q, Goes 64 ((opened true ⟨"p"⟩).announce ((crowd 65).sync (some [])).events) [] q →
        .revoked ⟨"0"⟩ ∉ q.handled ∧ ⟨"0"⟩ ∉ q.begun := by
  have hserving := serving_opened true ⟨"p"⟩
  have hlost : .revoked ⟨"0"⟩ ∉
      ((opened true ⟨"p"⟩).announce ((crowd 65).sync (some [])).events).onTheWay := by
    rw [onTheWay_announce hserving]
    decide +kernel
  refine ⟨misses_crowd (by decide +kernel), hserving,
    (ends (serving_announce hserving _)).exists_settled, fun q goes => ?_⟩
  exact goes.unheard hserving List.not_mem_nil List.not_mem_nil hlost

end Lifecycle

end SessionSync
