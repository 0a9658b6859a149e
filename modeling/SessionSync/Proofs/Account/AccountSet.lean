import SessionSync.Account.Catalog

/-!
# Membership in catalogs and sets of accounts

What `contains` says after each operation, and that a set of accounts is determined by it.
-/

namespace SessionSync

namespace Catalog

theorem contains_empty (a : AccountId) : (empty : Catalog α).contains a = false := rfl

theorem contains_insert (c : Catalog α) (a b : AccountId) (v : α) :
    (c.insert a v).contains b = true ↔ b = a ∨ c.contains b = true := by
  unfold contains
  rw [get?_insert]
  by_cases h : b = a <;> simp [h]

theorem contains_erase (c : Catalog α) (a b : AccountId) :
    (c.erase a).contains b = true ↔ b ≠ a ∧ c.contains b = true := by
  unfold contains
  rw [get?_erase]
  by_cases h : b = a <;> simp [h]

end Catalog

namespace AccountSet

theorem contains_add (s : AccountSet) (a b : AccountId) :
    (s.add a).contains b = true ↔ b = a ∨ s.contains b = true :=
  Catalog.contains_insert s a b ()

theorem contains_foldl_add (l : List AccountId) (s : AccountSet) (a : AccountId) :
    (l.foldl add s).contains a = true ↔ a ∈ l ∨ s.contains a = true := by
  induction l generalizing s with
  | nil => simp
  | cons b l ih =>
    rw [List.foldl_cons, ih, contains_add, List.mem_cons]
    exact ⟨fun h => by rcases h with h | h | h <;> simp [h],
      fun h => by rcases h with (h | h) | h <;> simp [h]⟩

theorem contains_ofAccounts (l : List AccountId) (a : AccountId) :
    (ofAccounts l).contains a = true ↔ a ∈ l := by
  unfold ofAccounts
  rw [contains_foldl_add, Catalog.contains_empty]
  simp

/-- Sets with the same accounts are equal. -/
theorem ext {s t : AccountSet} (h : ∀ a, s.contains a = true ↔ t.contains a = true) : s = t := by
  refine Catalog.ext fun a => ?_
  have ha := h a
  unfold Catalog.contains at ha
  cases hs : s.get? a <;> cases ht : t.get? a <;> simp_all

end AccountSet

end SessionSync
