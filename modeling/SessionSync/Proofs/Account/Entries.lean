import SessionSync.Account.Catalog

/-!
# The entries of a catalog

A catalog is made again from its entries, and what holds of the account of every entry goes through
the operations.

* `insert_insert`, `erase_insert`, `erase_erase` — two operations on the same account.
* `get?_ofList` — looking up in a catalog made from an ascending list.
* `get?_ofList_filter` — the same when some accounts are passed over.
* `get?_ofList_last` — looking up in a catalog made from any list.
* `mem_toList_iff`, `mem_accounts`, `pairwise_accounts` — the entries and their accounts.
* `AllAccounts` — a property of all accounts of a catalog, with a lemma for each operation.
-/

namespace SessionSync

/-- No account is listed twice in ascending order. -/
theorem AccountId.nodup_of_ascending {l : List AccountId} (h : l.Pairwise (· < ·)) : l.Nodup := by
  refine h.imp ?_
  rintro a b hlt rfl
  exact lt_irrefl a hlt

namespace Ascending

theorem lookup_filter (p : AccountId → Bool) (a : AccountId) (l : List (AccountId × α)) :
    lookup a (l.filter fun e => p e.1) = if p a then lookup a l else none := by
  induction l with
  | nil => simp [lookup]
  | cons e l ih =>
    obtain ⟨b, v⟩ := e
    by_cases hb : p b = true
    · rw [List.filter_cons_of_pos (by simpa using hb), lookup, ih, lookup]
      by_cases hab : a = b
      · rw [if_pos hab, if_pos hab, if_pos (hab ▸ hb)]
      · rw [if_neg hab, if_neg hab]
    · rw [List.filter_cons_of_neg (by simpa using hb), ih, lookup]
      by_cases hab : a = b
      · rw [if_neg (hab ▸ hb), if_neg (hab ▸ hb)]
      · rw [if_neg hab]

theorem lookup_isSome_iff (a : AccountId) (l : List (AccountId × α)) :
    (lookup a l).isSome = true ↔ ∃ v, (a, v) ∈ l := by
  induction l with
  | nil => simp [lookup]
  | cons e l ih =>
    obtain ⟨b, w⟩ := e
    rw [lookup]
    by_cases hab : a = b
    · subst hab
      exact iff_of_true (by rw [if_pos rfl]; rfl) ⟨w, List.mem_cons_self⟩
    · rw [if_neg hab, ih]
      constructor
      · rintro ⟨v, hv⟩
        exact ⟨v, List.mem_cons_of_mem _ hv⟩
      · rintro ⟨v, hv⟩
        rcases List.mem_cons.1 hv with h | hv
        · exact absurd (congrArg Prod.fst h) hab
        · exact ⟨v, hv⟩

theorem Sorted.lookup_of_mem {l : List (AccountId × α)} (h : Sorted l) {a : AccountId} {v : α}
    (hmem : (a, v) ∈ l) : lookup a l = some v := by
  induction l with
  | nil => cases hmem
  | cons e l ih =>
    obtain ⟨b, w⟩ := e
    obtain ⟨hb, hl⟩ := List.pairwise_cons.1 h
    rw [lookup]
    rcases List.mem_cons.1 hmem with heq | hrest
    · cases heq
      rw [if_pos rfl]
    · have hne : a ≠ b := by
        rintro rfl
        exact AccountId.lt_irrefl a (hb (a, v) hrest)
      rw [if_neg hne, ih hl hrest]

end Ascending

namespace Catalog

/-! ## One operation after the other -/

theorem insert_insert (c : Catalog α) (a : AccountId) (v w : α) :
    (c.insert a v).insert a w = c.insert a w := by
  refine Catalog.ext fun b => ?_
  rw [get?_insert, get?_insert, get?_insert]
  split <;> rfl

/-- Inserting a value changes nothing exactly if it is there. -/
theorem insert_eq_self_iff {c : Catalog α} {a : AccountId} {v : α} :
    c.insert a v = c ↔ c.get? a = some v := by
  constructor
  · intro h
    rw [← h, get?_insert, if_pos rfl]
  · intro h
    refine Catalog.ext fun b => ?_
    rw [get?_insert]
    split
    · next hb => rw [hb, h]
    · rfl

theorem erase_insert (c : Catalog α) (a : AccountId) (v : α) :
    (c.insert a v).erase a = c.erase a := by
  refine Catalog.ext fun b => ?_
  rw [get?_erase, get?_erase, get?_insert]
  split <;> rfl

theorem erase_erase (c : Catalog α) (a : AccountId) : (c.erase a).erase a = c.erase a := by
  refine Catalog.ext fun b => ?_
  rw [get?_erase, get?_erase]
  split <;> rfl

/-! ## Made from a list -/

theorem get?_foldl_insert {l : List (AccountId × α)} (h : Ascending.Sorted l) (c : Catalog α)
    (a : AccountId) :
    (l.foldl (fun c e => c.insert e.1 e.2) c).get? a =
      (Ascending.lookup a l).or (c.get? a) := by
  induction l generalizing c with
  | nil => rfl
  | cons e l ih =>
    obtain ⟨b, v⟩ := e
    obtain ⟨hb, hl⟩ := List.pairwise_cons.1 h
    rw [List.foldl_cons, ih hl, get?_insert, Ascending.lookup]
    by_cases hab : a = b
    · subst hab
      rw [if_pos rfl, if_pos rfl, Ascending.lookup_eq_none_of_lt hb]
      rfl
    · rw [if_neg hab, if_neg hab]

theorem get?_ofList {l : List (AccountId × α)} (h : Ascending.Sorted l) (a : AccountId) :
    (ofList l).get? a = Ascending.lookup a l := by
  rw [ofList, get?_foldl_insert h, get?_empty, Option.or_none]

/-- Of several entries for an account the last counts. -/
theorem get?_foldl_insert_last (l : List (AccountId × α)) (c : Catalog α) (a : AccountId) :
    (l.foldl (fun c e => c.insert e.1 e.2) c).get? a =
      ((l.reverse.find? fun e => e.1 = a).map (·.2)).or (c.get? a) := by
  induction l generalizing c with
  | nil => rfl
  | cons e l ih =>
    rw [List.foldl_cons, ih, get?_insert, List.reverse_cons, List.find?_append]
    cases l.reverse.find? fun e => e.1 = a with
    | some last => rfl
    | none =>
      by_cases h : a = e.1
      · simp [h]
      · simp [h, Ne.symm h]

theorem get?_ofList_last (l : List (AccountId × α)) (a : AccountId) :
    (ofList l).get? a = (l.reverse.find? fun e => e.1 = a).map (·.2) := by
  rw [ofList, get?_foldl_insert_last, get?_empty, Option.or_none]

/-- A catalog made again from its entries, some accounts passed over. -/
theorem get?_ofList_filter (c : Catalog α) (p : AccountId → Bool) (a : AccountId) :
    (ofList (c.toList.filter fun e => p e.1)).get? a = if p a then c.get? a else none := by
  rw [get?_ofList (c.sorted.filter _), Ascending.lookup_filter]
  rfl

/-! ## The accounts in order -/

theorem mem_toList_iff (c : Catalog α) (a : AccountId) (v : α) :
    (a, v) ∈ c.toList ↔ c.get? a = some v := by
  constructor
  · exact fun h => c.sorted.lookup_of_mem h
  · intro h
    obtain ⟨w, hw⟩ := (Ascending.lookup_isSome_iff a c.toList).1 (Option.isSome_of_eq_some h)
    have hsame : some w = some v := (c.sorted.lookup_of_mem hw).symm.trans h
    exact Option.some.inj hsame ▸ hw

theorem mem_accounts {c : Catalog α} {a : AccountId} : a ∈ c.accounts ↔ c.contains a = true := by
  unfold accounts contains get?
  rw [Ascending.lookup_isSome_iff, List.mem_map]
  constructor
  · rintro ⟨⟨b, v⟩, he, rfl⟩
    exact ⟨v, he⟩
  · rintro ⟨v, hv⟩
    exact ⟨(a, v), hv, rfl⟩

/-- The accounts are listed in ascending order. -/
theorem pairwise_accounts (c : Catalog α) : c.accounts.Pairwise (· < ·) :=
  List.Pairwise.map _ (fun _ _ hxy => hxy) c.sorted

theorem nodup_accounts (c : Catalog α) : c.accounts.Nodup :=
  AccountId.nodup_of_ascending c.pairwise_accounts

/-! ## All accounts -/

/-- A property of the accounts of all entries. -/
def AllAccounts (P : AccountId → Prop) (c : Catalog α) : Prop :=
  ∀ e ∈ c.toList, P e.1

section

variable {P : AccountId → Prop} {c : Catalog α}

theorem allAccounts_empty : AllAccounts P (empty : Catalog α) := by
  intro e he
  cases he

theorem AllAccounts.insert (h : AllAccounts P c) {a : AccountId} (ha : P a) (v : α) :
    AllAccounts P (c.insert a v) := by
  intro e he
  rcases Ascending.mem_insert he with rfl | he
  · exact ha
  · exact h e he

theorem AllAccounts.erase (h : AllAccounts P c) (a : AccountId) : AllAccounts P (c.erase a) :=
  fun e he => h e (List.mem_filter.1 he).1

theorem AllAccounts.mapValues (h : AllAccounts P c) (f : AccountId → α → β) :
    AllAccounts P (c.mapValues f) := by
  intro e he
  obtain ⟨e', he', rfl⟩ := List.mem_map.1 he
  exact h e' he'

theorem allAccounts_ofList {l : List (AccountId × α)} (h : ∀ e ∈ l, P e.1) :
    AllAccounts P (ofList l) := by
  have hfold : ∀ c : Catalog α, AllAccounts P c →
      AllAccounts P (l.foldl (fun c e => c.insert e.1 e.2) c) := by
    induction l with
    | nil => exact fun c hc => hc
    | cons e l ih =>
      intro c hc
      exact ih (fun e' he' => h e' (List.mem_cons_of_mem e he')) _
        (hc.insert (h e List.mem_cons_self) e.2)
  exact hfold empty allAccounts_empty

theorem AllAccounts.of_contains (h : AllAccounts P c) {a : AccountId} (ha : c.contains a = true) :
    P a := by
  obtain ⟨v, hv⟩ := (Ascending.lookup_isSome_iff a c.toList).1 ha
  exact h (a, v) hv

end

end Catalog

end SessionSync
