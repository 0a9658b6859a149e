import SessionSync.Account.Id

/-!
# Catalogs of accounts

A `Catalog` holds at most one value for each account, in ascending order of account. Its view is
`get?`: `get?_insert` and `get?_erase` say what the operations do to it, and `Catalog.ext` says that
it determines the catalog. An `AccountSet` is a catalog that only says which accounts are in it.
-/

namespace SessionSync

/-! ## Ascending lists -/

namespace Ascending

/-- The value kept for an account in an association list. -/
def lookup (a : AccountId) : List (AccountId × α) → Option α
  | [] => none
  | (b, v) :: rest => if a = b then some v else lookup a rest

/-- Puts a value at the place of its account, replacing the one that is there. -/
def insert (a : AccountId) (v : α) : List (AccountId × α) → List (AccountId × α)
  | [] => [(a, v)]
  | (b, w) :: rest =>
    if a < b then (a, v) :: (b, w) :: rest
    else if a = b then (a, v) :: rest
    else (b, w) :: insert a v rest

/-- The accounts of an association list after its first entry come after that entry. -/
def Sorted (l : List (AccountId × α)) : Prop :=
  l.Pairwise fun x y => x.1 < y.1

theorem mem_insert {a : AccountId} {v : α} {l : List (AccountId × α)} {x : AccountId × α}
    (h : x ∈ insert a v l) : x = (a, v) ∨ x ∈ l := by
  induction l with
  | nil => simpa [insert] using h
  | cons y l ih =>
    obtain ⟨b, w⟩ := y
    simp only [insert] at h
    split at h
    · simpa using h
    · split at h
      · rcases List.mem_cons.1 h with h | h
        · exact .inl h
        · exact .inr (List.mem_cons_of_mem _ h)
      · rcases List.mem_cons.1 h with h | h
        · exact .inr (h ▸ List.mem_cons_self)
        · exact (ih h).imp id (List.mem_cons_of_mem _)

theorem Sorted.insert {l : List (AccountId × α)} (h : Sorted l) (a : AccountId) (v : α) :
    Sorted (insert a v l) := by
  induction l with
  | nil => simp [Ascending.insert, Sorted]
  | cons y l ih =>
    obtain ⟨b, w⟩ := y
    obtain ⟨hb, hl⟩ := List.pairwise_cons.1 h
    simp only [Ascending.insert]
    split
    · next hab =>
      refine List.pairwise_cons.2 ⟨fun x hx => ?_, h⟩
      rcases List.mem_cons.1 hx with rfl | hx
      · exact hab
      · exact AccountId.lt_trans hab (hb x hx)
    · next hab =>
      split
      · next heq => exact List.pairwise_cons.2 ⟨fun x hx => heq ▸ hb x hx, hl⟩
      · next hne =>
        refine List.pairwise_cons.2 ⟨fun x hx => ?_, ih hl⟩
        rcases mem_insert hx with rfl | hx
        · exact AccountId.lt_of_not_lt hab hne
        · exact hb x hx

theorem lookup_insert (a b : AccountId) (v : α) (l : List (AccountId × α)) :
    lookup b (insert a v l) = if b = a then some v else lookup b l := by
  induction l with
  | nil => simp [insert, lookup]
  | cons y l ih =>
    obtain ⟨c, w⟩ := y
    simp only [insert]
    split
    · simp [lookup]
    · split
      · next heq => subst heq; by_cases h : b = a <;> simp [lookup, h]
      · next hne =>
        by_cases hbc : b = c
        · subst hbc; simp [lookup, show ¬ b = a from fun h => hne h.symm]
        · simp [lookup, hbc, ih]

theorem lookup_filter_ne (a b : AccountId) (l : List (AccountId × α)) :
    lookup b (l.filter (·.1 ≠ a)) = if b = a then none else lookup b l := by
  induction l with
  | nil => simp [lookup]
  | cons y l ih =>
    obtain ⟨c, w⟩ := y
    by_cases hca : c = a
    · subst hca
      by_cases hbc : b = c <;> simp_all [lookup]
    · by_cases hbc : b = c
      · subst hbc; simp [lookup, hca]
      · simp_all [lookup]

theorem lookup_eq_none_of_lt {a : AccountId} {l : List (AccountId × α)}
    (h : ∀ x ∈ l, a < x.1) : lookup a l = none := by
  induction l with
  | nil => rfl
  | cons y l ih =>
    obtain ⟨b, w⟩ := y
    have hb : a ≠ b := fun e =>
      AccountId.lt_irrefl a (by simpa [← e] using h (b, w) List.mem_cons_self)
    simp [lookup, hb, ih fun x hx => h x (List.mem_cons_of_mem _ hx)]

/-- Sorted lists that look up alike are equal. -/
theorem Sorted.ext {l m : List (AccountId × α)} (hl : Sorted l) (hm : Sorted m)
    (h : ∀ a, lookup a l = lookup a m) : l = m := by
  induction l generalizing m with
  | nil =>
    cases m with
    | nil => rfl
    | cons y m => have := h y.1; simp [lookup] at this
  | cons x l ih =>
    obtain ⟨a, v⟩ := x
    obtain ⟨ha, hl'⟩ := List.pairwise_cons.1 hl
    cases m with
    | nil => have := h a; simp [lookup] at this
    | cons y m =>
      obtain ⟨b, w⟩ := y
      obtain ⟨hb, hm'⟩ := List.pairwise_cons.1 hm
      have hab : a = b := by
        apply Classical.byContradiction
        intro hne
        by_cases hlt : a < b
        · have hall : ∀ x ∈ m, a < x.1 := fun x hx => AccountId.lt_trans hlt (hb x hx)
          have := h a
          simp [lookup, hne, lookup_eq_none_of_lt hall] at this
        · have hgt := AccountId.lt_of_not_lt hlt hne
          have hall : ∀ x ∈ l, b < x.1 := fun x hx => AccountId.lt_trans hgt (ha x hx)
          have := h b
          simp [lookup, Ne.symm hne, lookup_eq_none_of_lt hall] at this
      subst hab
      have hvw : v = w := by have := h a; simpa [lookup] using this
      subst hvw
      refine congrArg _ (ih hl' hm' fun c => ?_)
      by_cases hc : c = a
      · subst hc; rw [lookup_eq_none_of_lt ha, lookup_eq_none_of_lt hb]
      · have := h c
        simpa [lookup, hc] using this

end Ascending

/-! ## Catalogs -/

/-- Values held by account, at most one each. -/
structure Catalog (α : Type) where
  /-- The entries in ascending order of account. -/
  toList : List (AccountId × α)
  /-- Each account comes before those after it. -/
  sorted : Ascending.Sorted toList

namespace Catalog

/-- The catalog without entries. -/
def empty : Catalog α :=
  ⟨[], List.Pairwise.nil⟩

instance : Inhabited (Catalog α) := ⟨empty⟩

instance [Repr α] : Repr (Catalog α) := ⟨fun c => reprPrec c.toList⟩

instance [DecidableEq α] : DecidableEq (Catalog α) := fun c d =>
  decidable_of_iff (c.toList = d.toList)
    ⟨fun h => by cases c; cases d; simp_all, fun h => h ▸ rfl⟩

/-- The value held for an account. -/
def get? (c : Catalog α) (a : AccountId) : Option α :=
  Ascending.lookup a c.toList

/-- Whether a value is held for an account. -/
def contains (c : Catalog α) (a : AccountId) : Bool :=
  (c.get? a).isSome

/-- Holds a value for an account in place of any it has. -/
def insert (c : Catalog α) (a : AccountId) (v : α) : Catalog α :=
  ⟨Ascending.insert a v c.toList, c.sorted.insert a v⟩

/-- Holds no value for an account. -/
def erase (c : Catalog α) (a : AccountId) : Catalog α :=
  ⟨c.toList.filter (·.1 ≠ a), c.sorted.filter _⟩

/-- The catalog of a list of entries, of which the last for an account counts. -/
def ofList (entries : List (AccountId × α)) : Catalog α :=
  entries.foldl (fun c e => c.insert e.1 e.2) empty

/-- The catalog with every value replaced. -/
def mapValues (c : Catalog α) (f : AccountId → α → β) : Catalog β :=
  ⟨c.toList.map fun e => (e.1, f e.1 e.2), by
    simpa [Ascending.Sorted, List.pairwise_map] using c.sorted⟩

/-- The accounts that have a value, in ascending order. -/
def accounts (c : Catalog α) : List AccountId :=
  c.toList.map (·.1)

/-- How many accounts have a value. -/
def size (c : Catalog α) : Nat :=
  c.toList.length

@[simp] theorem get?_empty (a : AccountId) : (empty : Catalog α).get? a = none := rfl

theorem get?_insert (c : Catalog α) (a b : AccountId) (v : α) :
    (c.insert a v).get? b = if b = a then some v else c.get? b :=
  Ascending.lookup_insert a b v c.toList

theorem get?_erase (c : Catalog α) (a b : AccountId) :
    (c.erase a).get? b = if b = a then none else c.get? b :=
  Ascending.lookup_filter_ne a b c.toList

theorem get?_mapValues (c : Catalog α) (f : AccountId → α → β) (a : AccountId) :
    (c.mapValues f).get? a = (c.get? a).map (f a) := by
  simp only [get?, mapValues]
  induction c.toList with
  | nil => rfl
  | cons e l ih => by_cases h : a = e.1 <;> simp_all [Ascending.lookup]

/-- Catalogs that hold the same values are equal. -/
theorem ext {c d : Catalog α} (h : ∀ a, c.get? a = d.get? a) : c = d := by
  cases c with
  | mk l hl =>
    cases d with
    | mk m hm =>
      have : l = m := hl.ext hm h
      subst this
      rfl

end Catalog

/-! ## Sets of accounts -/

/-- A set of accounts. -/
abbrev AccountSet := Catalog Unit

namespace AccountSet

/-- The set with one more account. -/
def add (s : AccountSet) (a : AccountId) : AccountSet :=
  Catalog.insert s a ()

/-- The set of the accounts in a list. -/
def ofAccounts (l : List AccountId) : AccountSet :=
  l.foldl add Catalog.empty

end AccountSet

end SessionSync
