import SessionSync.Json.Parser

/-!
# Reading tokens

Tokens are read as a document exactly when they are the tokens of that document: they put it into
whatever is open, and where a value is due nothing else leads to a complete document.

* `run_tokens` — the tokens of a document are read.
* `exists_of_run_value` — what is read are the tokens of a document.
* `ofTokens?_eq_some_iff` — both together.
-/

namespace SessionSync.Json

/-! ## Tokens of a document -/

mutual

/-- The tokens that spell a document. -/
def tokens : Json → List Token
  | .null => [.null]
  | .bool b => [.bool b]
  | .number n => [.number n]
  | .string text? => [.string text?]
  | .array [] => [.openArray, .closeArray]
  | .array (j :: rest) => .openArray :: (tokens j ++ (itemTokens rest ++ [.closeArray]))
  | .object [] => [.openObject, .closeObject]
  | .object ((key, j) :: rest) =>
    .openObject :: .string key :: .colon :: (tokens j ++ (memberTokens rest ++ [.closeObject]))

/-- The tokens of the items of an array after the first. -/
def itemTokens : List Json → List Token
  | [] => []
  | j :: rest => .comma :: (tokens j ++ itemTokens rest)

/-- The tokens of the members of an object after the first. -/
def memberTokens : List (Option String × Json) → List Token
  | [] => []
  | (key, j) :: rest => .comma :: .string key :: .colon :: (tokens j ++ memberTokens rest)

end

/-! ## Reading -/

/-- Where a value is due first in an array, it is read as anywhere in it. -/
theorem run_firstItem (stack : List Frame) (j : Json) (ts : List Token) :
    (Stage.firstItem stack).run (tokens j ++ ts) =
      (Stage.value (.array [] :: stack)).run (tokens j ++ ts) := by
  cases j with
  | array items => cases items <;> rfl
  | object members => cases members <;> rfl
  | null | bool | number | string => rfl

mutual

/-- The tokens of a document put it into what is open. -/
theorem run_tokens (stack : List Frame) (j : Json) (ts : List Token) :
    (Stage.value stack).run (tokens j ++ ts) = (Stage.put j stack).run ts := by
  cases j with
  | null | bool | number | string => rfl
  | array items =>
    cases items with
    | nil => rfl
    | cons j items =>
      rw [tokens]
      simp only [List.cons_append, List.append_assoc, List.nil_append]
      show (Stage.firstItem stack).run (tokens j ++ _) = _
      rw [run_firstItem, run_tokens]
      show (Stage.nextItem [j] stack).run _ = _
      rw [run_itemTokens]
      rfl
  | object members =>
    cases members with
    | nil => rfl
    | cons e members =>
      obtain ⟨key, j⟩ := e
      rw [tokens]
      simp only [List.cons_append, List.append_assoc, List.nil_append]
      show (Stage.value (.object [] key :: stack)).run (tokens j ++ _) = _
      rw [run_tokens]
      show (Stage.nextMember [(key, j)] stack).run _ = _
      rw [run_memberTokens]
      rfl

theorem run_itemTokens (done : List Json) (stack : List Frame) (items : List Json)
    (ts : List Token) :
    (Stage.nextItem done stack).run (itemTokens items ++ (.closeArray :: ts)) =
      (Stage.put (.array (done.reverse ++ items)) stack).run ts := by
  cases items with
  | nil =>
    rw [itemTokens, List.append_nil]
    rfl
  | cons j items =>
    rw [itemTokens]
    simp only [List.cons_append, List.append_assoc]
    show (Stage.value (.array done :: stack)).run (tokens j ++ _) = _
    rw [run_tokens]
    show (Stage.nextItem (j :: done) stack).run _ = _
    rw [run_itemTokens, List.reverse_cons, List.append_assoc]
    rfl

theorem run_memberTokens (done : List (Option String × Json)) (stack : List Frame)
    (members : List (Option String × Json)) (ts : List Token) :
    (Stage.nextMember done stack).run (memberTokens members ++ (.closeObject :: ts)) =
      (Stage.put (.object (done.reverse ++ members)) stack).run ts := by
  cases members with
  | nil =>
    rw [memberTokens, List.append_nil]
    rfl
  | cons e members =>
    obtain ⟨key, j⟩ := e
    rw [memberTokens]
    simp only [List.cons_append, List.append_assoc]
    show (Stage.value (.object done key :: stack)).run (tokens j ++ _) = _
    rw [run_tokens]
    show (Stage.nextMember ((key, j) :: done) stack).run _ = _
    rw [run_memberTokens, List.reverse_cons, List.append_assoc]
    rfl

end

/-! ## Tokens that are read -/

theorem run_cons_eq_some {stage final : Stage} {t : Token} {ts : List Token}
    (h : stage.run (t :: ts) = some final) :
    ∃ stage', stage.step t = some stage' ∧ stage'.run ts = some final := by
  rw [Stage.run] at h
  cases hstep : stage.step t with
  | none =>
    rw [hstep] at h
    cases h
  | some stage' =>
    rw [hstep] at h
    exact ⟨stage', rfl, h⟩

theorem run_firstItem_cases {stack : List Frame} {ts : List Token} {d : Json}
    (h : (Stage.firstItem stack).run ts = some (.complete d)) :
    (∃ left, ts = .closeArray :: left
        ∧ (Stage.put (.array []) stack).run left = some (.complete d))
      ∨ (Stage.value (.array [] :: stack)).run ts = some (.complete d) := by
  cases ts with
  | nil => cases h
  | cons t ts =>
    cases t with
    | closeArray => exact .inl ⟨ts, rfl, h⟩
    | openArray | openObject | closeObject | comma | colon | null | bool | number | string =>
      exact .inr h

theorem run_firstKey_cases {stack : List Frame} {ts : List Token} {d : Json}
    (h : (Stage.firstKey stack).run ts = some (.complete d)) :
    (∃ left, ts = .closeObject :: left
        ∧ (Stage.put (.object []) stack).run left = some (.complete d))
      ∨ (Stage.nextKey [] stack).run ts = some (.complete d) := by
  cases ts with
  | nil => cases h
  | cons t ts =>
    cases t with
    | closeObject => exact .inl ⟨ts, rfl, h⟩
    | openArray | closeArray | openObject | comma | colon | null | bool | number | string =>
      exact .inr h

/-- Where a key is due, a string comes first and a colon after it. -/
theorem exists_of_run_nextKey {done : List (Option String × Json)} {stack : List Frame}
    {ts : List Token} {d : Json} (h : (Stage.nextKey done stack).run ts = some (.complete d)) :
    ∃ key ts', ts = .string key :: .colon :: ts'
      ∧ (Stage.value (.object done key :: stack)).run ts' = some (.complete d) := by
  cases ts with
  | nil => cases h
  | cons t ts =>
    obtain ⟨stage, hstep, hrun⟩ := run_cons_eq_some h
    cases t <;> try cases hstep
    next key =>
      cases ts with
      | nil => cases hrun
      | cons t ts =>
        obtain ⟨stage, hstep, hrun⟩ := run_cons_eq_some hrun
        cases t <;> cases hstep
        exact ⟨key, ts, rfl, hrun⟩

-- Each of the three goes over some tokens and leaves the others, so that what is left is shorter.
mutual

/-- Where a value is due, the tokens of a document come first. -/
theorem exists_of_run_value {stack : List Frame} {ts : List Token} {d : Json}
    (h : (Stage.value stack).run ts = some (.complete d)) :
    ∃ j left, ts = tokens j ++ left ∧ (Stage.put j stack).run left = some (.complete d) := by
  cases ts with
  | nil => cases h
  | cons t ts =>
    obtain ⟨stage, hstep, hrun⟩ := run_cons_eq_some h
    cases t with
    | closeArray | closeObject | comma | colon => cases hstep
    | null =>
      cases hstep
      exact ⟨.null, ts, rfl, hrun⟩
    | bool b =>
      cases hstep
      exact ⟨.bool b, ts, rfl, hrun⟩
    | number n =>
      cases hstep
      exact ⟨.number n, ts, rfl, hrun⟩
    | string text? =>
      cases hstep
      exact ⟨.string text?, ts, rfl, hrun⟩
    | openArray =>
      cases hstep
      rcases run_firstItem_cases hrun with ⟨left, rfl, hput⟩ | hvalue
      · exact ⟨.array [], left, rfl, hput⟩
      · obtain ⟨j, rest, rfl, hitems⟩ := exists_of_run_value hvalue
        obtain ⟨l, left, rfl, hput⟩ := exists_of_run_nextItem hitems
        refine ⟨.array (j :: l), left, ?_, hput⟩
        simp [tokens]
    | openObject =>
      cases hstep
      rcases run_firstKey_cases hrun with ⟨left, rfl, hput⟩ | hkey
      · exact ⟨.object [], left, rfl, hput⟩
      · obtain ⟨key, rest, rfl, hvalue⟩ := exists_of_run_nextKey hkey
        obtain ⟨j, rest', rfl, hmembers⟩ := exists_of_run_value hvalue
        obtain ⟨l, left, rfl, hput⟩ := exists_of_run_nextMember hmembers
        refine ⟨.object ((key, j) :: l), left, ?_, hput⟩
        simp [tokens]
termination_by ts.length
decreasing_by
  all_goals
    subst_vars
    simp only [List.length_cons, List.length_append]
    omega

/-- After an item, others may come before the bracket. -/
theorem exists_of_run_nextItem {done : List Json} {stack : List Frame} {ts : List Token} {d : Json}
    (h : (Stage.nextItem done stack).run ts = some (.complete d)) :
    ∃ l left, ts = itemTokens l ++ .closeArray :: left
      ∧ (Stage.put (.array (done.reverse ++ l)) stack).run left = some (.complete d) := by
  cases ts with
  | nil => cases h
  | cons t ts =>
    obtain ⟨stage, hstep, hrun⟩ := run_cons_eq_some h
    cases t with
    | closeArray =>
      cases hstep
      refine ⟨[], ts, rfl, ?_⟩
      rw [List.append_nil]
      exact hrun
    | comma =>
      cases hstep
      obtain ⟨j, rest, rfl, hitems⟩ := exists_of_run_value hrun
      obtain ⟨l, left, rfl, hput⟩ := exists_of_run_nextItem hitems
      refine ⟨j :: l, left, ?_, ?_⟩
      · simp [itemTokens]
      · simpa using hput
    | openArray | openObject | closeObject | colon | null | bool | number | string => cases hstep
termination_by ts.length
decreasing_by
  all_goals
    subst_vars
    simp only [List.length_cons, List.length_append]
    omega

/-- After a member, others may come before the brace. -/
theorem exists_of_run_nextMember {done : List (Option String × Json)} {stack : List Frame}
    {ts : List Token} {d : Json} (h : (Stage.nextMember done stack).run ts = some (.complete d)) :
    ∃ l left, ts = memberTokens l ++ .closeObject :: left
      ∧ (Stage.put (.object (done.reverse ++ l)) stack).run left = some (.complete d) := by
  cases ts with
  | nil => cases h
  | cons t ts =>
    obtain ⟨stage, hstep, hrun⟩ := run_cons_eq_some h
    cases t with
    | closeObject =>
      cases hstep
      refine ⟨[], ts, rfl, ?_⟩
      rw [List.append_nil]
      exact hrun
    | comma =>
      cases hstep
      obtain ⟨key, rest, rfl, hvalue⟩ := exists_of_run_nextKey hrun
      obtain ⟨j, rest', rfl, hmembers⟩ := exists_of_run_value hvalue
      obtain ⟨l, left, rfl, hput⟩ := exists_of_run_nextMember hmembers
      refine ⟨(key, j) :: l, left, ?_, ?_⟩
      · simp [memberTokens]
      · simpa using hput
    | openArray | closeArray | openObject | colon | null | bool | number | string => cases hstep
termination_by ts.length
decreasing_by
  all_goals
    subst_vars
    simp only [List.length_cons, List.length_append]
    omega

end

/-- Tokens that are read as a document are its tokens. -/
theorem eq_tokens_of_ofTokens? {ts : List Token} {j : Json} (h : ofTokens? ts = some j) :
    ts = tokens j := by
  have hrun : (Stage.value []).run ts = some (.complete j) := by
    unfold ofTokens? at h
    split at h
    · next d hd =>
      cases h
      exact hd
    · cases h
  obtain ⟨j', left, rfl, hput⟩ := exists_of_run_value hrun
  cases left with
  | nil =>
    cases hput
    exact List.append_nil _
  | cons t left =>
    obtain ⟨stage, hstep, -⟩ := run_cons_eq_some hput
    cases hstep

/-- Tokens are read as a document exactly when they are its tokens. -/
theorem ofTokens?_eq_some_iff {ts : List Token} {j : Json} :
    ofTokens? ts = some j ↔ ts = tokens j := by
  constructor
  · exact eq_tokens_of_ofTokens?
  · rintro rfl
    have hrun := run_tokens [] j []
    rw [List.append_nil] at hrun
    rw [ofTokens?, hrun]
    rfl

end SessionSync.Json
