import SessionSync.Account.Id

/-!
# The normal form of an email

Trimming and lower-casing leave a text that both leave alone, so the normal form of an email is its
own normal form. The table of capitals is looked at once: no lower-case form is a capital again,
and none is white space.

* `trimmed_trim` — the ends of a trimmed text are no white space.
* `trim_surrounded` — white space around a text makes no difference.
* `runs_apart` — what the table says about the images of its runs.
* `lowercase_lowercase` — a text in lower case is its own lower-case form.
* `AccountId.normal_ofString` — every account that an email names is in normal form.
-/

namespace SessionSync

namespace Text

/-! ## White space at the ends -/

/-- A text that neither begins nor ends with white space. -/
structure Trimmed (s : List Char) : Prop where
  head : ∀ c ∈ s.head?, isWhiteSpace c = false
  last : ∀ c ∈ s.getLast?, isWhiteSpace c = false

theorem dropWhile_of_head {s : List Char} (h : ∀ c ∈ s.head?, isWhiteSpace c = false) :
    s.dropWhile isWhiteSpace = s := by
  cases s with
  | nil => rfl
  | cons c s => exact List.dropWhile_cons_of_neg (by simp [h c rfl])

theorem head_dropWhile (s : List Char) :
    ∀ c ∈ (s.dropWhile isWhiteSpace).head?, isWhiteSpace c = false := by
  intro c hc
  have hnot := List.head?_dropWhile_not isWhiteSpace s
  rw [Option.mem_def.1 hc] at hnot
  simpa using hnot

/-- A text that has nothing to trim stays as it is. -/
theorem Trimmed.trim_eq {s : List Char} (h : Trimmed s) : trim s = s := by
  have hlast : ∀ c ∈ s.reverse.head?, isWhiteSpace c = false := by
    rw [List.head?_reverse]
    exact h.last
  rw [trim, dropWhile_of_head h.head, trimEnd, dropWhile_of_head hlast, List.reverse_reverse]

theorem trimEnd_cons {c : Char} (h : isWhiteSpace c = false) (s : List Char) :
    trimEnd (c :: s) = c :: trimEnd s := by
  have hc : [c].dropWhile isWhiteSpace = [c] := List.dropWhile_cons_of_neg (by simp [h])
  unfold trimEnd
  rw [List.reverse_cons, List.dropWhile_append, hc]
  split
  · next hempty =>
    rw [List.isEmpty_iff.1 hempty]
    rfl
  · rw [List.reverse_append]
    rfl

theorem trimmed_trim (s : List Char) : Trimmed (trim s) where
  head := by
    unfold trim
    have hhead := head_dropWhile s
    cases hd : s.dropWhile isWhiteSpace with
    | nil => simp [trimEnd]
    | cons c l =>
      rw [hd] at hhead
      rw [trimEnd_cons (hhead c rfl)]
      exact hhead
  last := by
    unfold trim trimEnd
    rw [List.getLast?_reverse]
    exact head_dropWhile _

/-- A text of white space in front of another is trimmed away. -/
theorem dropWhile_append_of_blank {before : List Char} (h : isBlank before = true)
    (s : List Char) : (before ++ s).dropWhile isWhiteSpace = s.dropWhile isWhiteSpace :=
  List.dropWhile_append_of_pos (List.all_eq_true.1 h)

theorem trimEnd_append_of_blank {after : List Char} (h : isBlank after = true) (s : List Char) :
    trimEnd (s ++ after) = trimEnd s := by
  have hreverse : isBlank after.reverse = true := by
    unfold isBlank at h ⊢
    rw [List.all_reverse, h]
  rw [trimEnd, List.reverse_append, dropWhile_append_of_blank hreverse, trimEnd]

/-- White space around a text makes no difference to what is left of it. -/
theorem trim_surrounded {before after : List Char} (hbefore : isBlank before = true)
    (hafter : isBlank after = true) (s : List Char) : trim (before ++ s ++ after) = trim s := by
  rw [trim, List.append_assoc, dropWhile_append_of_blank hbefore, List.dropWhile_append]
  split
  · next hblank =>
    have hnothing : after.dropWhile isWhiteSpace = [] := by
      simpa using dropWhile_append_of_blank hafter []
    rw [hnothing, trim, List.isEmpty_iff.1 hblank]
  · rw [trimEnd_append_of_blank hafter, trim]

/-! ## The table of capitals -/

namespace CaseRun

/-- The lower-case form of the first code point of a run. -/
def low (r : CaseRun) : Nat :=
  (r.first + r.shift).toNat

/-- The lower-case form of the last code point of a run. -/
def high (r : CaseRun) : Nat :=
  (r.last + r.shift).toNat

/-- Whether a run does not cover the lower-case form of any code point of another: the one lies
aside of the other, or they alternate. -/
def apart (r q : CaseRun) : Bool :=
  r.high.blt q.first || q.last.blt r.low
    || (r.low.beq r.high || r.step.beq 2) && q.step.beq 2 && ((r.low + q.first) % 2).beq 1

/-- Whether an interval lies aside of the lower-case forms of a run. -/
def misses (r : CaseRun) (i : Nat × Nat) : Bool :=
  r.high < i.1 || i.2 < r.low

end CaseRun

/-- The surrogates, which are no code points of characters, and what is no code point at all. -/
def noCharRanges : List (Nat × Nat) :=
  [(0xD800, 0xDFFF), (0x110000, 0x1000000)]

theorem runs_apart : (lowerRuns.all fun r => lowerRuns.all r.apart) = true := by
  decide +kernel

theorem runs_miss : ∀ r ∈ lowerRuns, ∀ i ∈ (0x130, 0x130) :: whiteSpaceRanges ++ noCharRanges,
    r.misses i = true := by
  decide +kernel

theorem runs_bounded : ∀ r ∈ lowerRuns, 0 ≤ (r.first : Int) + r.shift ∧ r.high < 0x1000000 := by
  decide +kernel

/-- The capital sigma is in the table, though its form is not taken from there. -/
theorem sigma_covered : ∃ r ∈ lowerRuns, r.covers 0x3A3 = true :=
  ⟨⟨0x03A3, 0x03AB, 1, 32⟩, by decide +kernel, by decide⟩

section

variable {r : CaseRun} {n : Nat}

theorem CaseRun.covers_iff :
    r.covers n = true ↔ (r.first ≤ n ∧ n ≤ r.last) ∧ (n - r.first) % r.step = 0 := by
  simp [CaseRun.covers]

/-- Where the lower-case form of a code point lies. -/
theorem image_bounds (hr : r ∈ lowerRuns) (hn : r.covers n = true) :
    (n + r.shift).toNat = r.low + (n - r.first) ∧ (n + r.shift).toNat ≤ r.high := by
  have hpos := (runs_bounded r hr).1
  have hcovers := CaseRun.covers_iff.1 hn
  unfold CaseRun.low CaseRun.high
  omega

/-- No lower-case form is a capital. -/
theorem not_covers_image (hr : r ∈ lowerRuns) (hn : r.covers n = true) {q : CaseRun}
    (hq : q ∈ lowerRuns) : q.covers (n + r.shift).toNat = false := by
  obtain ⟨himage, hhigh⟩ := image_bounds hr hn
  obtain ⟨⟨hfirst, hlast⟩, hstep⟩ := CaseRun.covers_iff.1 hn
  rw [← Bool.not_eq_true]
  intro hcovered
  obtain ⟨⟨hfirst', hlast'⟩, hstep'⟩ := CaseRun.covers_iff.1 hcovered
  have hapart := List.all_eq_true.1 (List.all_eq_true.1 runs_apart r hr) q hq
  simp only [CaseRun.apart, Bool.or_eq_true, Bool.and_eq_true, Nat.blt_eq, Nat.beq_eq] at hapart
  rcases hapart with (haside | haside) | ⟨⟨hspread, htwo⟩, hodd⟩
  · omega
  · omega
  · rw [htwo] at hstep'
    rcases hspread with hsingle | hpairs
    · omega
    · rw [hpairs] at hstep
      omega

theorem not_inRanges_image (hr : r ∈ lowerRuns) (hn : r.covers n = true) {i : Nat × Nat}
    (hi : i ∈ (0x130, 0x130) :: whiteSpaceRanges ++ noCharRanges) :
    ¬ (i.1 ≤ (n + r.shift).toNat ∧ (n + r.shift).toNat ≤ i.2) := by
  obtain ⟨himage, hhigh⟩ := image_bounds hr hn
  have hmisses := runs_miss r hr i hi
  simp only [CaseRun.misses, Bool.or_eq_true, decide_eq_true_eq] at hmisses
  omega

end

/-! ## Single characters -/

theorem toNat_ofNat {n : Nat} (h : n.isValidChar) : (Char.ofNat n).toNat = n := by
  rw [Char.ofNat, dif_pos h]
  rfl

/-- A character that lower-casing leaves alone, wherever it stands. -/
structure IsLower (c : Char) : Prop where
  own : lowerChar c = c
  ne_sigma : c ≠ capitalSigma
  ne_dotted : c ≠ 'İ'

theorem lowerAt_of_isLower {c : Char} (h : IsLower c) (before after : List Char) :
    lowerAt before c after = [c] := by
  rw [lowerAt, if_neg h.ne_sigma, if_neg h.ne_dotted, h.own]

theorem lowerChar_of_not_covered {c : Char} (h : ∀ r ∈ lowerRuns, r.covers c.toNat = false) :
    lowerChar c = c := by
  have hnone : lowerRuns.find? (·.covers c.toNat) = none := by
    rw [List.find?_eq_none]
    intro r hr
    simp [h r hr]
  rw [lowerChar, hnone]

theorem ne_sigma_of_not_covered {c : Char} (h : ∀ r ∈ lowerRuns, r.covers c.toNat = false) :
    c ≠ capitalSigma := by
  rintro rfl
  obtain ⟨r, hr, hcovers⟩ := sigma_covered
  exact Bool.false_ne_true ((h r hr).symm.trans hcovers)

/-- What lower-casing makes of a character: the character itself, which is no capital of the table,
or one that is no capital and no white space. -/
theorem lowerChar_cases (c : Char) :
    (lowerChar c = c ∧ ∀ r ∈ lowerRuns, r.covers c.toNat = false) ∨
      (IsLower (lowerChar c) ∧ isWhiteSpace (lowerChar c) = false) := by
  unfold lowerChar
  cases hfind : lowerRuns.find? (·.covers c.toNat) with
  | none =>
    refine .inl ⟨rfl, fun r hr => ?_⟩
    simpa using List.find?_eq_none.1 hfind r hr
  | some r =>
    right
    have hr : r ∈ lowerRuns := List.mem_of_find?_eq_some hfind
    have hn : r.covers c.toNat = true := by simpa using List.find?_some hfind
    have hmiss : ∀ i ∈ (0x130, 0x130) :: whiteSpaceRanges ++ noCharRanges, _ :=
      fun i hi => not_inRanges_image hr hn hi
    have hbounded := (runs_bounded r hr).2
    have hhigh := (image_bounds hr hn).2
    dsimp only
    generalize hm : (c.toNat + r.shift).toNat = m at hmiss hhigh
    have hvalid : m.isValidChar := by
      have hsurrogate := hmiss (0xD800, 0xDFFF) (by simp [noCharRanges])
      have hbeyond := hmiss (0x110000, 0x1000000) (by simp [noCharRanges])
      simp only [Nat.isValidChar]
      omega
    have htoNat : (Char.ofNat m).toNat = m := toNat_ofNat hvalid
    have hnot : ∀ q ∈ lowerRuns, q.covers (Char.ofNat m).toNat = false := by
      intro q hq
      rw [htoNat, ← hm]
      exact not_covers_image hr hn hq
    refine ⟨⟨lowerChar_of_not_covered hnot, ne_sigma_of_not_covered hnot, ?_⟩, ?_⟩
    · intro hdotted
      have hm' : m = 0x130 := by rw [← htoNat, hdotted]; rfl
      exact hmiss (0x130, 0x130) (by simp) (by simp [hm'])
    · rw [isWhiteSpace, inRanges, htoNat, List.any_eq_false]
      intro i hi
      have := hmiss i (List.mem_append_left _ (List.mem_cons_of_mem _ hi))
      simpa using this

theorem isLower_lowerChar {c : Char} (h : c ≠ 'İ') : IsLower (lowerChar c) := by
  rcases lowerChar_cases c with ⟨hown, hnot⟩ | ⟨hlower, -⟩
  · rw [hown]
    exact ⟨hown, ne_sigma_of_not_covered hnot, h⟩
  · exact hlower

theorem isWhiteSpace_lowerChar {c : Char} (h : isWhiteSpace c = false) :
    isWhiteSpace (lowerChar c) = false := by
  rcases lowerChar_cases c with ⟨hown, -⟩ | ⟨-, hspace⟩
  · rw [hown]
    exact h
  · exact hspace

/-! ## Texts -/

theorem lowerAt_ne_nil (before after : List Char) (c : Char) : lowerAt before c after ≠ [] := by
  unfold lowerAt
  split
  · exact List.cons_ne_nil _ _
  · split <;> exact List.cons_ne_nil _ _

/-- What stands for a character in lower case is in lower case. -/
theorem isLower_of_mem_lowerAt {before after : List Char} {c d : Char}
    (h : d ∈ lowerAt before c after) : IsLower d := by
  have hown : ∀ e : Char, (∀ r ∈ lowerRuns, r.covers e.toNat = false) → e ≠ 'İ' → IsLower e :=
    fun e hnot hdotted => ⟨lowerChar_of_not_covered hnot, ne_sigma_of_not_covered hnot, hdotted⟩
  unfold lowerAt at h
  split at h
  · rw [List.mem_singleton] at h
    subst h
    unfold lowerSigma
    split
    · exact hown _ (by decide +kernel) (by decide)
    · exact hown _ (by decide +kernel) (by decide)
  · split at h
    · simp only [List.mem_cons, List.not_mem_nil, or_false] at h
      rcases h with rfl | rfl
      · exact hown _ (by decide +kernel) (by decide)
      · exact hown _ (by decide +kernel) (by decide)
    · next hdotted =>
      rw [List.mem_singleton] at h
      subst h
      exact isLower_lowerChar hdotted

/-- What stands for a character that is no white space is no white space. -/
theorem isWhiteSpace_of_mem_lowerAt {before after : List Char} {c d : Char}
    (h : d ∈ lowerAt before c after) (hc : isWhiteSpace c = false) : isWhiteSpace d = false := by
  unfold lowerAt at h
  split at h
  · rw [List.mem_singleton] at h
    subst h
    unfold lowerSigma
    split <;> decide
  · split at h
    · simp only [List.mem_cons, List.not_mem_nil, or_false] at h
      rcases h with rfl | rfl <;> decide
    · rw [List.mem_singleton] at h
      subst h
      exact isWhiteSpace_lowerChar hc

theorem isLower_of_mem_lowercaseAfter {before s : List Char} {d : Char}
    (h : d ∈ lowercaseAfter before s) : IsLower d := by
  induction s generalizing before with
  | nil => cases h
  | cons c s ih =>
    rcases List.mem_append.1 h with h | h
    · exact isLower_of_mem_lowerAt h
    · exact ih h

theorem lowercaseAfter_of_isLower {s : List Char} (h : ∀ d ∈ s, IsLower d) (before : List Char) :
    lowercaseAfter before s = s := by
  induction s generalizing before with
  | nil => rfl
  | cons c s ih =>
    rw [lowercaseAfter, lowerAt_of_isLower (h c List.mem_cons_self),
      ih fun d hd => h d (List.mem_cons_of_mem c hd)]
    rfl

/-- A text in lower case is its own lower-case form. -/
theorem lowercase_lowercase (s : List Char) : lowercase (lowercase s) = lowercase s :=
  lowercaseAfter_of_isLower (fun _ hd => isLower_of_mem_lowercaseAfter hd) []

theorem last_lowercaseAfter {before s : List Char} {d : Char}
    (h : d ∈ (lowercaseAfter before s).getLast?) :
    ∃ before' c, s.getLast? = some c ∧ d ∈ lowerAt before' c [] := by
  induction s generalizing before with
  | nil => cases h
  | cons c s ih =>
    rw [lowercaseAfter] at h
    cases s with
    | nil =>
      rw [lowercaseAfter, List.append_nil] at h
      exact ⟨before, c, rfl, List.mem_of_getLast? h⟩
    | cons e s =>
      have hne : lowercaseAfter (c :: before) (e :: s) ≠ [] := by
        rw [lowercaseAfter]
        exact List.append_ne_nil_of_left_ne_nil (lowerAt_ne_nil _ _ _) _
      obtain ⟨x, hx⟩ := Option.isSome_iff_exists.1 (List.getLast?_isSome.2 hne)
      rw [List.getLast?_append, hx, Option.some_or, ← hx] at h
      obtain ⟨before', c', hlast, hd⟩ := ih h
      exact ⟨before', c', by rw [List.getLast?_cons_cons, hlast], hd⟩

/-- Lower-casing puts no white space at the ends. -/
theorem trimmed_lowercase {s : List Char} (h : Trimmed s) : Trimmed (lowercase s) where
  head := by
    cases s with
    | nil => simp [lowercase, lowercaseAfter]
    | cons c s =>
      intro d hd
      obtain ⟨x, hx⟩ := Option.isSome_iff_exists.1
        (List.isSome_head?.2 (lowerAt_ne_nil [] s c))
      rw [lowercase, lowercaseAfter, List.head?_append, hx, Option.some_or, ← hx] at hd
      exact isWhiteSpace_of_mem_lowerAt (List.mem_of_head? hd) (h.head c rfl)
  last := by
    intro d hd
    obtain ⟨before, c, hlast, hmem⟩ := last_lowercaseAfter hd
    exact isWhiteSpace_of_mem_lowerAt hmem (h.last c hlast)

end Text

/-! ## Accounts -/

namespace AccountId

/-- The normal form of an email is its own normal form. -/
theorem normalize_normalize (raw : String) : normalize (normalize raw) = normalize raw := by
  have htrimmed := Text.trimmed_lowercase (Text.trimmed_trim raw.toList)
  unfold normalize
  rw [String.toList_ofList, htrimmed.trim_eq, Text.lowercase_lowercase]

/-- Every account that an email names is in normal form. -/
theorem normal_ofString (raw : String) : (ofString raw).Normal :=
  congrArg AccountId.mk (normalize_normalize raw)

end AccountId

end SessionSync
