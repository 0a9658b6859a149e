import SessionSync.Json.Token

/-!
# Scanning, token by token

What the scanner does with a character, with the digits of a number and with the letters of a
literal, and what the digits of an integer say.

* `tokensFrom_step`, `tokensFrom_skip` — one character.
* `tokensFrom_run` — a run of digits.
* `tokensFrom_literal` — a literal.
* `digitsValue_toDigits`, `toInt?_ofInt` — what digits say.
-/

namespace SessionSync

/-! ## Digits -/

namespace Numeral

theorem digitsValue_eq (start : Nat) (digits : List Char) :
    digitsValue start digits = Nat.ofDigitChars 10 digits start := by
  unfold digitsValue Nat.ofDigitChars
  congr 1
  funext n c
  rw [Nat.mul_comm]

/-- The digits of a number write that number. -/
theorem digitsValue_toDigits (n : Nat) : digitsValue 0 (Nat.toDigits 10 n) = n := by
  rw [digitsValue_eq, Nat.ofDigitChars_ten_toDigits]

/-- The numeral of an integer writes that integer. -/
theorem toInt?_ofInt (i : Int) : (ofInt i).toInt? = some i := by
  unfold toInt? ofInt
  rw [if_pos ⟨rfl, rfl⟩]
  dsimp only
  rw [digitsValue_toDigits]
  by_cases h : i < 0
  · rw [if_pos (decide_eq_true h), if_neg (by omega)]
    congr 1
    omega
  · rw [if_neg (by simpa using h)]
    congr 1
    omega

end Numeral

theorem isDigit_of_mem_toDigits {n : Nat} {c : Char} (h : c ∈ Nat.toDigits 10 n) :
    c.isDigit = true :=
  Nat.isDigit_of_mem_toDigits (by omega) (by omega) h

/-- Only zero begins with a zero. -/
theorem head_toDigits {n : Nat} (h : n ≠ 0) :
    ∃ c rest, Nat.toDigits 10 n = c :: rest ∧ c ≠ '0' := by
  induction n using Nat.strongRecOn with
  | ind n ih =>
    by_cases hlt : n < 10
    · refine ⟨n.digitChar, [], Nat.toDigits_of_lt_base hlt, ?_⟩
      rw [Ne, Nat.digitChar_eq_zero]
      exact h
    · obtain ⟨c, rest, hrest, hc⟩ := ih (n / 10) (by omega) (by omega)
      refine ⟨c, rest ++ [(n % 10).digitChar], ?_, hc⟩
      rw [Nat.toDigits_of_base_le (by omega) (by omega), hrest]
      rfl

namespace Json

/-! ## One character -/

theorem tokensFrom_step {scan scan' : Scan} {c : Char} {ts : List Token}
    (h : scan.step c = some (ts, scan')) (rest : List Char) :
    tokensFrom scan (c :: rest) = (tokensFrom scan' rest).map (ts ++ ·) := by
  rw [tokensFrom, h]

theorem tokensFrom_skip {scan scan' : Scan} {c : Char} (h : scan.step c = some ([], scan'))
    (rest : List Char) : tokensFrom scan (c :: rest) = tokensFrom scan' rest := by
  rw [tokensFrom_step h]
  exact Option.map_id'

/-! ## Numbers -/

theorem tokensFrom_next {part part' : NumeralPart} {n n' : Numeral} {c : Char}
    (h : part.next n c = some (part', n')) (rest : List Char) :
    tokensFrom (.numeral part n) (c :: rest) = tokensFrom (.numeral part' n') rest := by
  have hstep : Scan.step (.numeral part n) c = some ([], .numeral part' n') := by
    rw [Scan.step, h]
  exact tokensFrom_skip hstep rest

/-- A run of digits in a part of a number where digits go on. -/
theorem tokensFrom_run {part : NumeralPart} {add : Numeral → List Char → Numeral}
    (hnext : ∀ n c, c.isDigit = true → part.next n c = some (part, add n [c]))
    (hnil : ∀ n, add n [] = n) (hadd : ∀ n s t, add (add n s) t = add n (s ++ t))
    {ds : List Char} (digits : ∀ c ∈ ds, c.isDigit = true) (n : Numeral) (rest : List Char) :
    tokensFrom (.numeral part n) (ds ++ rest) = tokensFrom (.numeral part (add n ds)) rest := by
  induction ds generalizing n with
  | nil => rw [hnil, List.nil_append]
  | cons c ds ih =>
    rw [List.cons_append, tokensFrom_next (hnext n c (digits c List.mem_cons_self)),
      ih fun d hd => digits d (List.mem_cons_of_mem c hd), hadd, List.singleton_append]

theorem ne_of_isDigit {c d : Char} (hc : c.isDigit = true) (hd : d.isDigit = false) : c ≠ d := by
  rintro rfl
  rw [hc] at hd
  cases hd

/-- A digit other than zero begins a number. -/
theorem start_digit {c : Char} (hdigit : c.isDigit = true) (hzero : c ≠ '0') :
    Scan.start c = some ([], .numeral .whole ⟨false, [c], [], none⟩) := by
  have hspace : isSpace c = false := by
    simp [isSpace, ne_of_isDigit hdigit (d := ' ') rfl, ne_of_isDigit hdigit (d := '\t') rfl,
      ne_of_isDigit hdigit (d := '\n') rfl, ne_of_isDigit hdigit (d := '\r') rfl]
  unfold Scan.start
  rw [hspace, if_neg Bool.false_ne_true]
  split <;> first | exact absurd hdigit (by decide) | exact absurd rfl hzero | exact if_pos hdigit

/-! ## Literals -/

theorem tokensFrom_literal {due : List Char} (h : due ≠ []) (token : Token) (rest : List Char) :
    tokensFrom (.literal due token) (due ++ rest) =
      (tokensFrom .between rest).map (token :: ·) := by
  induction due with
  | nil => exact absurd rfl h
  | cons c due ih =>
    cases due with
    | nil =>
      have hlast : Scan.step (.literal [c] token) c = some ([token], .between) := if_pos rfl
      exact tokensFrom_step hlast rest
    | cons d due =>
      have hstep : Scan.step (.literal (c :: d :: due) token) c =
          some ([], .literal (d :: due) token) := if_pos rfl
      rw [List.cons_append, tokensFrom_skip hstep, ih (List.cons_ne_nil d due)]

end Json

end SessionSync
