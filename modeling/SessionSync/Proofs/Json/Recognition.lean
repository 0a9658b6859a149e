import SessionSync.Json.Plain
import SessionSync.Proofs.Json.Grammar

/-!
# What is read is what the grammar derives

The converse of `Json.parse?_of_spells`: a text that is read as a document spells it. The scanner is
followed first, token by token, and what it leaves is that the tokens lie one after the other in the
text (`Lexed`). Those of a document lie in a stretch of text that spells it.

* `lexed_of_tokensFrom` — scanning.
* `Lexed.spelling` — from the tokens of a document to the text.
* `parse?_eq_some_iff`, `parsePlain?_eq_some_iff` — a text is read as a document exactly when it
  spells it.
-/

namespace SessionSync.Json

/-! ## Tokens in a text -/

/-- How a token is written. -/
inductive TokenText : Token → List Char → Prop
  | openArray : TokenText .openArray ['[']
  | closeArray : TokenText .closeArray [']']
  | openObject : TokenText .openObject ['\x7b']
  | closeObject : TokenText .closeObject ['\x7d']
  | comma : TokenText .comma [',']
  | colon : TokenText .colon [':']
  | null : TokenText .null ['n', 'u', 'l', 'l']
  | true : TokenText (.bool Bool.true) ['t', 'r', 'u', 'e']
  | false : TokenText (.bool Bool.false) ['f', 'a', 'l', 's', 'e']
  | number {n : Numeral} {s : List Char} (numeral : NumeralText n s) : TokenText (.number n) s
  | string {text? : Option String} {s : List Char} (string : StringText text? s) :
      TokenText (.string text?) s

/-- Tokens that lie one after the other in a text, with white space between them and around. -/
inductive Lexed : List Token → List Char → Prop
  | nil {b : List Char} (blank : Blank b) : Lexed [] b
  | cons {t : Token} {ts : List Token} {a u s : List Char} (before : Blank a)
      (token : TokenText t u) (tokens : Lexed ts s) : Lexed (t :: ts) (a ++ u ++ s)

theorem Lexed.blank_cons {ts : List Token} {s : List Char} (h : Lexed ts s) {c : Char}
    (hc : isSpace c = true) : Lexed ts (c :: s) := by
  cases h with
  | nil blank => exact .nil (List.forall_mem_cons.2 ⟨hc, blank⟩)
  | cons before token tokens =>
    rw [← List.cons_append, ← List.cons_append]
    exact .cons (List.forall_mem_cons.2 ⟨hc, before⟩) token tokens

theorem Lexed.token_append {ts : List Token} {s : List Char} (h : Lexed ts s) {t : Token}
    {u : List Char} (token : TokenText t u) : Lexed (t :: ts) (u ++ s) :=
  .cons (a := []) blank_nil token h

/-! ## One character -/

theorem exists_of_tokensFrom_cons {scan : Scan} {c : Char} {s : List Char} {ts : List Token}
    (h : tokensFrom scan (c :: s) = some ts) :
    ∃ new scan' ts', scan.step c = some (new, scan') ∧ tokensFrom scan' s = some ts'
      ∧ ts = new ++ ts' := by
  rw [tokensFrom] at h
  cases hstep : scan.step c with
  | none =>
    rw [hstep] at h
    cases h
  | some p =>
    rw [hstep] at h
    obtain ⟨ts', hts', rfl⟩ := Option.map_eq_some_iff.1 h
    exact ⟨p.1, p.2, ts', rfl, hts', rfl⟩

/-! ## Numbers -/

/-- What has been read of a number, and how it was written. -/
inductive NumeralRead : NumeralPart → Numeral → List Char → Prop
  | sign : NumeralRead .sign ⟨true, [], [], none⟩ ['-']
  | zero (negative : Bool) :
      NumeralRead .zero ⟨negative, ['0'], [], none⟩ (signText negative ++ ['0'])
  | whole (negative : Bool) {ds : List Char} (digits : Digits ds) (lead : ds.head? ≠ some '0') :
      NumeralRead .whole ⟨negative, ds, [], none⟩ (signText negative ++ ds)
  | point (negative : Bool) {whole : List Char} (hwhole : WholeDigits whole) :
      NumeralRead .point ⟨negative, whole, [], none⟩ (signText negative ++ whole ++ ['.'])
  | fraction (negative : Bool) {whole ds : List Char} (hwhole : WholeDigits whole)
      (digits : Digits ds) :
      NumeralRead .fraction ⟨negative, whole, ds, none⟩ (signText negative ++ whole ++ '.' :: ds)
  | mark (negative : Bool) {whole fraction f : List Char} {e : Char} (hwhole : WholeDigits whole)
      (hfraction : FractionText fraction f) (he : e = 'e' ∨ e = 'E') :
      NumeralRead .mark ⟨negative, whole, fraction, none⟩ (signText negative ++ whole ++ f ++ [e])
  | plus (negative : Bool) {whole fraction f : List Char} {e : Char} (hwhole : WholeDigits whole)
      (hfraction : FractionText fraction f) (he : e = 'e' ∨ e = 'E') :
      NumeralRead .markSign ⟨negative, whole, fraction, some (false, [])⟩
        (signText negative ++ whole ++ f ++ [e, '+'])
  | minus (negative : Bool) {whole fraction f : List Char} {e : Char} (hwhole : WholeDigits whole)
      (hfraction : FractionText fraction f) (he : e = 'e' ∨ e = 'E') :
      NumeralRead .markSign ⟨negative, whole, fraction, some (true, [])⟩
        (signText negative ++ whole ++ f ++ [e, '-'])
  | power (negative : Bool) {whole fraction f p : List Char} {power : Bool × List Char}
      (hwhole : WholeDigits whole) (hfraction : FractionText fraction f)
      (hpower : PowerText (some power) p) :
      NumeralRead .power ⟨negative, whole, fraction, some power⟩
        (signText negative ++ whole ++ f ++ p)

theorem Digits.single {c : Char} (h : c.isDigit = true) : Digits [c] := by
  simp [Digits, h]

theorem Digits.concat {ds : List Char} (h : Digits ds) {c : Char} (hc : c.isDigit = true) :
    Digits (ds ++ [c]) := by
  refine ⟨by simp, ?_⟩
  intro d hd
  rcases List.mem_append.1 hd with hd | hd
  · exact h.2 d hd
  · rw [List.mem_singleton.1 hd]
    exact hc

/-- A power takes one more digit. -/
theorem PowerText.concat {minus : Bool} {ds p : List Char} (h : PowerText (some (minus, ds)) p)
    {c : Char} (hc : c.isDigit = true) : PowerText (some (minus, ds ++ [c])) (p ++ [c]) := by
  cases h with
  | bare mark digits => exact .bare mark (digits.concat hc)
  | plus mark digits => exact .plus mark (digits.concat hc)
  | minus mark digits => exact .minus mark (digits.concat hc)

theorem wholeDigits_zero : WholeDigits ['0'] := by
  simp [WholeDigits, Digits]

theorem wholeDigits_of_lead {ds : List Char} (digits : Digits ds) (lead : ds.head? ≠ some '0') :
    WholeDigits ds :=
  ⟨digits, fun h => absurd h lead⟩

/-- After the digits before the point, the point or the letter of a power may come. -/
theorem NumeralRead.after_whole {part' : NumeralPart} {n' : Numeral} {negative : Bool}
    {whole : List Char} {c : Char} (hwhole : WholeDigits whole)
    (hnext : (if c = '.' then some (NumeralPart.point, (⟨negative, whole, [], none⟩ : Numeral))
      else if c = 'e' ∨ c = 'E' then some (.mark, ⟨negative, whole, [], none⟩) else none) =
        some (part', n')) :
    NumeralRead part' n' (signText negative ++ whole ++ [c]) := by
  split at hnext
  · next hpoint =>
    cases hnext
    rw [hpoint]
    exact .point negative hwhole
  · split at hnext
    · next hmark =>
      cases hnext
      simpa using NumeralRead.mark negative hwhole .absent hmark
    · cases hnext

/-- Reading one more character of a number. -/
theorem NumeralRead.next {part part' : NumeralPart} {n n' : Numeral} {s : List Char} {c : Char}
    (h : NumeralRead part n s) (hnext : part.next n c = some (part', n')) :
    NumeralRead part' n' (s ++ [c]) := by
  cases h with
  | sign =>
    simp only [NumeralPart.next] at hnext
    split at hnext
    · next hzero =>
      cases hnext
      rw [hzero]
      exact .zero true
    · next hzero =>
      split at hnext
      · next hdigit =>
        cases hnext
        exact .whole true (.single hdigit) (by simpa using hzero)
      · cases hnext
  | zero negative =>
    simp only [NumeralPart.next] at hnext
    split at hnext
    · next hdigit => simp at hdigit
    · exact .after_whole wholeDigits_zero hnext
  | whole negative digits lead =>
    simp only [NumeralPart.next] at hnext
    split at hnext
    · next hdigit =>
      cases hnext
      rw [List.append_assoc]
      refine .whole negative (digits.concat (by simpa using hdigit)) ?_
      obtain ⟨d, ds, rfl⟩ := List.exists_cons_of_ne_nil digits.1
      exact lead
    · exact .after_whole (wholeDigits_of_lead digits lead) hnext
  | point negative hwhole =>
    simp only [NumeralPart.next] at hnext
    split at hnext
    · next hdigit =>
      cases hnext
      simpa using NumeralRead.fraction negative hwhole (.single hdigit)
    · cases hnext
  | fraction negative hwhole digits =>
    simp only [NumeralPart.next] at hnext
    split at hnext
    · next hdigit =>
      cases hnext
      simpa using NumeralRead.fraction negative hwhole (digits.concat hdigit)
    · split at hnext
      · next hmark =>
        cases hnext
        simpa using NumeralRead.mark negative hwhole (.present digits) hmark
      · cases hnext
  | mark negative hwhole hfraction he =>
    simp only [NumeralPart.next] at hnext
    split at hnext
    · next hplus =>
      cases hnext
      simpa [hplus] using NumeralRead.plus negative hwhole hfraction he
    · split at hnext
      · next hminus =>
        cases hnext
        simpa [hminus] using NumeralRead.minus negative hwhole hfraction he
      · split at hnext
        · next hdigit =>
          cases hnext
          simpa using NumeralRead.power negative hwhole hfraction (.bare he (.single hdigit))
        · cases hnext
  | plus negative hwhole hfraction he =>
    simp only [NumeralPart.next] at hnext
    split at hnext
    · next hdigit =>
      cases hnext
      simpa using NumeralRead.power negative hwhole hfraction (.plus he (.single hdigit))
    · cases hnext
  | minus negative hwhole hfraction he =>
    simp only [NumeralPart.next] at hnext
    split at hnext
    · next hdigit =>
      cases hnext
      simpa using NumeralRead.power negative hwhole hfraction (.minus he (.single hdigit))
    · cases hnext
  | power negative hwhole hfraction hpower =>
    simp only [NumeralPart.next] at hnext
    split at hnext
    · next hdigit =>
      cases hnext
      rw [List.append_assoc]
      exact .power negative hwhole hfraction (hpower.concat hdigit)
    · cases hnext

/-- A number is written in full where it may end. -/
theorem NumeralRead.numeralText {part : NumeralPart} {n : Numeral} {s : List Char}
    (h : NumeralRead part n s) (hpart : part.complete = true) : NumeralText n s := by
  cases h with
  | sign | point | mark | plus | minus => cases hpart
  | zero negative => exact .mk negative wholeDigits_zero .absent .absent
  | whole negative digits lead =>
    simpa using NumeralText.mk negative (wholeDigits_of_lead digits lead) .absent .absent
  | fraction negative hwhole digits =>
    simpa using NumeralText.mk negative hwhole (.present digits) .absent
  | power negative hwhole hfraction hpower =>
    simpa using NumeralText.mk negative hwhole hfraction hpower

/-- What is scanned from within a number: the number, and then what follows it. -/
theorem exists_of_tokensFrom_numeral {s : List Char} {part : NumeralPart} {n : Numeral}
    {before : List Char} {ts : List Token} (hread : NumeralRead part n before)
    (h : tokensFrom (.numeral part n) s = some ts) :
    ∃ n' u rest ts', s = u ++ rest ∧ NumeralText n' (before ++ u)
      ∧ tokensFrom .between rest = some ts' ∧ ts = .number n' :: ts' := by
  induction s generalizing part n before with
  | nil =>
    by_cases hpart : part.complete = true
    · have hts : [Token.number n] = ts := by simpa [tokensFrom, Scan.finish, hpart] using h
      refine ⟨n, [], [], [], rfl, ?_, rfl, hts.symm⟩
      rw [List.append_nil]
      exact hread.numeralText hpart
    · simp [tokensFrom, Scan.finish, hpart] at h
  | cons c s ih =>
    cases hnext : part.next n c with
    | some next =>
      obtain ⟨part', n'⟩ := next
      rw [tokensFrom_next hnext] at h
      obtain ⟨m, u, rest, ts', rfl, htext, hrest, hts⟩ := ih (hread.next hnext) h
      refine ⟨m, c :: u, rest, ts', rfl, ?_, hrest, hts⟩
      simpa using htext
    | none =>
      -- The number ends here, so its token and what `c` begins come of the same step.
      obtain ⟨new, scan', ts', hstep, hscan, rfl⟩ := exists_of_tokensFrom_cons h
      simp only [Scan.step, hnext] at hstep
      split at hstep
      · next hpart =>
        cases hstart : Scan.start c with
        | none =>
          rw [hstart] at hstep
          cases hstep
        | some p =>
          rw [hstart] at hstep
          cases hstep
          have hbetween : tokensFrom .between (c :: s) = some (p.1 ++ ts') := by
            rw [tokensFrom_step (show Scan.step .between c = some (p.1, p.2) from hstart), hscan]
            rfl
          refine ⟨n, [], c :: s, p.1 ++ ts', rfl, ?_, hbetween, rfl⟩
          rw [List.append_nil]
          exact hread.numeralText hpart
      · cases hstep

/-! ## Strings -/

theorem exists_of_tokensFrom_hex {done : List StringUnit} {due value : Nat} {s : List Char}
    {ts : List Token} (h : tokensFrom (.hex done (due + 1) value) s = some ts) :
    ∃ c d rest, s = c :: rest ∧ hexValue? c = some d
      ∧ tokensFrom (if due = 0 then .string (.code (value * 16 + d) :: done)
          else .hex done due (value * 16 + d)) rest = some ts := by
  cases s with
  | nil => cases h
  | cons c rest =>
    obtain ⟨new, scan', ts', hstep, hscan, rfl⟩ := exists_of_tokensFrom_cons h
    simp only [Scan.step] at hstep
    split at hstep
    · next d hd =>
      refine ⟨c, d, rest, rfl, hd, ?_⟩
      by_cases hdue : due = 0
      · rw [if_pos (by omega)] at hstep
        cases hstep
        rw [if_pos hdue]
        exact hscan
      · rw [if_neg (by omega)] at hstep
        cases hstep
        rw [if_neg hdue]
        exact hscan
    · cases hstep

/-- What is scanned after a backslash in a string: the rest of one element. -/
theorem exists_of_tokensFrom_escape {done : List StringUnit} {s : List Char} {ts : List Token}
    (h : tokensFrom (.escape done) s = some ts) :
    ∃ u t rest, s = t ++ rest ∧ UnitText u ('\\' :: t)
      ∧ tokensFrom (.string (u :: done)) rest = some ts := by
  cases s with
  | nil => cases h
  | cons letter s =>
    by_cases hu : letter = 'u'
    · subst hu
      have hopen : Scan.step (.escape done) 'u' = some ([], .hex done 4 0) := rfl
      rw [tokensFrom_skip hopen] at h
      obtain ⟨c₁, d₁, s, rfl, h₁, h⟩ := exists_of_tokensFrom_hex h
      obtain ⟨c₂, d₂, s, rfl, h₂, h⟩ := exists_of_tokensFrom_hex h
      obtain ⟨c₃, d₃, s, rfl, h₃, h⟩ := exists_of_tokensFrom_hex h
      obtain ⟨c₄, d₄, s, rfl, h₄, h⟩ := exists_of_tokensFrom_hex h
      rw [Nat.zero_mul, Nat.zero_add] at h
      exact ⟨_, ['u', c₁, c₂, c₃, c₄], s, rfl, .hex h₁ h₂ h₃ h₄, h⟩
    · obtain ⟨new, scan', ts', hstep, hscan, rfl⟩ := exists_of_tokensFrom_cons h
      simp only [Scan.step, if_neg hu] at hstep
      obtain ⟨c, hescape, hpair⟩ := Option.map_eq_some_iff.1 hstep
      cases hpair
      exact ⟨.char c, [letter], s, rfl, .short hescape, hscan⟩

/-- What is scanned from within a string: the elements that are left, and then what follows it. -/
theorem exists_of_tokensFrom_string {s : List Char} {done : List StringUnit} {ts : List Token}
    (h : tokensFrom (.string done) s = some ts) :
    ∃ us body rest ts', s = body ++ '"' :: rest ∧ UnitsText us body
      ∧ tokensFrom .between rest = some ts' ∧ ts = stringToken (us.reverse ++ done) :: ts' := by
  induction hlength : s.length using Nat.strongRecOn generalizing s done with
  | ind n ih =>
    -- One element has been read, and the string goes on behind it.
    have hmore : ∀ {u : StringUnit} {t rest : List Char}, s = t ++ rest → UnitText u t →
        tokensFrom (.string (u :: done)) rest = some ts →
          ∃ us body rest ts', s = body ++ '"' :: rest ∧ UnitsText us body
            ∧ tokensFrom .between rest = some ts'
            ∧ ts = stringToken (us.reverse ++ done) :: ts' := by
      intro u t rest hs hunit hscan
      have hshorter : rest.length < n := by
        have hpos : 0 < t.length := by cases hunit <;> simp
        rw [← hlength, hs, List.length_append]
        omega
      obtain ⟨us, body, rest', ts', rfl, hunits, hrest, hts⟩ := ih _ hshorter hscan rfl
      refine ⟨u :: us, t ++ body, rest', ts', ?_, .cons hunit hunits, hrest, ?_⟩
      · rw [hs, List.append_assoc]
      · rw [hts, List.reverse_cons, List.append_assoc]
        rfl
    cases s with
    | nil => cases h
    | cons c s =>
      obtain ⟨new, scan', ts', hstep, hscan, hts⟩ := exists_of_tokensFrom_cons h
      simp only [Scan.step] at hstep
      split at hstep
      · next hquote =>
        cases hstep
        exact ⟨[], [], s, ts', by rw [hquote]; rfl, .nil, hscan, hts⟩
      · next hquote =>
        split at hstep
        · next hbackslash =>
          cases hstep
          obtain rfl : ts = ts' := hts
          obtain ⟨u, t, rest, rfl, hunit, hrest⟩ := exists_of_tokensFrom_escape hscan
          rw [hbackslash] at hmore ⊢
          exact hmore rfl hunit hrest
        · next hbackslash =>
          split at hstep
          · cases hstep
          · next hprintable =>
            cases hstep
            obtain rfl : ts = ts' := hts
            exact hmore (t := [c]) rfl (.plain hquote hbackslash (by omega)) hscan

/-! ## Scanning -/

theorem exists_of_tokensFrom_literal {due : List Char} (hdue : due ≠ []) {token : Token}
    {s : List Char} {ts : List Token} (h : tokensFrom (.literal due token) s = some ts) :
    ∃ rest ts', s = due ++ rest ∧ tokensFrom .between rest = some ts' ∧ ts = token :: ts' := by
  induction due generalizing s with
  | nil => exact absurd rfl hdue
  | cons d due ih =>
    cases s with
    | nil => cases h
    | cons c s =>
      obtain ⟨new, scan', ts', hstep, hscan, rfl⟩ := exists_of_tokensFrom_cons h
      cases due with
      | nil =>
        simp only [Scan.step] at hstep
        split at hstep
        · next hc =>
          cases hstep
          exact ⟨s, ts', by rw [hc]; rfl, hscan, rfl⟩
        · cases hstep
      | cons e due =>
        simp only [Scan.step] at hstep
        split at hstep
        · next hc =>
          cases hstep
          obtain ⟨rest, ts'', rfl, hrest, hts⟩ := ih (List.cons_ne_nil e due) hscan
          exact ⟨rest, ts'', by rw [hc]; rfl, hrest, hts⟩
        · cases hstep

/-- What a character can begin where a token may start. -/
inductive Begins (c : Char) : List Token → Scan → Prop
  | space (blank : isSpace c = true) : Begins c [] .between
  | punctuation {t : Token} (token : TokenText t [c]) : Begins c [t] .between
  | quote (hc : c = '"') : Begins c [] (.string [])
  | literal {due : List Char} {t : Token} (hdue : due ≠ []) (token : TokenText t (c :: due)) :
      Begins c [] (.literal due t)
  | numeral {part : NumeralPart} {n : Numeral} (read : NumeralRead part n [c]) :
      Begins c [] (.numeral part n)

theorem begins_of_start {c : Char} {new : List Token} {scan : Scan}
    (h : Scan.start c = some (new, scan)) : Begins c new scan := by
  unfold Scan.start at h
  split at h
  · next hspace =>
    cases h
    exact .space hspace
  · split at h
    · cases h; exact .punctuation .openArray
    · cases h; exact .punctuation .closeArray
    · cases h; exact .punctuation .openObject
    · cases h; exact .punctuation .closeObject
    · cases h; exact .punctuation .comma
    · cases h; exact .punctuation .colon
    · cases h; exact .quote rfl
    · cases h; exact .literal (List.cons_ne_nil _ _) .null
    · cases h; exact .literal (List.cons_ne_nil _ _) .true
    · cases h; exact .literal (List.cons_ne_nil _ _) .false
    · cases h; exact .numeral .sign
    · cases h; exact .numeral (.zero false)
    · next hzero =>
      split at h
      · next hdigit =>
        cases h
        exact .numeral (.whole false (.single hdigit) (by simpa using hzero))
      · cases h

/-- The tokens that are scanned lie one after the other in the text. -/
theorem lexed_of_tokensFrom {s : List Char} {ts : List Token}
    (h : tokensFrom .between s = some ts) : Lexed ts s := by
  induction hlength : s.length using Nat.strongRecOn generalizing s ts with
  | ind n ih =>
    cases s with
    | nil =>
      cases h
      exact .nil blank_nil
    | cons c s =>
      obtain ⟨new, scan, ts', hstart, hscan, rfl⟩ := exists_of_tokensFrom_cons h
      rw [List.length_cons] at hlength
      cases begins_of_start hstart with
      | space blank => exact (ih _ (by omega) hscan rfl).blank_cons blank
      | punctuation token => exact (ih _ (by omega) hscan rfl).token_append token
      | quote hc =>
        subst hc
        obtain ⟨us, body, rest, ts'', rfl, hunits, hrest, rfl⟩ := exists_of_tokensFrom_string hscan
        simp only [List.length_append, List.length_cons] at hlength
        have hstring : StringText ((unitsText? us).map String.ofList) ('"' :: body ++ ['"']) :=
          .mk hunits fun _ => map_unitsText?_eq_some_iff
        have hlexed := (ih _ (by omega) hrest rfl).token_append (.string hstring)
        simpa [stringToken] using hlexed
      | literal hdue token =>
        obtain ⟨rest, ts'', rfl, hrest, rfl⟩ := exists_of_tokensFrom_literal hdue hscan
        rw [List.length_append] at hlength
        exact (ih _ (by omega) hrest rfl).token_append token
      | numeral read =>
        obtain ⟨n', u, rest, ts'', rfl, htext, hrest, rfl⟩ :=
          exists_of_tokensFrom_numeral read hscan
        rw [List.length_append] at hlength
        exact (ih _ (by omega) hrest rfl).token_append (.number htext)

/-! ## From tokens to text -/

theorem Lexed.exists_of_cons {t : Token} {ts : List Token} {s : List Char}
    (h : Lexed (t :: ts) s) :
    ∃ a u rest, Blank a ∧ TokenText t u ∧ Lexed ts rest ∧ s = a ++ (u ++ rest) := by
  cases h with
  | cons before token tokens => exact ⟨_, _, _, before, token, tokens, List.append_assoc _ _ _⟩

mutual

/-- The tokens of a document lie in a stretch of text that spells it. -/
theorem Lexed.spelling (j : Json) {ts : List Token} {s : List Char}
    (h : Lexed (tokens j ++ ts) s) :
    ∃ a u rest, Blank a ∧ Spelling (.value j) u ∧ Lexed ts rest ∧ s = a ++ (u ++ rest) := by
  cases j with
  | null =>
    obtain ⟨a, u, rest, before, token, hrest, rfl⟩ := h.exists_of_cons
    cases token
    exact ⟨a, _, rest, before, .null, hrest, rfl⟩
  | bool b =>
    obtain ⟨a, u, rest, before, token, hrest, rfl⟩ := h.exists_of_cons
    cases token
    · exact ⟨a, _, rest, before, .true, hrest, rfl⟩
    · exact ⟨a, _, rest, before, .false, hrest, rfl⟩
  | number n =>
    obtain ⟨a, u, rest, before, token, hrest, rfl⟩ := h.exists_of_cons
    cases token with
    | number numeral => exact ⟨a, u, rest, before, .number numeral, hrest, rfl⟩
  | string text? =>
    obtain ⟨a, u, rest, before, token, hrest, rfl⟩ := h.exists_of_cons
    cases token with
    | string string => exact ⟨a, u, rest, before, .string string, hrest, rfl⟩
  | array l =>
    rw [tokens_array, List.cons_append, List.append_assoc] at h
    obtain ⟨a, u, rest, before, token, hrest, rfl⟩ := h.exists_of_cons
    cases token
    obtain ⟨b, rest', hbetween, hrest', rfl⟩ := Lexed.spelling_items l hrest
    refine ⟨a, '[' :: b ++ [']'], rest', before, ?_, hrest', by simp⟩
    rcases hbetween with ⟨rfl, blank⟩ | items
    · exact .emptyArray blank
    · exact .array items
  | object l =>
    rw [tokens_object, List.cons_append, List.append_assoc] at h
    obtain ⟨a, u, rest, before, token, hrest, rfl⟩ := h.exists_of_cons
    cases token
    obtain ⟨b, rest', hbetween, hrest', rfl⟩ := Lexed.spelling_members l hrest
    refine ⟨a, '\x7b' :: b ++ ['\x7d'], rest', before, ?_, hrest', by simp⟩
    rcases hbetween with ⟨rfl, blank⟩ | members
    · exact .emptyObject blank
    · exact .object members

/-- What stands before the bracket that closes an array. -/
theorem Lexed.spelling_items (l : List Json) {ts : List Token} {s : List Char}
    (h : Lexed (Part.tokens (.items l) ++ ([.closeArray] ++ ts)) s) :
    ∃ b rest, (l = [] ∧ Blank b ∨ Spelling (.items l) b) ∧ Lexed ts rest
      ∧ s = b ++ ']' :: rest := by
  cases l with
  | nil =>
    obtain ⟨b, u, rest, blank, token, hrest, rfl⟩ := h.exists_of_cons
    cases token
    exact ⟨b, rest, .inl ⟨rfl, blank⟩, hrest, rfl⟩
  | cons j l =>
    rw [Part.tokens, List.append_assoc] at h
    obtain ⟨a, u, rest, before, value, hrest, rfl⟩ := Lexed.spelling j h
    cases l with
    | nil =>
      obtain ⟨b, u', rest', after, token, hrest', rfl⟩ := hrest.exists_of_cons
      cases token
      exact ⟨a ++ u ++ b, rest', .inr (.lastItem before value after), hrest', by simp⟩
    | cons j' l =>
      rw [itemTokens_eq (List.cons_ne_nil j' l), List.cons_append] at hrest
      obtain ⟨b, u', rest', after, token, hrest', rfl⟩ := hrest.exists_of_cons
      cases token
      obtain ⟨t, left, hitems, hleft, rfl⟩ := Lexed.spelling_items (j' :: l) hrest'
      rcases hitems with ⟨hnil, -⟩ | items
      · cases hnil
      · exact ⟨a ++ u ++ b ++ ',' :: t, left, .inr (.item before value after items), hleft,
          by simp⟩

/-- What stands before the brace that closes an object. -/
theorem Lexed.spelling_members (l : List (Option String × Json)) {ts : List Token} {s : List Char}
    (h : Lexed (Part.tokens (.members l) ++ ([.closeObject] ++ ts)) s) :
    ∃ b rest, (l = [] ∧ Blank b ∨ Spelling (.members l) b) ∧ Lexed ts rest
      ∧ s = b ++ '\x7d' :: rest := by
  cases l with
  | nil =>
    obtain ⟨b, u, rest, blank, token, hrest, rfl⟩ := h.exists_of_cons
    cases token
    exact ⟨b, rest, .inl ⟨rfl, blank⟩, hrest, rfl⟩
  | cons e l =>
    obtain ⟨key, j⟩ := e
    rw [Part.tokens, List.cons_append, List.cons_append, List.append_assoc] at h
    obtain ⟨a, k, s₁, before, hname, hcolon, rfl⟩ := h.exists_of_cons
    obtain ⟨b, u, s₂, afterName, token, hvalue, rfl⟩ := hcolon.exists_of_cons
    cases token
    obtain ⟨c, u, rest, beforeValue, value, hrest, rfl⟩ := Lexed.spelling j hvalue
    cases hname with
    | string name =>
      cases l with
      | nil =>
        obtain ⟨d, u', rest', after, token, hrest', rfl⟩ := hrest.exists_of_cons
        cases token
        exact ⟨a ++ k ++ b ++ ':' :: (c ++ u ++ d), rest',
          .inr (.lastMember before name afterName beforeValue value after), hrest', by simp⟩
      | cons e l =>
        rw [memberTokens_eq (List.cons_ne_nil e l), List.cons_append] at hrest
        obtain ⟨d, u', rest', after, token, hrest', rfl⟩ := hrest.exists_of_cons
        cases token
        obtain ⟨t, left, hmembers, hleft, rfl⟩ := Lexed.spelling_members (e :: l) hrest'
        rcases hmembers with ⟨hnil, -⟩ | members
        · cases hnil
        · exact ⟨a ++ k ++ b ++ ':' :: (c ++ u ++ d ++ ',' :: t), left,
            .inr (.member before name afterName beforeValue value after members), hleft, by simp⟩

end

/-! ## Documents -/

/-- A text that is read as a document spells it. -/
theorem spells_of_parse? {s : List Char} {j : Json} (h : parse? s = some j) : Spells s j := by
  obtain ⟨ts, hscan, hread⟩ := Option.bind_eq_some_iff.1 h
  have hlexed : Lexed (tokens j ++ []) s := by
    rw [List.append_nil, ← ofTokens?_eq_some_iff.1 hread]
    exact lexed_of_tokensFrom hscan
  obtain ⟨a, u, rest, before, value, hrest, rfl⟩ := Lexed.spelling j hlexed
  cases hrest with
  | nil after => exact ⟨a, u, rest, before, value, after, (List.append_assoc a u rest).symm⟩

/-- A text is read as a document exactly when it spells it. -/
theorem parse?_eq_some_iff {s : List Char} {j : Json} : parse? s = some j ↔ Spells s j :=
  ⟨spells_of_parse?, parse?_of_spells⟩

/-- A text spells one document at most. -/
theorem Spells.unique {s : List Char} {j j' : Json} (h : Spells s j) (h' : Spells s j') :
    j = j' := by
  have hsame := (parse?_of_spells h).symm.trans (parse?_of_spells h')
  exact Option.some.inj hsame

/-- A text is read as a document that is held as a whole exactly when it spells it and the document
keeps to the limits of those. -/
theorem parsePlain?_eq_some_iff {s : List Char} {j : Json} :
    parsePlain? s = some j ↔ Spells s j ∧ j.isPlain = true := by
  rw [parsePlain?, Option.filter_eq_some_iff, parse?_eq_some_iff]

end SessionSync.Json
