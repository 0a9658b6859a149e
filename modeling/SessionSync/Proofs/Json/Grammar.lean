import SessionSync.Proofs.Json.Reading
import SessionSync.Proofs.Json.Scanning

/-!
# The grammar of JSON

Which texts are JSON documents, and which document each one spells, said without a reader: numbers
and strings by their parts, arrays and objects by what stands between their brackets, with white
space allowed around every token. Whatever the grammar derives is read as the document it spells.

* `Spelling`, `Spells` — the grammar.
* `unitsText?_eq_some_iff` — what a string with escapes means.
* `tokensFrom_numeralText`, `tokensFrom_stringText` — scanning numbers and strings.
* `parse?_of_spells` — reading a document.
-/

namespace SessionSync.Json

/-! ## Numbers -/

/-- One digit or more. -/
def Digits (s : List Char) : Prop :=
  s ≠ [] ∧ ∀ c ∈ s, c.isDigit = true

/-- The digits before the point: a zero leads only where it stands alone. -/
def WholeDigits (s : List Char) : Prop :=
  Digits s ∧ (s.head? = some '0' → s = ['0'])

/-- How the digits after the point are written. -/
inductive FractionText : List Char → List Char → Prop
  | absent : FractionText [] []
  | present {ds : List Char} (digits : Digits ds) : FractionText ds ('.' :: ds)

/-- How a power of ten is written. -/
inductive PowerText : Option (Bool × List Char) → List Char → Prop
  | absent : PowerText none []
  | bare {e : Char} {ds : List Char} (mark : e = 'e' ∨ e = 'E') (digits : Digits ds) :
      PowerText (some (false, ds)) (e :: ds)
  | plus {e : Char} {ds : List Char} (mark : e = 'e' ∨ e = 'E') (digits : Digits ds) :
      PowerText (some (false, ds)) (e :: '+' :: ds)
  | minus {e : Char} {ds : List Char} (mark : e = 'e' ∨ e = 'E') (digits : Digits ds) :
      PowerText (some (true, ds)) (e :: '-' :: ds)

/-- How the sign of a number is written. -/
def signText : Bool → List Char
  | true => ['-']
  | false => []

/-- How a number is written. -/
inductive NumeralText : Numeral → List Char → Prop
  | mk (negative : Bool) {whole fraction f p : List Char} {power : Option (Bool × List Char)}
      (hwhole : WholeDigits whole) (hfraction : FractionText fraction f)
      (hpower : PowerText power p) :
      NumeralText ⟨negative, whole, fraction, power⟩ (signText negative ++ (whole ++ (f ++ p)))

/-! ## Strings -/

/-- How one element of a string is written. -/
inductive UnitText : StringUnit → List Char → Prop
  | plain {c : Char} (quote : c ≠ '"') (backslash : c ≠ '\\') (printable : 0x20 ≤ c.toNat) :
      UnitText (.char c) [c]
  | short {letter c : Char} (escape : shortEscape? letter = some c) :
      UnitText (.char c) ['\\', letter]
  | hex {c₁ c₂ c₃ c₄ : Char} {d₁ d₂ d₃ d₄ : Nat} (first : hexValue? c₁ = some d₁)
      (second : hexValue? c₂ = some d₂) (third : hexValue? c₃ = some d₃)
      (fourth : hexValue? c₄ = some d₄) :
      UnitText (.code (((d₁ * 16 + d₂) * 16 + d₃) * 16 + d₄)) ['\\', 'u', c₁, c₂, c₃, c₄]

/-- How the elements of a string are written. -/
inductive UnitsText : List StringUnit → List Char → Prop
  | nil : UnitsText [] []
  | cons {u : StringUnit} {us : List StringUnit} {t s : List Char} (unit : UnitText u t)
      (units : UnitsText us s) : UnitsText (u :: us) (t ++ s)

/-- What the elements of a string mean: a code unit outside the surrogates stands for itself, and
two that make a pair for one character. -/
inductive Means : List StringUnit → List Char → Prop
  | nil : Means [] []
  | char {c : Char} {us : List StringUnit} {s : List Char} (units : Means us s) :
      Means (.char c :: us) (c :: s)
  | code {n : Nat} {us : List StringUnit} {s : List Char} (high : isHighSurrogate n = false)
      (low : isLowSurrogate n = false) (units : Means us s) :
      Means (.code n :: us) (Char.ofNat n :: s)
  | pair {n m : Nat} {us : List StringUnit} {s : List Char} (high : isHighSurrogate n = true)
      (low : isLowSurrogate m = true) (units : Means us s) :
      Means (.code n :: .code m :: us) (surrogatePair n m :: s)

/-- How a string is written. It has the text that its elements mean, if they mean one. -/
inductive StringText : Option String → List Char → Prop
  | mk {text? : Option String} {us : List StringUnit} {body : List Char}
      (units : UnitsText us body) (meaning : ∀ s, text? = some s ↔ Means us s.toList) :
      StringText text? ('"' :: body ++ ['"'])

/-! ## Documents -/

/-- White space between tokens. -/
def Blank (s : List Char) : Prop :=
  ∀ c ∈ s, isSpace c = true

theorem blank_nil : Blank [] := by
  simp [Blank]

/-- What a stretch of a text is to spell. -/
inductive Part
  /-- A document. -/
  | value (j : Json)
  /-- What stands between the brackets of an array that is not empty. -/
  | items (l : List Json)
  /-- What stands between the braces of an object that is not empty. -/
  | members (l : List (Option String × Json))

/-- The stretches of a text that spell a part of a document. -/
inductive Spelling : Part → List Char → Prop
  | null : Spelling (.value .null) ['n', 'u', 'l', 'l']
  | true : Spelling (.value (.bool Bool.true)) ['t', 'r', 'u', 'e']
  | false : Spelling (.value (.bool Bool.false)) ['f', 'a', 'l', 's', 'e']
  | number {n : Numeral} {s : List Char} (numeral : NumeralText n s) :
      Spelling (.value (.number n)) s
  | string {text? : Option String} {s : List Char} (string : StringText text? s) :
      Spelling (.value (.string text?)) s
  | emptyArray {b : List Char} (blank : Blank b) : Spelling (.value (.array [])) ('[' :: b ++ [']'])
  | array {l : List Json} {s : List Char} (items : Spelling (.items l) s) :
      Spelling (.value (.array l)) ('[' :: s ++ [']'])
  | emptyObject {b : List Char} (blank : Blank b) :
      Spelling (.value (.object [])) ('\x7b' :: b ++ ['\x7d'])
  | object {l : List (Option String × Json)} {s : List Char} (members : Spelling (.members l) s) :
      Spelling (.value (.object l)) ('\x7b' :: s ++ ['\x7d'])
  | lastItem {j : Json} {a s b : List Char} (before : Blank a) (value : Spelling (.value j) s)
      (after : Blank b) : Spelling (.items [j]) (a ++ s ++ b)
  | item {j : Json} {l : List Json} {a s b t : List Char} (before : Blank a)
      (value : Spelling (.value j) s) (after : Blank b) (items : Spelling (.items l) t) :
      Spelling (.items (j :: l)) (a ++ s ++ b ++ ',' :: t)
  | lastMember {key : Option String} {j : Json} {a k b c s d : List Char} (before : Blank a)
      (name : StringText key k) (afterName : Blank b) (beforeValue : Blank c)
      (value : Spelling (.value j) s) (after : Blank d) :
      Spelling (.members [(key, j)]) (a ++ k ++ b ++ ':' :: (c ++ s ++ d))
  | member {key : Option String} {j : Json} {l : List (Option String × Json)}
      {a k b c s d t : List Char} (before : Blank a) (name : StringText key k) (afterName : Blank b)
      (beforeValue : Blank c) (value : Spelling (.value j) s) (after : Blank d)
      (members : Spelling (.members l) t) :
      Spelling (.members ((key, j) :: l)) (a ++ k ++ b ++ ':' :: (c ++ s ++ d ++ ',' :: t))

/-- Whether a text spells a document, with white space around it at most. -/
def Spells (s : List Char) (j : Json) : Prop :=
  ∃ a t b, Blank a ∧ Spelling (.value j) t ∧ Blank b ∧ s = a ++ t ++ b

/-! ## What a string means -/

theorem meaning_of_unitsText? {us : List StringUnit} {s : List Char} (h : unitsText? us = some s) :
    Means us s := by
  fun_induction unitsText? us generalizing s with
  | case1 =>
    cases h
    exact .nil
  | case2 c us ih =>
    obtain ⟨s, hs, rfl⟩ := Option.map_eq_some_iff.1 h
    exact .char (ih hs)
  | case3 n hsurrogate => cases h
  | case4 n hsurrogate =>
    cases h
    simp only [Bool.or_eq_true, not_or, Bool.not_eq_true] at hsurrogate
    exact .code hsurrogate.1 hsurrogate.2 .nil
  | case5 n c us hsurrogate => cases h
  | case6 n c us hsurrogate ih =>
    obtain ⟨s, hs, rfl⟩ := Option.map_eq_some_iff.1 h
    simp only [Bool.or_eq_true, not_or, Bool.not_eq_true] at hsurrogate
    exact .code hsurrogate.1 hsurrogate.2 (.char (ih hs))
  | case7 n m us hhigh hlow ih =>
    obtain ⟨s, hs, rfl⟩ := Option.map_eq_some_iff.1 h
    exact .pair hhigh hlow (ih hs)
  | case8 n m us hhigh hlow => cases h
  | case9 n m us hhigh hlow => cases h
  | case10 n m us hhigh hlow ih =>
    obtain ⟨s, hs, rfl⟩ := Option.map_eq_some_iff.1 h
    exact .code (Bool.eq_false_iff.2 hhigh) (Bool.eq_false_iff.2 hlow) (ih hs)

theorem unitsText?_code {n : Nat} (hhigh : isHighSurrogate n = false)
    (hlow : isLowSurrogate n = false) (units : List StringUnit) :
    unitsText? (.code n :: units) = (unitsText? units).map (Char.ofNat n :: ·) := by
  cases units with
  | nil => simp [unitsText?, hhigh, hlow]
  | cons u units =>
    cases u with
    | char c => simp [unitsText?, hhigh, hlow, Function.comp_def]
    | code m => simp [unitsText?, hhigh, hlow]

theorem unitsText?_eq_of_meaning {us : List StringUnit} {s : List Char} (h : Means us s) :
    unitsText? us = some s := by
  induction h with
  | nil => rfl
  | char units ih => rw [unitsText?, ih, Option.map_some]
  | code high low units ih => rw [unitsText?_code high low, ih, Option.map_some]
  | pair high low units ih => simp [unitsText?, high, low, ih]

/-- What the elements of a string mean is their text. -/
theorem unitsText?_eq_some_iff {us : List StringUnit} {s : List Char} :
    unitsText? us = some s ↔ Means us s :=
  ⟨meaning_of_unitsText?, unitsText?_eq_of_meaning⟩

theorem map_unitsText?_eq_some_iff {us : List StringUnit} {s : String} :
    (unitsText? us).map String.ofList = some s ↔ Means us s.toList := by
  rw [← unitsText?_eq_some_iff, Option.map_eq_some_iff]
  constructor
  · rintro ⟨t, ht, rfl⟩
    rw [ht, String.toList_ofList]
  · intro hs
    exact ⟨s.toList, hs, String.ofList_toList⟩

/-- The token of a string has the text that its elements mean. -/
theorem stringToken_eq {text? : Option String} {us : List StringUnit}
    (meaning : ∀ s, text? = some s ↔ Means us s.toList) :
    stringToken us.reverse = .string text? := by
  rw [stringToken, List.reverse_reverse]
  congr 1
  apply Option.ext
  intro s
  rw [meaning, ← map_unitsText?_eq_some_iff]

/-! ## Scanning strings -/

theorem tokensFrom_unitText {u : StringUnit} {t : List Char} (h : UnitText u t)
    (done : List StringUnit) (rest : List Char) :
    tokensFrom (.string done) (t ++ rest) = tokensFrom (.string (u :: done)) rest := by
  cases h with
  | @plain c quote backslash printable =>
    have hstep : Scan.step (.string done) c = some ([], .string (.char c :: done)) := by
      simp [Scan.step, quote, backslash, printable]
    exact tokensFrom_skip hstep rest
  | @short letter c escape =>
    have hopen : Scan.step (.string done) '\\' = some ([], .escape done) := rfl
    have hletter : letter ≠ 'u' := by
      rintro rfl
      cases escape
    have hstep : Scan.step (.escape done) letter = some ([], .string (.char c :: done)) := by
      simp [Scan.step, hletter, escape]
    exact (tokensFrom_skip hopen _).trans (tokensFrom_skip hstep rest)
  | hex first second third fourth =>
    simp [tokensFrom, Scan.step, first, second, third, fourth]

theorem tokensFrom_unitsText {us : List StringUnit} {body : List Char} (h : UnitsText us body)
    (done : List StringUnit) (rest : List Char) :
    tokensFrom (.string done) (body ++ rest) = tokensFrom (.string (us.reverse ++ done)) rest := by
  induction h generalizing done with
  | nil => rfl
  | cons unit units ih =>
    rw [List.append_assoc, tokensFrom_unitText unit, ih, List.reverse_cons, List.append_assoc]
    rfl

/-- A string, whatever follows it. -/
theorem tokensFrom_stringText {text? : Option String} {s : List Char} (h : StringText text? s)
    (rest : List Char) :
    tokensFrom .between (s ++ rest) = (tokensFrom .between rest).map (.string text? :: ·) := by
  obtain ⟨units, meaning⟩ := h
  have hopen : Scan.step .between '"' = some ([], .string []) := rfl
  have hclose : ∀ done, Scan.step (.string done) '"' = some ([stringToken done], .between) :=
    fun _ => rfl
  rw [List.cons_append, List.cons_append, List.append_assoc, tokensFrom_skip hopen,
    tokensFrom_unitsText units, List.append_nil, List.singleton_append, tokensFrom_step (hclose _),
    stringToken_eq meaning]
  rfl

/-! ## Scanning numbers -/

/-- What does not make a number longer: another character, or the end of the text. -/
def EndsNumber (rest : List Char) : Prop :=
  ∀ c ∈ rest.head?, c.isDigit = false ∧ c ≠ '.' ∧ c ≠ 'e' ∧ c ≠ 'E'

/-- A number is complete where it may end and does not go on. -/
theorem tokensFrom_complete {part : NumeralPart} (hpart : part.complete = true) (n : Numeral)
    {rest : List Char} (h : EndsNumber rest) :
    tokensFrom (.numeral part n) rest = (tokensFrom .between rest).map (.number n :: ·) := by
  cases rest with
  | nil => simp [tokensFrom, Scan.finish, hpart]
  | cons c rest =>
    obtain ⟨hdigit, hpoint, he, hE⟩ := h c rfl
    have hnext : part.next n c = none := by
      cases part <;> simp_all [NumeralPart.next, NumeralPart.complete]
    cases hstart : Scan.step .between c with
    | none =>
      have hstep : Scan.step (.numeral part n) c = none := by
        simp [Scan.step, hnext, show Scan.start c = none from hstart]
      rw [tokensFrom, hstep, tokensFrom, hstart]
      rfl
    | some p =>
      have hstep : Scan.step (.numeral part n) c = some (.number n :: p.1, p.2) := by
        simp [Scan.step, hnext, hpart, show Scan.start c = some p from hstart]
      rw [tokensFrom_step hstep, tokensFrom_step hstart, Option.map_map]
      rfl

/-- A number with more digits before its point. -/
def addWhole (n : Numeral) (ds : List Char) : Numeral :=
  { n with whole := n.whole ++ ds }

/-- A number with more digits after its point. -/
def addFraction (n : Numeral) (ds : List Char) : Numeral :=
  { n with fraction := n.fraction ++ ds }

/-- A number with more digits in its power. -/
def addPower (n : Numeral) (ds : List Char) : Numeral :=
  { n with power := n.power.map fun p => (p.1, p.2 ++ ds) }

theorem tokensFrom_digits {ds : List Char} (digits : ∀ c ∈ ds, c.isDigit = true)
    (n : Numeral) (rest : List Char) :
    tokensFrom (.numeral .whole n) (ds ++ rest) =
      tokensFrom (.numeral .whole (addWhole n ds)) rest := by
  refine tokensFrom_run (fun n c hc => ?_) (fun n => ?_) (fun n s t => ?_) digits n rest
  · simp [NumeralPart.next, hc, addWhole]
  · simp [addWhole]
  · simp [addWhole]

theorem tokensFrom_fractionDigits {ds : List Char} (digits : ∀ c ∈ ds, c.isDigit = true)
    (n : Numeral) (rest : List Char) :
    tokensFrom (.numeral .fraction n) (ds ++ rest) =
      tokensFrom (.numeral .fraction (addFraction n ds)) rest := by
  refine tokensFrom_run (fun n c hc => ?_) (fun n => ?_) (fun n s t => ?_) digits n rest
  · simp [NumeralPart.next, hc, addFraction]
  · simp [addFraction]
  · simp [addFraction]

theorem tokensFrom_powerDigits {ds : List Char} (digits : ∀ c ∈ ds, c.isDigit = true)
    (n : Numeral) (rest : List Char) :
    tokensFrom (.numeral .power n) (ds ++ rest) =
      tokensFrom (.numeral .power (addPower n ds)) rest := by
  refine tokensFrom_run (fun n c hc => ?_) (fun n => ?_) (fun n s t => ?_) digits n rest
  · simp [NumeralPart.next, hc, addPower]
  · simp [addPower]
  · simp [addPower, Function.comp_def]

/-- The sign of a number and the digits before its point. -/
theorem tokensFrom_wholeDigits (negative : Bool) {whole : List Char} (h : WholeDigits whole)
    (rest : List Char) :
    ∃ part, (part = .zero ∨ part = .whole)
      ∧ tokensFrom .between (signText negative ++ (whole ++ rest)) =
        tokensFrom (.numeral part ⟨negative, whole, [], none⟩) rest := by
  obtain ⟨⟨hne, hdigits⟩, hzero⟩ := h
  obtain ⟨c, ds, rfl⟩ := List.exists_cons_of_ne_nil hne
  have hsign : Scan.step .between '-' = some ([], .numeral .sign ⟨true, [], [], none⟩) := rfl
  by_cases hc : c = '0'
  · subst hc
    obtain rfl : ds = [] := by simpa using hzero rfl
    have hfirst : Scan.step .between '0' = some ([], .numeral .zero ⟨false, ['0'], [], none⟩) := rfl
    refine ⟨.zero, .inl rfl, ?_⟩
    cases negative with
    | false => exact tokensFrom_skip hfirst rest
    | true => exact (tokensFrom_skip hsign _).trans (tokensFrom_next rfl rest)
  · have hdigit := hdigits c List.mem_cons_self
    have hrest := fun d hd => hdigits d (List.mem_cons_of_mem c hd)
    refine ⟨.whole, .inr rfl, ?_⟩
    cases negative with
    | false =>
      have hfirst : Scan.step .between c = some ([], .numeral .whole ⟨false, [c], [], none⟩) :=
        start_digit hdigit hc
      show tokensFrom .between (c :: (ds ++ rest)) = _
      rw [tokensFrom_skip hfirst, tokensFrom_digits hrest]
      rfl
    | true =>
      have hfirst : NumeralPart.next .sign ⟨true, [], [], none⟩ c =
          some (.whole, ⟨true, [c], [], none⟩) := by
        simp [NumeralPart.next, hc, hdigit]
      show tokensFrom .between ('-' :: c :: (ds ++ rest)) = _
      rw [tokensFrom_skip hsign, tokensFrom_next hfirst, tokensFrom_digits hrest]
      rfl

/-- The parts of a number after which a power may follow. -/
def BeforePower (part : NumeralPart) : Prop :=
  part = .zero ∨ part = .whole ∨ part = .fraction

theorem tokensFrom_fractionText {fraction f : List Char} (h : FractionText fraction f)
    {part : NumeralPart} (hpart : part = .zero ∨ part = .whole) {n : Numeral}
    (hn : n.fraction = []) (rest : List Char) :
    ∃ part', BeforePower part' ∧ tokensFrom (.numeral part n) (f ++ rest) =
      tokensFrom (.numeral part' { n with fraction := fraction }) rest := by
  cases h with
  | absent =>
    refine ⟨part, by rcases hpart with h | h <;> simp [BeforePower, h], ?_⟩
    rw [List.nil_append, ← hn]
  | present digits =>
    obtain ⟨hne, hdigits⟩ := digits
    obtain ⟨c, ds, rfl⟩ := List.exists_cons_of_ne_nil hne
    have hpoint : part.next n '.' = some (.point, n) := by
      rcases hpart with rfl | rfl <;> rfl
    have hfirst : NumeralPart.next .point n c = some (.fraction, addFraction n [c]) := by
      simp [NumeralPart.next, hdigits c List.mem_cons_self, addFraction]
    refine ⟨.fraction, .inr (.inr rfl), ?_⟩
    rw [List.cons_append, tokensFrom_next hpoint, List.cons_append, tokensFrom_next hfirst,
      tokensFrom_fractionDigits fun d hd => hdigits d (List.mem_cons_of_mem c hd)]
    simp [addFraction, hn]

theorem next_mark {part : NumeralPart} (hpart : BeforePower part) {e : Char}
    (he : e = 'e' ∨ e = 'E') (n : Numeral) : part.next n e = some (.mark, n) := by
  rcases hpart with rfl | rfl | rfl <;> rcases he with rfl | rfl <;> rfl

theorem tokensFrom_powerText {power : Option (Bool × List Char)} {p : List Char}
    (h : PowerText power p) {part : NumeralPart} (hpart : BeforePower part) {n : Numeral}
    (hn : n.power = none) (rest : List Char) :
    ∃ part', part'.complete = true ∧ tokensFrom (.numeral part n) (p ++ rest) =
      tokensFrom (.numeral part' { n with power := power }) rest := by
  cases h with
  | absent =>
    refine ⟨part, by rcases hpart with rfl | rfl | rfl <;> rfl, ?_⟩
    rw [List.nil_append, ← hn]
  | bare mark digits =>
    obtain ⟨hne, hdigits⟩ := digits
    obtain ⟨c, ds, rfl⟩ := List.exists_cons_of_ne_nil hne
    have hc := hdigits c List.mem_cons_self
    have hfirst : NumeralPart.next .mark n c =
        some (.power, { n with power := some (false, [c]) }) := by
      have hplus : c ≠ '+' := ne_of_isDigit hc rfl
      have hminus : c ≠ '-' := ne_of_isDigit hc rfl
      simp [NumeralPart.next, hc, hplus, hminus]
    refine ⟨.power, rfl, ?_⟩
    rw [List.cons_append, tokensFrom_next (next_mark hpart mark n), List.cons_append,
      tokensFrom_next hfirst,
      tokensFrom_powerDigits fun d hd => hdigits d (List.mem_cons_of_mem c hd)]
    rfl
  | plus mark digits | minus mark digits =>
    obtain ⟨hne, hdigits⟩ := digits
    obtain ⟨c, ds, rfl⟩ := List.exists_cons_of_ne_nil hne
    have hfirst : ∀ sign : Bool, NumeralPart.next .markSign { n with power := some (sign, []) } c =
        some (.power, { n with power := some (sign, [c]) }) := by
      intro sign
      simp [NumeralPart.next, hdigits c List.mem_cons_self]
    refine ⟨.power, rfl, ?_⟩
    rw [List.cons_append, tokensFrom_next (next_mark hpart mark n), List.cons_append,
      tokensFrom_next rfl, List.cons_append, tokensFrom_next (hfirst _),
      tokensFrom_powerDigits fun d hd => hdigits d (List.mem_cons_of_mem c hd)]
    rfl

/-- A number, before something that ends it. -/
theorem tokensFrom_numeralText {n : Numeral} {s : List Char} (h : NumeralText n s)
    {rest : List Char} (hrest : EndsNumber rest) :
    tokensFrom .between (s ++ rest) = (tokensFrom .between rest).map (.number n :: ·) := by
  obtain @⟨negative, whole, fraction, f, p, power, hwhole, hfraction, hpower⟩ := h
  obtain ⟨part, hpart, hscan⟩ := tokensFrom_wholeDigits negative hwhole (f ++ (p ++ rest))
  obtain ⟨part', hpart', hscan'⟩ := tokensFrom_fractionText hfraction hpart
    (n := ⟨negative, whole, [], none⟩) rfl (p ++ rest)
  obtain ⟨part'', hpart'', hscan''⟩ := tokensFrom_powerText hpower hpart'
    (n := ⟨negative, whole, fraction, none⟩) rfl rest
  simp only [List.append_assoc]
  rw [hscan, hscan', hscan'']
  exact tokensFrom_complete hpart'' _ hrest

/-! ## Scanning documents -/

theorem tokensFrom_blank {b : List Char} (h : Blank b) (rest : List Char) :
    tokensFrom .between (b ++ rest) = tokensFrom .between rest := by
  induction b with
  | nil => rfl
  | cons c b ih =>
    have hstep : Scan.step .between c = some ([], .between) := by
      simp [Scan.step, Scan.start, h c List.mem_cons_self]
    rw [List.cons_append, tokensFrom_skip hstep, ih fun d hd => h d (List.mem_cons_of_mem c hd)]

theorem endsNumber_cons {c : Char} (h : c = ',' ∨ c = ']' ∨ c = '\x7d') (rest : List Char) :
    EndsNumber (c :: rest) := by
  intro d hd
  obtain rfl : c = d := by simpa using hd
  rcases h with rfl | rfl | rfl <;> decide

/-- A number ends before white space as it does before what follows that. -/
theorem endsNumber_blank {b rest : List Char} (h : Blank b) (hrest : EndsNumber rest) :
    EndsNumber (b ++ rest) := by
  cases b with
  | nil => exact hrest
  | cons c b =>
    intro d hd
    obtain rfl : c = d := by simpa using hd
    have hspace := h c List.mem_cons_self
    simp only [isSpace, Bool.or_eq_true, decide_eq_true_eq] at hspace
    rcases hspace with ((rfl | rfl) | rfl) | rfl <;> decide

/-- The tokens of what a stretch of a text spells. -/
def Part.tokens : Part → List Token
  | .value j => Json.tokens j
  | .items [] => []
  | .items (j :: l) => Json.tokens j ++ itemTokens l
  | .members [] => []
  | .members ((key, j) :: l) => .string key :: .colon :: (Json.tokens j ++ memberTokens l)

theorem tokens_array (l : List Json) :
    tokens (.array l) = .openArray :: (Part.tokens (.items l) ++ [.closeArray]) := by
  cases l with
  | nil => rfl
  | cons j l => rw [tokens, Part.tokens, List.append_assoc]

theorem tokens_object (l : List (Option String × Json)) :
    tokens (.object l) = .openObject :: (Part.tokens (.members l) ++ [.closeObject]) := by
  cases l with
  | nil => rfl
  | cons e l =>
    rw [tokens, Part.tokens, List.cons_append, List.cons_append, List.append_assoc]

theorem itemTokens_eq {l : List Json} (h : l ≠ []) :
    itemTokens l = .comma :: Part.tokens (.items l) := by
  cases l with
  | nil => exact absurd rfl h
  | cons j l => rfl

theorem memberTokens_eq {l : List (Option String × Json)} (h : l ≠ []) :
    memberTokens l = .comma :: Part.tokens (.members l) := by
  cases l with
  | nil => exact absurd rfl h
  | cons e l => rfl

/-- Brackets hold an item or a member where the grammar asks for one. -/
theorem Spelling.ne_nil {p : Part} {s : List Char} (h : Spelling p s) :
    p ≠ .items [] ∧ p ≠ .members [] := by
  cases h <;> simp

/-- What a stretch of a text spells is what is scanned, before something that ends a number. -/
theorem tokensFrom_spelling {p : Part} {s : List Char} (h : Spelling p s) {rest : List Char}
    (hrest : EndsNumber rest) :
    tokensFrom .between (s ++ rest) = (tokensFrom .between rest).map (p.tokens ++ ·) := by
  have hpunctuation : ∀ {c : Char} {t : Token}, Scan.step .between c = some ([t], .between) →
      ∀ more, tokensFrom .between (c :: more) = (tokensFrom .between more).map (t :: ·) :=
    fun hstep more => tokensFrom_step hstep more
  have hcomma (more : List Char) := hpunctuation (c := ',') (t := .comma) rfl more
  have hcolon (more : List Char) := hpunctuation (c := ':') (t := .colon) rfl more
  induction h generalizing rest with
  | null =>
    have hstart : Scan.step .between 'n' = some ([], .literal ['u', 'l', 'l'] .null) := rfl
    exact (tokensFrom_skip hstart _).trans (tokensFrom_literal (List.cons_ne_nil _ _) _ rest)
  | true =>
    have hstart : Scan.step .between 't' = some ([], .literal ['r', 'u', 'e'] (.bool true)) := rfl
    exact (tokensFrom_skip hstart _).trans (tokensFrom_literal (List.cons_ne_nil _ _) _ rest)
  | false =>
    have hstart : Scan.step .between 'f' =
        some ([], .literal ['a', 'l', 's', 'e'] (.bool false)) := rfl
    exact (tokensFrom_skip hstart _).trans (tokensFrom_literal (List.cons_ne_nil _ _) _ rest)
  | number numeral => exact tokensFrom_numeralText numeral hrest
  | string string => exact tokensFrom_stringText string rest
  | @emptyArray b blank =>
    rw [List.cons_append, List.cons_append, List.append_assoc, hpunctuation (t := .openArray) rfl,
      tokensFrom_blank blank, List.singleton_append, hpunctuation (t := .closeArray) rfl,
      Option.map_map]
    rfl
  | @array l s items ih =>
    rw [List.cons_append, List.cons_append, List.append_assoc, hpunctuation (t := .openArray) rfl,
      List.singleton_append, ih (endsNumber_cons (.inr (.inl rfl)) rest),
      hpunctuation (t := .closeArray) rfl]
    simp [Part.tokens, tokens_array, Function.comp_def]
  | @emptyObject b blank =>
    rw [List.cons_append, List.cons_append, List.append_assoc, hpunctuation (t := .openObject) rfl,
      tokensFrom_blank blank, List.singleton_append, hpunctuation (t := .closeObject) rfl,
      Option.map_map]
    rfl
  | @object l s members ih =>
    rw [List.cons_append, List.cons_append, List.append_assoc, hpunctuation (t := .openObject) rfl,
      List.singleton_append, ih (endsNumber_cons (.inr (.inr rfl)) rest),
      hpunctuation (t := .closeObject) rfl]
    simp [Part.tokens, tokens_object, Function.comp_def]
  | lastItem before value after ih =>
    rw [List.append_assoc, List.append_assoc, tokensFrom_blank before,
      ih (endsNumber_blank after hrest), tokensFrom_blank after]
    simp [Part.tokens, itemTokens]
  | item before value after items ih ih' =>
    have hmore := itemTokens_eq fun hnil => items.ne_nil.1 (congrArg Part.items hnil)
    simp only [List.append_assoc, List.cons_append]
    rw [tokensFrom_blank before, ih (endsNumber_blank after (endsNumber_cons (.inl rfl) _)),
      tokensFrom_blank after, hcomma, ih' hrest]
    simp [Part.tokens, hmore, Function.comp_def]
  | lastMember before name afterName beforeValue value after ih =>
    simp only [List.append_assoc, List.cons_append]
    rw [tokensFrom_blank before, tokensFrom_stringText name, tokensFrom_blank afterName, hcolon,
      tokensFrom_blank beforeValue, ih (endsNumber_blank after hrest), tokensFrom_blank after]
    simp [Part.tokens, memberTokens, Function.comp_def]
  | member before name afterName beforeValue value after members ih ih' =>
    have hmore := memberTokens_eq fun hnil => members.ne_nil.2 (congrArg Part.members hnil)
    simp only [List.append_assoc, List.cons_append]
    rw [tokensFrom_blank before, tokensFrom_stringText name, tokensFrom_blank afterName, hcolon,
      tokensFrom_blank beforeValue, ih (endsNumber_blank after (endsNumber_cons (.inl rfl) _)),
      tokensFrom_blank after, hcomma, ih' hrest]
    simp [Part.tokens, hmore, Function.comp_def]

/-! ## Reading documents -/

/-- A text that spells a document is read as that document. -/
theorem parse?_of_spells {s : List Char} {j : Json} (h : Spells s j) : parse? s = some j := by
  obtain ⟨a, t, b, hbefore, hvalue, hafter, rfl⟩ := h
  have hend : EndsNumber (b ++ []) := endsNumber_blank hafter (by simp [EndsNumber])
  have htokens : tokens? (a ++ t ++ b) = some (tokens j) := by
    have hscan := tokensFrom_spelling hvalue hend
    rw [tokensFrom_blank hafter, List.append_nil] at hscan
    rw [tokens?, List.append_assoc, tokensFrom_blank hbefore, hscan]
    simp [tokensFrom, Scan.finish, Part.tokens]
  rw [parse?, htokens, Option.bind_some, ofTokens?_eq_some_iff]

end SessionSync.Json
