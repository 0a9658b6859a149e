import SessionSync.Json.Printer
import SessionSync.Proofs.Json.Grammar

/-!
# Printing a document and parsing it

A document with integers and texts only is what its printed form spells: each part of it is printed
as the grammar has it.

* `numeralText_ofInt`, `stringText_quote` — integers and texts.
* `spelling_prettyAt` — documents.
* `parse?_pretty` — what is printed is read back.
-/

namespace SessionSync.Json

/-! ## Documents that are written -/

mutual

/-- The numbers of a document are integers, and its strings and keys have texts. -/
def Written : Json → Prop
  | .null => True
  | .bool _ => True
  | .number n => ∃ i, n = .ofInt i
  | .string text? => text?.isSome = true
  | .array items => ItemsWritten items
  | .object members => MembersWritten members

/-- All items are written. -/
def ItemsWritten : List Json → Prop
  | [] => True
  | j :: rest => Written j ∧ ItemsWritten rest

/-- All members have a text as key and are written. -/
def MembersWritten : List (Option String × Json) → Prop
  | [] => True
  | (key, j) :: rest => key.isSome = true ∧ Written j ∧ MembersWritten rest

end

theorem itemsWritten_iff (items : List Json) : ItemsWritten items ↔ ∀ j ∈ items, Written j := by
  induction items with
  | nil => simp [ItemsWritten]
  | cons j items ih => simp [ItemsWritten, ih]

theorem membersWritten_iff (members : List (Option String × Json)) :
    MembersWritten members ↔ ∀ e ∈ members, e.1.isSome = true ∧ Written e.2 := by
  induction members with
  | nil => simp [MembersWritten]
  | cons e members ih =>
    obtain ⟨key, j⟩ := e
    simp [MembersWritten, ih, and_assoc]

/-! ## Numbers -/

theorem digits_toDigits (n : Nat) : Digits (Nat.toDigits 10 n) :=
  ⟨Nat.toDigits_ne_nil, fun _ hc => isDigit_of_mem_toDigits hc⟩

theorem wholeDigits_toDigits (n : Nat) : WholeDigits (Nat.toDigits 10 n) := by
  refine ⟨digits_toDigits n, ?_⟩
  intro hlead
  by_cases hzero : n = 0
  · subst hzero
    rfl
  · obtain ⟨c, rest, hdigits, hc⟩ := head_toDigits hzero
    rw [hdigits] at hlead
    exact absurd (Option.some.inj hlead) hc

/-- An integer is printed as the grammar has it. -/
theorem numeralText_ofInt (i : Int) : NumeralText (.ofInt i) (Numeral.ofInt i).text := by
  have htext : (Numeral.ofInt i).text =
      signText (decide (i < 0)) ++ (Nat.toDigits 10 i.natAbs ++ ([] ++ [])) := by
    by_cases hneg : i < 0 <;> simp [Numeral.text, Numeral.ofInt, signText, hneg]
  rw [htext]
  exact .mk _ (wholeDigits_toDigits i.natAbs) .absent .absent

/-! ## Strings -/

/-- How a character stands in a string that was printed. -/
def printedUnit (c : Char) : StringUnit :=
  if c.toNat < 0x20 ∧ c ∉ ['\x08', '\x0C', '\n', '\r', '\t'] then .code c.toNat else .char c

theorem hexValue?_hexDigit : ∀ d < 16, hexValue? (hexDigit d) = some d := by decide

theorem unitText_hex {n : Nat} (h : n < 0x20) :
    UnitText (.code n) ['\\', 'u', '0', '0', hexDigit (n / 16), hexDigit (n % 16)] := by
  have hhigh := hexValue?_hexDigit (n / 16) (by omega)
  have hlow := hexValue?_hexDigit (n % 16) (by omega)
  have hvalue : ((0 * 16 + 0) * 16 + n / 16) * 16 + n % 16 = n := by omega
  have hzero : hexValue? '0' = some 0 := rfl
  have hunit := UnitText.hex hzero hzero hhigh hlow
  rwa [hvalue] at hunit

/-- A character is printed in a string as one element. -/
theorem unitText_escapeChar (c : Char) : UnitText (printedUnit c) (escapeChar c) := by
  unfold escapeChar
  split
  · exact .short rfl
  · exact .short rfl
  · exact .short rfl
  · exact .short rfl
  · exact .short rfl
  · exact .short rfl
  · exact .short rfl
  · next hquote hbackslash hb hf hn hr ht =>
    split
    · next hcontrol =>
      have hunit : printedUnit c = .code c.toNat := by
        unfold printedUnit
        rw [if_pos ⟨hcontrol, by simp_all⟩]
      rw [hunit]
      exact unitText_hex hcontrol
    · next hplain =>
      have hunit : printedUnit c = .char c := if_neg (fun hk => hplain hk.1)
      rw [hunit]
      exact .plain hquote hbackslash (by omega)

theorem unitsText_escaped (s : List Char) :
    UnitsText (s.map printedUnit) (s.flatMap escapeChar) := by
  induction s with
  | nil => exact .nil
  | cons c s ih => exact .cons (unitText_escapeChar c) ih

/-- The elements of a printed text mean that text. -/
theorem meaning_printed (s : List Char) : Means (s.map printedUnit) s := by
  induction s with
  | nil => exact .nil
  | cons c s ih =>
    rw [List.map_cons, printedUnit]
    split
    · next h =>
      have hhigh : isHighSurrogate c.toNat = false := by simp [isHighSurrogate]; omega
      have hlow : isLowSurrogate c.toNat = false := by simp [isLowSurrogate]; omega
      simpa [Char.ofNat_toNat] using Means.code hhigh hlow ih
    · exact .char ih

/-- A text is printed as a string that has it. -/
theorem stringText_quote (s : String) : StringText (some s) (quote s.toList) := by
  refine .mk (unitsText_escaped s.toList) ?_
  intro t
  have hmeaning := map_unitsText?_eq_some_iff.2 (meaning_printed s.toList)
  rw [← map_unitsText?_eq_some_iff, hmeaning]

/-! ## Documents -/

theorem blank_newLine (level : Nat) : Blank (newLine level) := by
  intro c hc
  rcases List.mem_cons.1 hc with rfl | hc
  · rfl
  · rw [List.eq_of_mem_replicate hc]
    rfl

theorem stringText_key {key : Option String} (h : key.isSome = true) :
    StringText key (quote (key.getD "").toList) := by
  obtain ⟨s, rfl⟩ := Option.isSome_iff_exists.1 h
  exact stringText_quote s

mutual

/-- A document that is written is printed as the grammar has it. -/
theorem spelling_prettyAt (level : Nat) (j : Json) (hj : Written j) :
    Spelling (.value j) (prettyAt level j) := by
  cases j with
  | null => exact .null
  | bool b =>
    cases b with
    | true => exact .true
    | false => exact .false
  | number n =>
    obtain ⟨i, rfl⟩ := hj
    exact .number (numeralText_ofInt i)
  | string text? => exact .string (stringText_key hj)
  | array items =>
    cases items with
    | nil => exact .emptyArray blank_nil
    | cons j items =>
      rw [Written, ItemsWritten] at hj
      have hitems := spelling_prettyItems (level + 1) items hj.2
        (spelling_prettyAt (level + 1) j hj.1) (blank_newLine (level + 1)) (blank_newLine level)
      simpa [prettyAt] using Spelling.array hitems
  | object members =>
    cases members with
    | nil => exact .emptyObject blank_nil
    | cons e members =>
      obtain ⟨key, j⟩ := e
      rw [Written, MembersWritten] at hj
      have hmembers := spelling_prettyMembers (level + 1) members hj.2.2 (stringText_key hj.1)
        (spelling_prettyAt (level + 1) j hj.2.1) (blank_newLine (level + 1)) (blank_newLine level)
      simpa [prettyAt] using Spelling.object hmembers

/-- The first item of an array, with those after it as they are printed. -/
theorem spelling_prettyItems (level : Nat) (items : List Json) (h : ItemsWritten items) {j : Json}
    {a s b : List Char} (value : Spelling (.value j) s) (before : Blank a) (after : Blank b) :
    Spelling (.items (j :: items)) (a ++ s ++ (prettyItems level items ++ b)) := by
  cases items with
  | nil => exact .lastItem before value after
  | cons j' items =>
    rw [ItemsWritten] at h
    have hrest := spelling_prettyItems level items h.2 (spelling_prettyAt level j' h.1)
      (blank_newLine level) after
    simpa [prettyItems] using Spelling.item before value blank_nil hrest

/-- The first member of an object, with those after it as they are printed. -/
theorem spelling_prettyMembers (level : Nat) (members : List (Option String × Json))
    (h : MembersWritten members) {key : Option String} {j : Json} {a k s b : List Char}
    (name : StringText key k) (value : Spelling (.value j) s) (before : Blank a)
    (after : Blank b) :
    Spelling (.members ((key, j) :: members))
      (a ++ k ++ ':' :: ' ' :: (s ++ (prettyMembers level members ++ b))) := by
  have hspace : Blank [' '] := by simp [Blank, isSpace]
  cases members with
  | nil =>
    simpa [prettyMembers] using
      Spelling.lastMember before name blank_nil hspace value after
  | cons e members =>
    obtain ⟨key', j'⟩ := e
    rw [MembersWritten] at h
    have hrest := spelling_prettyMembers level members h.2.2 (stringText_key h.1)
      (spelling_prettyAt level j' h.2.1) (blank_newLine level) after
    simpa [prettyMembers] using
      Spelling.member before name blank_nil hspace value blank_nil hrest

end

/-- What is printed of a document that is written spells it. -/
theorem spells_pretty {j : Json} (h : Written j) : Spells j.pretty j :=
  ⟨[], j.pretty, [], blank_nil, spelling_prettyAt 0 j h, blank_nil, by simp⟩

/-- A document that is written is what its printed form spells. -/
theorem parse?_pretty {j : Json} (h : Written j) : parse? j.pretty = some j :=
  parse?_of_spells (spells_pretty h)

end SessionSync.Json
