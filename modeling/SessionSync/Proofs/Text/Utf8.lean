import SessionSync.Text.Utf8

/-!
# Writing UTF-8 and reading it back

Every character is read back from its bytes, whatever follows them, so a text that has been written
is read back as it was.

* `unitsFrom_encodeChar` — one character, over the rest of the bytes.
* `decodeLossy_encode`, `decode?_encode` — a text; nothing of it is replaced or refused.
* `encode_lt` — texts are in the same order as their bytes.
-/

namespace SessionSync.Text.Utf8

/-! ## First bytes -/

theorem toNat_toUInt8 {n : Nat} (h : n < 256) : n.toUInt8.toNat = n := by
  rw [Nat.toUInt8, UInt8.toNat_ofNat', Nat.mod_eq_of_lt h]

theorem lead_single {b : UInt8} (h : b.toNat < 0x80) : lead b = .single (Char.ofNat b.toNat) :=
  if_pos h

theorem lead_two {b : UInt8} (h₁ : 0xC2 ≤ b.toNat) (h₂ : b.toNat < 0xE0) :
    lead b = .longer ⟨1, b.toNat - 0xC0, 0x80, 0xBF⟩ := by
  unfold lead
  dsimp only
  rw [if_neg (by omega), if_neg (by omega), if_pos h₂]

theorem lead_three {b : UInt8} (h₁ : 0xE0 ≤ b.toNat) (h₂ : b.toNat < 0xF0) :
    lead b = .longer ⟨2, b.toNat - 0xE0, if b.toNat = 0xE0 then 0xA0 else 0x80,
      if b.toNat = 0xED then 0x9F else 0xBF⟩ := by
  unfold lead
  dsimp only
  rw [if_neg (by omega), if_neg (by omega), if_neg (by omega)]
  by_cases he0 : b.toNat = 0xE0
  · simp [he0]
  · by_cases hed : b.toNat = 0xED
    · simp [hed]
    · simp [he0, hed, h₂]

theorem lead_four {b : UInt8} (h₁ : 0xF0 ≤ b.toNat) (h₂ : b.toNat ≤ 0xF4) :
    lead b = .longer ⟨3, b.toNat - 0xF0, if b.toNat = 0xF0 then 0x90 else 0x80,
      if b.toNat = 0xF4 then 0x8F else 0xBF⟩ := by
  unfold lead
  dsimp only
  rw [if_neg (by omega), if_neg (by omega), if_neg (by omega), if_neg (by omega),
    if_neg (by omega), if_neg (by omega)]
  by_cases hf0 : b.toNat = 0xF0
  · simp [hf0]
  · by_cases hf4 : b.toNat = 0xF4
    · simp [hf4]
    · simp [hf0, hf4, show b.toNat < 0xF4 by omega]

/-! ## Further bytes -/

theorem unitsFrom_longer {b : UInt8} {p : Partial} (h : lead b = .longer p) (rest : List UInt8) :
    unitsFrom none (b :: rest) = unitsFrom (some p) rest := by
  simp only [unitsFrom, h]

theorem unitsFrom_next {b : UInt8} {due bits least most : Nat} (hdue : 1 < due)
    (hleast : least ≤ b.toNat) (hmost : b.toNat ≤ most) (rest : List UInt8) :
    unitsFrom (some ⟨due, bits, least, most⟩) (b :: rest) =
      unitsFrom (some ⟨due - 1, bits * 0x40 + (b.toNat - 0x80), 0x80, 0xBF⟩) rest := by
  simp only [unitsFrom]
  rw [if_pos ⟨hleast, hmost⟩, if_neg (by omega)]

theorem unitsFrom_last {b : UInt8} {bits least most : Nat} (hleast : least ≤ b.toNat)
    (hmost : b.toNat ≤ most) (rest : List UInt8) :
    unitsFrom (some ⟨1, bits, least, most⟩) (b :: rest) =
      some (Char.ofNat (bits * 0x40 + (b.toNat - 0x80))) :: unitsFrom none rest := by
  simp only [unitsFrom]
  rw [if_pos ⟨hleast, hmost⟩, if_pos (Nat.le_refl 1)]

/-! ## Characters -/

/-- A number that is a code point: below the surrogates or above them. -/
theorem toNat_bounds (c : Char) : c.toNat < 0xD800 ∨ (0xDFFF < c.toNat ∧ c.toNat < 0x110000) :=
  c.valid

/-- A character is read back from its bytes. -/
theorem unitsFrom_encodeChar (c : Char) (rest : List UInt8) :
    unitsFrom none (encodeChar c ++ rest) = some c :: unitsFrom none rest := by
  have hbounds := toNat_bounds c
  have hc : Char.ofNat c.toNat = c := Char.ofNat_toNat c
  unfold encodeChar
  dsimp only
  generalize c.toNat = n at hbounds hc
  split
  · next h =>
    have hb := toNat_toUInt8 (n := n) (by omega)
    show unitsFrom none (n.toUInt8 :: rest) = _
    simp only [unitsFrom, lead_single (b := n.toUInt8) (by omega), hb, hc]
  · split
    · next h₁ h₂ =>
      have hb := toNat_toUInt8 (n := 0xC0 + n / 0x40) (by omega)
      have ht := toNat_toUInt8 (n := 0x80 + n % 0x40) (by omega)
      rw [List.cons_append, unitsFrom_longer (lead_two (by omega) (by omega)), List.cons_append,
        unitsFrom_last (by omega) (by omega), hb, ht,
        show (0xC0 + n / 0x40 - 0xC0) * 0x40 + (0x80 + n % 0x40 - 0x80) = n by omega, hc]
      rfl
    · split
      · next h₁ h₂ h₃ =>
        have hb := toNat_toUInt8 (n := 0xE0 + n / 0x1000) (by omega)
        have hs := toNat_toUInt8 (n := 0x80 + n / 0x40 % 0x40) (by omega)
        have ht := toNat_toUInt8 (n := 0x80 + n % 0x40) (by omega)
        rw [List.cons_append, unitsFrom_longer (lead_three (by omega) (by omega)),
          List.cons_append, unitsFrom_next (by omega) (by split <;> omega) (by split <;> omega),
          List.cons_append, unitsFrom_last (by omega) (by omega), hb, hs, ht,
          show ((0xE0 + n / 0x1000 - 0xE0) * 0x40 + (0x80 + n / 0x40 % 0x40 - 0x80)) * 0x40
            + (0x80 + n % 0x40 - 0x80) = n by omega, hc]
        rfl
      · next h₁ h₂ h₃ =>
        have hb := toNat_toUInt8 (n := 0xF0 + n / 0x40000) (by omega)
        have hs := toNat_toUInt8 (n := 0x80 + n / 0x1000 % 0x40) (by omega)
        have hr := toNat_toUInt8 (n := 0x80 + n / 0x40 % 0x40) (by omega)
        have ht := toNat_toUInt8 (n := 0x80 + n % 0x40) (by omega)
        rw [List.cons_append, unitsFrom_longer (lead_four (by omega) (by omega)),
          List.cons_append, unitsFrom_next (by omega) (by split <;> omega) (by split <;> omega),
          List.cons_append, unitsFrom_next (by omega) (by omega) (by omega),
          List.cons_append, unitsFrom_last (by omega) (by omega), hb, hs, hr, ht,
          show (((0xF0 + n / 0x40000 - 0xF0) * 0x40 + (0x80 + n / 0x1000 % 0x40 - 0x80)) * 0x40
            + (0x80 + n / 0x40 % 0x40 - 0x80)) * 0x40 + (0x80 + n % 0x40 - 0x80) = n by omega, hc]
        rfl

/-! ## Texts -/

theorem units_encode (s : List Char) : units (encode s) = s.map some := by
  unfold units encode
  induction s with
  | nil => rfl
  | cons c s ih => rw [List.flatMap_cons, unitsFrom_encodeChar, ih, List.map_cons]

/-- A text that has been written is read back as it was. -/
theorem decodeLossy_encode (s : List Char) : decodeLossy (encode s) = s := by
  rw [decodeLossy, units_encode, List.map_map]
  exact List.map_id s

/-- The bytes of a text that has been written are well-formed. -/
theorem decode?_encode (s : List Char) : decode? (encode s) = some s := by
  rw [decode?, units_encode]
  induction s with
  | nil => rfl
  | cons c s ih =>
    rw [List.map_cons, List.mapM_cons, ih]
    rfl

/-! ## Order -/

theorem encodeChar_ne_nil (c : Char) : encodeChar c ≠ [] := by
  unfold encodeChar
  dsimp only
  repeat' split
  all_goals exact List.cons_ne_nil _ _

/-- A character that comes first has the bytes that come first, whatever follows them. -/
theorem encodeChar_lt {c d : Char} (h : c < d) (x y : List UInt8) :
    encodeChar c ++ x < encodeChar d ++ y := by
  have hlt : c.toNat < d.toNat := h
  have hd := toNat_bounds d
  have hthird (n : Nat) : n / 0x1000 = n / 0x40 / 0x40 := (Nat.div_div_eq_div_mul n 0x40 0x40).symm
  have hfourth (n : Nat) : n / 0x40000 = n / 0x40 / 0x40 / 0x40 := by
    rw [Nat.div_div_eq_div_mul, Nat.div_div_eq_div_mul]
  unfold encodeChar
  simp only [hthird, hfourth]
  generalize c.toNat = m at hlt
  generalize d.toNat = n at hlt hd
  -- a longer form begins with a greater byte, and forms of one length compare digit by digit
  repeat' split
  all_goals
    simp only [List.cons_append, List.nil_append, List.cons_lt_cons_iff, UInt8.lt_iff_toNat_lt,
      ← UInt8.toNat_inj, Nat.toUInt8, UInt8.toNat_ofNat']
    omega

/-- The order of code points is the order of bytes. -/
theorem encode_lt {s t : List Char} (h : s < t) : encode s < encode t := by
  unfold encode
  induction s generalizing t with
  | nil =>
    cases t with
    | nil => exact absurd h (List.lt_irrefl _)
    | cons d t =>
      obtain ⟨b, rest, hd⟩ := List.exists_cons_of_ne_nil (encodeChar_ne_nil d)
      rw [List.flatMap_cons, List.flatMap_nil, hd, List.cons_append]
      exact List.nil_lt_cons _ _
  | cons c s ih =>
    cases t with
    | nil => cases h
    | cons d t =>
      rw [List.flatMap_cons, List.flatMap_cons]
      rcases List.cons_lt_cons_iff.1 h with hcd | ⟨rfl, hst⟩
      · exact encodeChar_lt hcd _ _
      · exact List.append_left_lt (ih hst)

end SessionSync.Text.Utf8
