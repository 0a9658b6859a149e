import SessionSync.Proofs.Json.RoundTrip
import SessionSync.Proofs.Text.Normalization
import SessionSync.Proofs.Text.Utf8
import SessionSync.Store.BookFile

/-!
# The account file is read as it was written

A book whose accounts are in normal form comes back from its bytes as it was, and from its directory
once it has been saved.

* `AccountBook.ofJson?_toJson` — the records, one lemma for each.
* `bookOfBytes?_toBytes` — the bytes.
* `saveBook_of_file`, `readBook_of_file` — the file.
-/

namespace SessionSync

/-! ## Fields -/

namespace Json

theorem toText?_ofString (s : String) : (ofString s).toText? = some s := rfl

theorem toInt64?_ofInt (i : Int64) : (ofInt i.toInt).toInt64? = some i := by
  have hbounds : Int64.minValue.toInt ≤ i.toInt ∧ i.toInt ≤ Int64.maxValue.toInt :=
    ⟨i.minValue_le_toInt, i.toInt_le⟩
  unfold toInt64? ofInt
  simp only [Numeral.toInt?_ofInt]
  rw [if_pos hbounds, Int64.ofInt_toInt]

theorem toUInt64?_ofInt (n : UInt64) : (ofInt n.toNat).toUInt64? = some n := by
  have hbounds : (0 : Int) ≤ n.toNat ∧ (n.toNat : Int).toNat < UInt64.size :=
    ⟨Int.natCast_nonneg _, n.toNat_lt_size⟩
  unfold toUInt64? ofInt
  simp only [Numeral.toInt?_ofInt]
  rw [if_pos hbounds, Int.toNat_natCast, UInt64.ofNat_toNat]

theorem written_ofString (s : String) : Written (ofString s) := rfl

theorem written_ofInt (i : Int) : Written (ofInt i) := ⟨i, rfl⟩

/-- An object is written if all its fields are. -/
theorem written_ofFields {fields : List (String × Json)} (h : ∀ e ∈ fields, Written e.2) :
    Written (ofFields fields) := by
  rw [ofFields, Written, membersWritten_iff]
  intro e he
  obtain ⟨field, hfield, rfl⟩ := List.mem_map.1 he
  exact ⟨rfl, h field hfield⟩

/-- A list is read back if all its items are. -/
theorem toListOf?_map {read : Json → Option α} {write : α → Json} {l : List α}
    (h : ∀ x ∈ l, read (write x) = some x) : toListOf? read (.array (l.map write)) = some l := by
  unfold toListOf?
  rw [toList?, Option.bind_some]
  induction l with
  | nil => rfl
  | cons x l ih =>
    rw [List.map_cons, List.mapM_cons, h x List.mem_cons_self,
      ih fun y hy => h y (List.mem_cons_of_mem x hy)]
    rfl

end Json

/-! ## Records -/

theorem AccountId.ofJson?_ofString {a : AccountId} (h : a.Normal) :
    ofJson? (.ofString a.text) = some a :=
  congrArg some h

namespace AccessToken

theorem written_toJson (t : AccessToken) : t.toJson.Written := by
  refine Json.written_ofFields ?_
  simp [Json.written_ofString, Json.written_ofInt]

theorem ofJson?_toJson (t : AccessToken) : ofJson? t.toJson = some t := by
  have hslots : t.toJson.slots? ["access_token", "expires_in", "expiry_timestamp", "token_type"] =
      some [some (.ofString t.text), some (.ofInt t.expiresIn.toInt),
        some (.ofInt t.expiry.toInt), some (.ofString t.kind)] := rfl
  simp [ofJson?, hslots, Json.required, Json.withDefault, Json.toText?_ofString,
    Json.toInt64?_ofInt]

end AccessToken

namespace Credential

theorem written_toJson (a : AccountId) (c : Credential) : (c.toJson a).Written := by
  refine Json.written_ofFields fun e he => ?_
  cases htoken : c.token with
  | none =>
    rw [htoken] at he
    simp only [List.append_nil, List.mem_append, List.mem_cons, List.not_mem_nil, or_false] at he
    rcases he with (rfl | rfl) | rfl | rfl <;>
      first | exact Json.written_ofString _ | exact Json.written_ofInt _
  | some t =>
    rw [htoken] at he
    simp only [List.mem_append, List.mem_cons, List.not_mem_nil, or_false] at he
    rcases he with ((rfl | rfl) | rfl) | rfl | rfl <;>
      first | exact Json.written_ofString _ | exact Json.written_ofInt _ | exact t.written_toJson

theorem ofJson?_toJson {a : AccountId} (h : a.Normal) (c : Credential) :
    ofJson? (c.toJson a) = some (a, c) := by
  have haccount := AccountId.ofJson?_ofString h
  obtain ⟨refreshToken, token, createdAt, lastUsed⟩ := c
  cases token with
  | none =>
    have hslots : (toJson a ⟨refreshToken, none, createdAt, lastUsed⟩).slots?
        ["account_id", "refresh_token", "token", "created_at", "last_used"] =
        some [some (.ofString a.text), some (.ofString refreshToken), none,
          some (.ofInt createdAt.toInt), some (.ofInt lastUsed.toInt)] := rfl
    simp [ofJson?, hslots, Json.required, Json.optional, haccount, Json.toText?_ofString,
      Json.toInt64?_ofInt]
  | some t =>
    have hslots : (toJson a ⟨refreshToken, some t, createdAt, lastUsed⟩).slots?
        ["account_id", "refresh_token", "token", "created_at", "last_used"] =
        some [some (.ofString a.text), some (.ofString refreshToken), some t.toJson,
          some (.ofInt createdAt.toInt), some (.ofInt lastUsed.toInt)] := rfl
    have htoken : Json.toOption? AccessToken.ofJson? t.toJson = some (some t) := by
      show (AccessToken.ofJson? t.toJson).map some = _
      rw [t.ofJson?_toJson]
      rfl
    simp [ofJson?, hslots, Json.required, Json.optional, haccount, htoken, Json.toText?_ofString,
      Json.toInt64?_ofInt]

end Credential

namespace Adoption

theorem written_toJson (p : Adoption) : p.toJson.Written := by
  refine Json.written_ofFields ?_
  simp [Json.written_ofString, Json.written_ofInt]

theorem ofJson?_toJson {p : Adoption} (h : p.account.Normal) : ofJson? p.toJson = some p := by
  have haccount := AccountId.ofJson?_ofString h
  have hslots : p.toJson.slots? ["account_id", "session_index", "requested_at"] =
      some [some (.ofString p.account.text), some (.ofInt p.place.toNat),
        some (.ofInt p.requestedAt.toInt)] := rfl
  simp [ofJson?, hslots, Json.required, haccount, Json.toUInt64?_ofInt, Json.toInt64?_ofInt]

end Adoption

/-! ## Books -/

namespace AccountBook

/-- Every account in a book is in normal form. -/
structure Normal (book : AccountBook) : Prop where
  accounts : ∀ e ∈ book.accounts, e.1.Normal
  pending : ∀ p ∈ book.pending, p.account.Normal

theorem written_toJson (book : AccountBook) : book.toJson.Written := by
  have haccounts : Json.Written (.array (book.accounts.map fun e => e.2.toJson e.1)) := by
    rw [Json.Written, Json.itemsWritten_iff]
    intro j hj
    obtain ⟨e, -, rfl⟩ := List.mem_map.1 hj
    exact e.2.written_toJson e.1
  have hpending : Json.Written (.array (book.pending.map Adoption.toJson)) := by
    rw [Json.Written, Json.itemsWritten_iff]
    intro j hj
    obtain ⟨p, -, rfl⟩ := List.mem_map.1 hj
    exact p.written_toJson
  refine Json.written_ofFields fun e he => ?_
  by_cases hempty : book.pending = []
  · rw [if_pos hempty] at he
    simp only [List.append_nil, List.mem_cons, List.not_mem_nil, or_false] at he
    rcases he with rfl | rfl
    · exact Json.written_ofString book.version
    · exact haccounts
  · rw [if_neg hempty] at he
    simp only [List.mem_append, List.mem_cons, List.not_mem_nil, or_false] at he
    rcases he with (rfl | rfl) | rfl
    · exact Json.written_ofString book.version
    · exact haccounts
    · exact hpending

/-- A book is read as it was written. -/
theorem ofJson?_toJson {book : AccountBook} (h : book.Normal) :
    ofJson? book.toJson = some book := by
  have haccounts : Json.toListOf? Credential.ofJson?
      (.array (book.accounts.map fun e => e.2.toJson e.1)) = some book.accounts :=
    Json.toListOf?_map fun e he => Credential.ofJson?_toJson (h.accounts e he) e.2
  have hpending : Json.toListOf? Adoption.ofJson? (.array (book.pending.map Adoption.toJson)) =
      some book.pending :=
    Json.toListOf?_map fun p hp => Adoption.ofJson?_toJson (h.pending p hp)
  have hversion : Json.required Json.toText? (some (.ofString book.version)) = some book.version :=
    rfl
  unfold ofJson?
  by_cases hempty : book.pending = []
  · have hslots : book.toJson.slots? ["version", "accounts", "pending_adoptions"] =
        some [some (.ofString book.version),
          some (.array (book.accounts.map fun e => e.2.toJson e.1)), none] := by
      rw [toJson, if_pos hempty]
      rfl
    simp only [hslots, Option.bind_eq_bind, Option.bind_some, hversion, Json.withDefault, haccounts]
    rw [← hempty]
  · have hslots : book.toJson.slots? ["version", "accounts", "pending_adoptions"] =
        some [some (.ofString book.version),
          some (.array (book.accounts.map fun e => e.2.toJson e.1)),
          some (.array (book.pending.map Adoption.toJson))] := by
      rw [toJson, if_neg hempty]
      rfl
    simp only [hslots, Option.bind_eq_bind, Option.bind_some, hversion, Json.withDefault, haccounts,
      hpending]

/-! ## Bytes -/

/-- The text of a book begins with a brace. -/
theorem pretty_toJson (book : AccountBook) : ∃ rest, book.toJson.pretty = '\x7b' :: rest :=
  ⟨_, rfl⟩

end AccountBook

/-- The bytes of a book hold its text. -/
theorem bookText_toBytes (book : AccountBook) : bookText book.toBytes = book.toJson.pretty := by
  obtain ⟨rest, hrest⟩ := book.pretty_toJson
  have hbytes : book.toBytes = 0x7B :: Text.Utf8.encode rest := by
    rw [AccountBook.toBytes, hrest]
    rfl
  have hmark : skipMark book.toBytes = book.toBytes := by
    rw [hbytes]
    rfl
  have hzero : book.toBytes.dropWhile (· = 0) = book.toBytes := by
    rw [hbytes]
    rfl
  rw [bookText, hmark, hzero, AccountBook.toBytes, Text.Utf8.decodeLossy_encode]

/-- A book comes back from its bytes. -/
theorem bookOfBytes?_toBytes {book : AccountBook} (h : book.Normal) :
    bookOfBytes? book.toBytes = some book := by
  obtain ⟨rest, hrest⟩ := book.pretty_toJson
  have hblank : Text.isBlank book.toJson.pretty = false := by
    rw [hrest]
    rfl
  unfold bookOfBytes?
  simp only [bookText_toBytes, hblank]
  rw [if_neg Bool.false_ne_true, Json.parse?_pretty book.written_toJson, Option.bind_some,
    AccountBook.ofJson?_toJson h]

/-! ## The file -/

namespace Folder

theorem get?_remove (f : Folder) (name other : String) :
    (f.remove name).get? other = if other = name then none else f.get? other := by
  unfold get? remove
  induction f with
  | nil => simp
  | cons e f ih => grind

theorem get?_put (f : Folder) (name other : String) (node : Node) :
    (f.put name node).get? other = if other = name then some node else f.get? other := by
  have happend : ∀ g : Folder, get? (g ++ [(name, node)]) other =
      (g.get? other).or (if name = other then some node else none) := by
    intro g
    unfold get?
    rw [List.find?_append]
    cases g.find? (·.1 = other) with
    | some e => rfl
    | none => by_cases h : name = other <;> simp [h]
  rw [put, happend, get?_remove]
  by_cases h : other = name
  · simp [h]
  · simp [h, Ne.symm h]

end Folder

/-- A save that nothing goes wrong with: the account file is not a directory in its place. -/
theorem saveBook_of_file {folder : Folder} (h : folder.isFolder accountFile = false)
    (book : AccountBook) :
    ∃ folder', saveBook (some folder) book .none = (.ok (), some folder')
      ∧ folder'.get? accountFile = some (.file book.toBytes) := by
  refine ⟨_, by simp [saveBook, replaceFile, h, Replacement.final]; rfl, ?_⟩
  rw [Folder.get?_put, if_pos rfl]

/-- A book that has been saved is read. -/
theorem readBook_of_file {folder : Folder} {book : AccountBook} (h : book.Normal)
    (hfile : folder.get? accountFile = some (.file book.toBytes)) :
    readBook (some folder) = .ok book := by
  simp only [readBook, Option.bind_some, hfile, bookOfBytes?_toBytes h]

end SessionSync
