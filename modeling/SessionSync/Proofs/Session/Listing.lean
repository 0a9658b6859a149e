import Mathlib.Data.List.Sort
import SessionSync.Proofs.Json.Recognition
import SessionSync.Proofs.Json.RoundTrip
import SessionSync.Session.AccountList

/-!
# Which bodies list accounts, and which accounts they list

`accountsOfBody` reads a list of accounts from a text exactly when the text spells a document with
an array as its second item. The emails that the entries carry are followed in their order; the
accounts they name are listed once each, where they are named first.

* `Carries` — the emails of the entries, whatever else stands among them.
* `FirstOccurrences` — names without the empty ones and without repetitions.
* `accountsOfBody_eq_ok_iff` — what is read, and from which bodies.
* `SessionFormat`, `accountsOfBody_of_format` — the bodies in the format of the session endpoint.
* `accountsOfBody_sessionBody` — a session that is listed is read as it is.
* `account_list_exact` — all together.
-/

namespace SessionSync

/-! ## Bodies -/

/-- Whether a text is a document that is held as a whole. -/
def Document (body : String) (j : Json) : Prop :=
  Json.Spells body.toList j ∧ j.isPlain = true

/-- Whether a text is a document with the given list at index 1 of its top level. -/
def BodyLists (body : String) (entries : List Json) : Prop :=
  ∃ items, Document body (.array items) ∧ items[1]? = some (.array entries)

theorem parsePlain?_eq_none_iff {body : String} :
    Json.parsePlain? body.toList = none ↔ ¬ ∃ j, Document body j := by
  rw [Option.eq_none_iff_forall_ne_some, not_exists]
  exact forall_congr' fun j => not_congr Json.parsePlain?_eq_some_iff

theorem accountEntries?_eq_some_iff {document : Json} {entries : List Json} :
    accountEntries? document = some entries ↔
      ∃ items, document = .array items ∧ items[1]? = some (.array entries) := by
  cases document with
  | array items =>
    constructor
    · intro h
      obtain ⟨item, hitem, hentries⟩ := Option.bind_eq_some_iff.1 h
      cases item with
      | array l =>
        cases hentries
        exact ⟨items, rfl, hitem⟩
      | null | bool | number | string | object => cases hentries
    · rintro ⟨_, ⟨⟩, hitem⟩
      exact Option.bind_eq_some_iff.2 ⟨_, hitem, rfl⟩
  | null | bool | number | string | object => simp [accountEntries?, Json.toList?]

/-- The list of a body is that of its document. -/
theorem bodyLists_iff {body : String} {entries : List Json} :
    BodyLists body entries ↔
      ∃ document, Json.parsePlain? body.toList = some document
        ∧ accountEntries? document = some entries := by
  constructor
  · rintro ⟨items, hdocument, hitem⟩
    exact ⟨.array items, Json.parsePlain?_eq_some_iff.2 hdocument,
      accountEntries?_eq_some_iff.2 ⟨items, rfl, hitem⟩⟩
  · rintro ⟨document, hdocument, hentries⟩
    obtain ⟨items, rfl, hitem⟩ := accountEntries?_eq_some_iff.1 hentries
    exact ⟨items, Json.parsePlain?_eq_some_iff.1 hdocument, hitem⟩

/-- A body has one list at most. -/
theorem BodyLists.unique {body : String} {l l' : List Json} (h : BodyLists body l)
    (h' : BodyLists body l') : l = l' := by
  obtain ⟨items, hdocument, hitem⟩ := h
  obtain ⟨items', hdocument', hitem'⟩ := h'
  cases hdocument.1.unique hdocument'.1
  rw [hitem] at hitem'
  cases hitem'
  rfl

/-! ## Entries -/

/-- Whether an entry is an array with the given string at index 3. -/
def NamesEmail (entry : Json) (email : String) : Prop :=
  ∃ items, entry = .array items ∧ items[3]? = some (.ofString email)

/-- The emails that entries carry, in order. An entry of another shape carries none. -/
inductive Carries : List Json → List String → Prop
  | nil : Carries [] []
  | entry {entry : Json} {email : String} {entries : List Json} {emails : List String}
      (named : NamesEmail entry email) (others : Carries entries emails) :
      Carries (entry :: entries) (email :: emails)
  | other {entry : Json} {entries : List Json} {emails : List String}
      (nameless : ∀ email, ¬ NamesEmail entry email) (others : Carries entries emails) :
      Carries (entry :: entries) emails

theorem entryAccount?_eq_some_iff {entry : Json} {a : AccountId} :
    entryAccount? entry = some a ↔ ∃ email, NamesEmail entry email ∧ a = .ofString email := by
  constructor
  · intro h
    unfold entryAccount? at h
    split at h
    · next item hitem =>
      obtain ⟨items, hitems, hfourth⟩ := Option.bind_eq_some_iff.1 hitem
      obtain ⟨email, hemail, rfl⟩ := Option.map_eq_some_iff.1 h
      refine ⟨email, ⟨items, ?_, ?_⟩, rfl⟩
      · cases entry <;> cases hitems
        rfl
      · rw [hfourth]
        cases item <;> cases hemail
        rfl
    · cases h
  · rintro ⟨email, ⟨items, rfl, hfourth⟩, rfl⟩
    simp [entryAccount?, Json.toList?, hfourth, Json.toText?, Json.ofString]

theorem entryAccount?_eq_none_iff {entry : Json} :
    entryAccount? entry = none ↔ ∀ email, ¬ NamesEmail entry email := by
  rw [Option.eq_none_iff_forall_ne_some]
  constructor
  · intro h email named
    exact h _ (entryAccount?_eq_some_iff.2 ⟨email, named, rfl⟩)
  · intro h a ha
    obtain ⟨email, named, -⟩ := entryAccount?_eq_some_iff.1 ha
    exact h email named

/-- The accounts that entries name are those of the emails they carry. -/
theorem Carries.filterMap_entryAccount? {entries : List Json} {emails : List String}
    (h : Carries entries emails) :
    entries.filterMap SessionSync.entryAccount? = emails.map AccountId.ofString := by
  induction h with
  | nil => rfl
  | entry named others ih =>
    rw [List.filterMap_cons_some (entryAccount?_eq_some_iff.2 ⟨_, named, rfl⟩), ih, List.map_cons]
  | other nameless others ih =>
    rw [List.filterMap_cons_none (entryAccount?_eq_none_iff.2 nameless), ih]

theorem NamesEmail.unique {entry : Json} {email email' : String} (h : NamesEmail entry email)
    (h' : NamesEmail entry email') : email = email' := by
  obtain ⟨items, rfl, hfourth⟩ := h
  obtain ⟨_, ⟨⟩, hfourth'⟩ := h'
  rw [hfourth] at hfourth'
  cases hfourth'
  rfl

theorem Carries.mem {entries : List Json} {emails : List String} (h : Carries entries emails)
    {entry : Json} {email : String} (hentry : entry ∈ entries) (hnamed : NamesEmail entry email) :
    email ∈ emails := by
  induction h with
  | nil => cases hentry
  | entry named others ih =>
    rcases List.mem_cons.1 hentry with rfl | hentry
    · rw [hnamed.unique named]
      exact List.mem_cons_self
    · exact List.mem_cons_of_mem _ (ih hentry)
  | other nameless others ih =>
    rcases List.mem_cons.1 hentry with rfl | hentry
    · exact absurd hnamed (nameless email)
    · exact ih hentry

theorem exists_carries (entries : List Json) : ∃ emails, Carries entries emails := by
  induction entries with
  | nil => exact ⟨[], .nil⟩
  | cons entry entries ih =>
    obtain ⟨emails, others⟩ := ih
    by_cases named : ∃ email, NamesEmail entry email
    · obtain ⟨email, named⟩ := named
      exact ⟨email :: emails, .entry named others⟩
    · exact ⟨emails, .other (not_exists.1 named) others⟩

/-- Entries that name an email each carry these emails. -/
theorem carries_of_forall₂ {entries : List Json} {emails : List String}
    (h : List.Forall₂ NamesEmail entries emails) : Carries entries emails := by
  induction h with
  | nil => exact .nil
  | cons named others ih => exact .entry named ih

/-! ## First occurrences -/

/-- What a list of names comes to when the empty ones are dropped and the first of each of the
others is kept. -/
structure FirstOccurrences (names accounts : List AccountId) : Prop where
  /-- All names are there but the empty ones. -/
  mem_iff : ∀ a, a ∈ accounts ↔ a ∈ names ∧ a.isEmpty = false
  /-- They stand in the order in which they are named first. -/
  ordered : accounts.Pairwise fun a b => names.idxOf a < names.idxOf b

theorem FirstOccurrences.nodup {names accounts : List AccountId}
    (h : FirstOccurrences names accounts) : accounts.Nodup :=
  h.ordered.imp fun hlt heq => absurd hlt (by simp [heq])

/-- There is one list of first occurrences. -/
theorem FirstOccurrences.unique {names l l' : List AccountId} (h : FirstOccurrences names l)
    (h' : FirstOccurrences names l') : l = l' := by
  have : Std.Antisymm fun a b : AccountId => names.idxOf a < names.idxOf b :=
    ⟨fun _ _ hlt hgt => absurd hlt (Nat.lt_asymm hgt)⟩
  have : Std.Irrefl fun a b : AccountId => names.idxOf a < names.idxOf b :=
    ⟨fun _ => Nat.lt_irrefl _⟩
  exact h.ordered.eq_of_mem_iff h'.ordered fun a => (h.mem_iff a).trans (h'.mem_iff a).symm

/-- A name in front that is not in a list leaves the order of the list. -/
theorem pairwise_idxOf_cons {names l : List AccountId} {a : AccountId} (ha : a ∉ l)
    (h : l.Pairwise fun b c => names.idxOf b < names.idxOf c) :
    l.Pairwise fun b c => (a :: names).idxOf b < (a :: names).idxOf c := by
  refine h.imp_of_mem ?_
  intro b c hb hc hlt
  rw [List.idxOf_cons_ne _ (ne_of_mem_of_not_mem hb ha).symm,
    List.idxOf_cons_ne _ (ne_of_mem_of_not_mem hc ha).symm]
  omega

/-- A name in front that is not in a list comes before the list. -/
theorem pairwise_idxOf_cons_cons {names l : List AccountId} {a : AccountId} (ha : a ∉ l)
    (h : l.Pairwise fun b c => names.idxOf b < names.idxOf c) :
    (a :: l).Pairwise fun b c => (a :: names).idxOf b < (a :: names).idxOf c := by
  refine .cons ?_ (pairwise_idxOf_cons ha h)
  intro b hb
  rw [List.idxOf_cons_self, List.idxOf_cons_ne _ (ne_of_mem_of_not_mem hb ha).symm]
  omega

/-- What `List.eraseDups` keeps stands in the order of first occurrences. -/
theorem pairwise_eraseDups (names : List AccountId) (p : AccountId → Bool) :
    (names.filter p).eraseDups.Pairwise fun b c => names.idxOf b < names.idxOf c := by
  induction names generalizing p with
  | nil => exact .nil
  | cons a names ih =>
    by_cases hp : p a = true
    · -- `a` is kept, and all that is kept after it differs from it.
      have hothers : a ∉ (names.filter fun b => !b == a && p b).eraseDups := by
        simp [List.mem_eraseDups]
      rw [List.filter_cons_of_pos hp, List.eraseDups_cons, List.filter_filter]
      exact pairwise_idxOf_cons_cons hothers (ih _)
    · have hothers : a ∉ (names.filter p).eraseDups := by
        simp [List.mem_eraseDups, hp]
      rw [List.filter_cons_of_neg hp]
      exact pairwise_idxOf_cons hothers (ih p)

theorem firstOccurrences_eraseDups (names : List AccountId) :
    FirstOccurrences names (names.filter fun a => !a.isEmpty).eraseDups := by
  refine ⟨?_, pairwise_eraseDups names _⟩
  intro a
  simp [List.mem_eraseDups]

/-- Names that are all different and none of which is empty are their own first occurrences. -/
theorem firstOccurrences_self {names : List AccountId} (named : ∀ a ∈ names, a.isEmpty = false)
    (nodup : names.Nodup) : FirstOccurrences names names := by
  refine ⟨fun a => ⟨fun ha => ⟨ha, named a ha⟩, fun ha => ha.1⟩, ?_⟩
  clear named
  induction names with
  | nil => exact .nil
  | cons a names ih =>
    obtain ⟨ha, hnames⟩ := List.nodup_cons.1 nodup
    exact pairwise_idxOf_cons_cons ha (ih hnames)

/-- The accounts of entries are the first occurrences among the emails they carry. -/
theorem firstOccurrences_entriesAccounts {entries : List Json} {emails : List String}
    (h : Carries entries emails) :
    FirstOccurrences (emails.map AccountId.ofString) (entriesAccounts entries) := by
  rw [entriesAccounts, h.filterMap_entryAccount?]
  exact firstOccurrences_eraseDups _

/-! ## Reading a body -/

theorem accountsOfBody_of_bodyLists {body : String} {entries : List Json}
    (h : BodyLists body entries) : accountsOfBody body = .ok (entriesAccounts entries) := by
  obtain ⟨document, hdocument, hentries⟩ := bodyLists_iff.1 h
  simp only [accountsOfBody, hdocument, hentries]

/-- What is read from a body: a list at index 1 of a document, and of it the first occurrences among
the emails that its entries carry. -/
theorem accountsOfBody_eq_ok_iff {body : String} {accounts : List AccountId} :
    accountsOfBody body = .ok accounts ↔
      ∃ entries emails, BodyLists body entries ∧ Carries entries emails
        ∧ FirstOccurrences (emails.map AccountId.ofString) accounts := by
  constructor
  · intro h
    unfold accountsOfBody at h
    split at h
    · cases h
    · next document hdocument =>
      split at h
      · cases h
      · next entries hentries =>
        cases h
        obtain ⟨emails, hcarries⟩ := exists_carries entries
        exact ⟨entries, emails, bodyLists_iff.2 ⟨document, hdocument, hentries⟩, hcarries,
          firstOccurrences_entriesAccounts hcarries⟩
  · rintro ⟨entries, emails, hlists, hcarries, hfirst⟩
    rw [accountsOfBody_of_bodyLists hlists,
      (firstOccurrences_entriesAccounts hcarries).unique hfirst]

theorem accountsOfBody_eq_notJson_iff {body : String} :
    accountsOfBody body = .error .notJson ↔ ¬ ∃ j, Document body j := by
  rw [← parsePlain?_eq_none_iff]
  unfold accountsOfBody
  constructor
  · intro h
    split at h
    · assumption
    · split at h <;> cases h
  · intro h
    rw [h]

theorem accountsOfBody_eq_noList_iff {body : String} :
    accountsOfBody body = .error .noList ↔
      (∃ j, Document body j) ∧ ¬ ∃ entries, BodyLists body entries := by
  constructor
  · intro h
    refine ⟨?_, ?_⟩
    · by_contra hnone
      rw [accountsOfBody_eq_notJson_iff.2 hnone] at h
      cases h
    · rintro ⟨entries, hlists⟩
      rw [accountsOfBody_of_bodyLists hlists] at h
      cases h
  · rintro ⟨⟨j, hdocument⟩, hnone⟩
    have hj := Json.parsePlain?_eq_some_iff.2 hdocument
    have hentries : accountEntries? j = none := by
      rw [Option.eq_none_iff_forall_ne_some]
      intro entries hentries
      exact hnone ⟨entries, bodyLists_iff.2 ⟨j, hj, hentries⟩⟩
    simp only [accountsOfBody, hj, hentries]

/-! ## The format of the session endpoint -/

/-- A body in the format of the session endpoint: a list at index 1 of the top level, with one entry
for each email that has the email as a string at index 3. -/
def SessionFormat (body : String) (emails : List String) : Prop :=
  ∃ entries, BodyLists body entries ∧ List.Forall₂ NamesEmail entries emails

/-- An array without white space, with its items as they are spelled. -/
def arrayText (spelled : List (List Char)) : List Char :=
  '[' :: [','].intercalate spelled ++ [']']

theorem spelling_arrayText {items : List Json} {spelled : List (List Char)}
    (h : List.Forall₂ (fun j s => Json.Spelling (.value j) s) items spelled) :
    Json.Spelling (.value (.array items)) (arrayText spelled) := by
  cases h with
  | nil => exact .emptyArray Json.blank_nil
  | @cons j s items spelled value others =>
    refine .array ?_
    induction others generalizing j s with
    | nil => simpa using Json.Spelling.lastItem Json.blank_nil value Json.blank_nil
    | cons next others ih =>
      simpa using Json.Spelling.item Json.blank_nil value Json.blank_nil (ih next)

/-- An entry of the list, with its email as it is spelled. -/
def entryText (email : List Char) : List Char :=
  arrayText ["\"b\"".toList, ['0'], "\"n\"".toList, email, "\"p\"".toList, ['0'], ['0'], ['0']]

/-- A body without white space that lists emails, each as it is spelled. -/
def compactBody (spelled : List (List Char)) : List Char :=
  arrayText ["\"foo\"".toList, arrayText (spelled.map entryText)]

theorem spelling_entryText {email : String} {s : List Char}
    (h : Json.StringText (some email) s) :
    Json.Spelling (.value (entryOfEmail email)) (entryText s) := by
  have htext (t : String) : Json.Spelling (.value (.ofString t)) (Json.quote t.toList) :=
    .string (Json.stringText_quote t)
  have hzero : Json.Spelling (.value (.ofInt 0)) ['0'] := .number (Json.numeralText_ofInt 0)
  exact spelling_arrayText (.cons (htext "b") (.cons hzero (.cons (htext "n")
    (.cons (.string h) (.cons (htext "p") (.cons hzero (.cons hzero (.cons hzero .nil))))))))

/-- A body in the format of the session endpoint is read as the first occurrences among its emails.
-/
theorem accountsOfBody_of_format {body : String} {emails : List String} {accounts : List AccountId}
    (h : SessionFormat body emails)
    (first : FirstOccurrences (emails.map AccountId.ofString) accounts) :
    accountsOfBody body = .ok accounts := by
  obtain ⟨entries, hlists, hnamed⟩ := h
  exact accountsOfBody_eq_ok_iff.2 ⟨entries, emails, hlists, carries_of_forall₂ hnamed, first⟩

/-- The entries of emails carry these emails. -/
theorem forall₂_entryOfEmail (emails : List String) :
    List.Forall₂ NamesEmail (emails.map entryOfEmail) emails := by
  rw [List.forall₂_map_left_iff, List.forall₂_same]
  exact fun email _ => ⟨_, rfl, rfl⟩

theorem written_entryOfEmail (email : String) : (entryOfEmail email).Written := by
  have hzero : (Json.ofInt 0).Written := ⟨0, rfl⟩
  have htext : ∀ s, (Json.ofString s).Written := fun _ => rfl
  unfold entryOfEmail
  rw [Json.Written, Json.itemsWritten_iff]
  intro j hj
  simp only [List.mem_cons, List.not_mem_nil, or_false] at hj
  rcases hj with rfl | rfl | rfl | rfl | rfl | rfl | rfl | rfl <;>
    first | exact hzero | exact htext _

theorem isPlain_entryOfEmail (email : String) (depth : Nat) :
    Json.isPlainWithin (depth + 1) (entryOfEmail email) = true := by
  have hzero : (Numeral.ofInt 0).inRange = true := by decide
  simp [entryOfEmail, Json.isPlainWithin, Json.itemsPlain, Json.ofString, Json.ofInt, hzero]

theorem itemsPlain_entries (emails : List String) (depth : Nat) :
    Json.itemsPlain (depth + 1) (emails.map entryOfEmail) = true := by
  induction emails with
  | nil => rfl
  | cons email emails ih =>
    rw [List.map_cons, Json.itemsPlain, isPlain_entryOfEmail, ih]
    rfl

theorem document_sessionBody (emails : List String) :
    Document (sessionBody emails)
      (.array [.ofString "foo", .array (emails.map entryOfEmail)]) := by
  constructor
  · rw [sessionBody, String.toList_ofList]
    apply Json.spells_pretty
    rw [Json.Written, Json.itemsWritten_iff]
    intro j hj
    simp only [List.mem_cons, List.not_mem_nil, or_false] at hj
    rcases hj with rfl | rfl
    · rfl
    · rw [Json.Written, Json.itemsWritten_iff]
      intro j hj
      obtain ⟨email, -, rfl⟩ := List.mem_map.1 hj
      exact written_entryOfEmail email
  · simp [Json.isPlain, Json.maxDepth, Json.isPlainWithin, Json.itemsPlain, Json.ofString,
      itemsPlain_entries]

theorem sessionFormat_sessionBody (emails : List String) :
    SessionFormat (sessionBody emails) emails :=
  ⟨_, ⟨_, document_sessionBody emails, rfl⟩, forall₂_entryOfEmail emails⟩

/-- Emails can be spelled as they are printed. -/
theorem forall₂_quote (emails : List String) :
    List.Forall₂ (fun email s => Json.StringText (some email) s) emails
      (emails.map (Json.quote ·.toList)) := by
  rw [List.forall₂_map_right_iff, List.forall₂_same]
  exact fun email _ => Json.stringText_quote email

/-- The spelling of the emails does not matter. -/
theorem sessionFormat_compactBody {emails : List String} {spelled : List (List Char)}
    (h : List.Forall₂ (fun email s => Json.StringText (some email) s) emails spelled) :
    SessionFormat (String.ofList (compactBody spelled)) emails := by
  have hentries : List.Forall₂ (fun j s => Json.Spelling (.value j) s)
      (emails.map entryOfEmail) (spelled.map entryText) := by
    rw [List.forall₂_map_left_iff, List.forall₂_map_right_iff]
    exact h.imp fun _ _ => spelling_entryText
  have htag : Json.Spelling (.value (.ofString "foo")) "\"foo\"".toList :=
    .string (Json.stringText_quote "foo")
  have hbody := spelling_arrayText (.cons htag (.cons (spelling_arrayText hentries) .nil))
  refine ⟨_, ⟨_, ⟨?_, (document_sessionBody emails).2⟩, rfl⟩, forall₂_entryOfEmail emails⟩
  rw [String.toList_ofList]
  exact ⟨[], _, [], Json.blank_nil, hbody, Json.blank_nil, by simp [compactBody]⟩

/-! ## Sessions -/

/-- An identifier in normal form that names somebody. -/
def AccountId.Proper (a : AccountId) : Prop :=
  a.Normal ∧ a.isEmpty = false

instance (a : AccountId) : Decidable a.Proper :=
  inferInstanceAs (Decidable (AccountId.ofString a.text = a ∧ a.isEmpty = false))

/-- A session that is listed is read as it is. -/
theorem accountsOfBody_sessionBody {session : List AccountId} (proper : ∀ a ∈ session, a.Proper)
    (nodup : session.Nodup) :
    accountsOfBody (sessionBody (session.map (·.text))) = .ok session := by
  have hnormal : (session.map (·.text)).map AccountId.ofString = session := by
    have hsame : ∀ a ∈ session, (AccountId.ofString ∘ (·.text)) a = id a := by
      intro a ha
      exact (proper a ha).1
    rw [List.map_map, List.map_congr_left hsame, List.map_id]
  apply accountsOfBody_of_format (sessionFormat_sessionBody _)
  rw [hnormal]
  exact firstOccurrences_self (fun a ha => (proper a ha).2) nodup

/-! ## The account list -/

/-- An account list is read exactly from the bodies that have one, and nothing of it is lost: the
accounts are the first occurrences among the emails of the entries, without repetitions and empty
ones. A body in the format of the session endpoint, whatever emails it carries, is read as these. -/
theorem account_list_exact (body : String) :
    (∀ accounts, accountsOfBody body = .ok accounts ↔
        ∃ entries emails, BodyLists body entries ∧ Carries entries emails
          ∧ FirstOccurrences (emails.map AccountId.ofString) accounts)
      ∧ ((∃ accounts, accountsOfBody body = .ok accounts) ↔ ∃ entries, BodyLists body entries)
      ∧ (accountsOfBody body = .error .notJson ↔ ¬ ∃ j, Document body j)
      ∧ (accountsOfBody body = .error .noList ↔
        (∃ j, Document body j) ∧ ¬ ∃ entries, BodyLists body entries)
      ∧ (∀ accounts, accountsOfBody body = .ok accounts →
        accounts.Nodup ∧ (∀ a ∈ accounts, a.isEmpty = false)
          ∧ ∀ entries entry email, BodyLists body entries → entry ∈ entries →
            NamesEmail entry email → (AccountId.ofString email).isEmpty = false →
              AccountId.ofString email ∈ accounts)
      ∧ (∀ emails, SessionFormat body emails → ∃ accounts, accountsOfBody body = .ok accounts
        ∧ FirstOccurrences (emails.map AccountId.ofString) accounts)
      ∧ ∀ emails spelled,
        List.Forall₂ (fun email s => Json.StringText (some email) s) emails spelled →
          body = String.ofList (compactBody spelled) → SessionFormat body emails := by
  refine ⟨fun _ => accountsOfBody_eq_ok_iff, ?_, accountsOfBody_eq_notJson_iff,
    accountsOfBody_eq_noList_iff, ?_, ?_, ?_⟩
  · constructor
    · rintro ⟨accounts, h⟩
      obtain ⟨entries, -, hlists, -⟩ := accountsOfBody_eq_ok_iff.1 h
      exact ⟨entries, hlists⟩
    · rintro ⟨entries, hlists⟩
      exact ⟨_, accountsOfBody_of_bodyLists hlists⟩
  · intro accounts h
    obtain ⟨entries, emails, hlists, hcarries, hfirst⟩ := accountsOfBody_eq_ok_iff.1 h
    refine ⟨hfirst.nodup, fun a ha => ((hfirst.mem_iff a).1 ha).2, ?_⟩
    intro entries' entry email hlists' hentry named hname
    obtain rfl := hlists.unique hlists'
    exact (hfirst.mem_iff _).2 ⟨List.mem_map.2 ⟨email, hcarries.mem hentry named, rfl⟩, hname⟩
  · intro emails hformat
    have hfirst := firstOccurrences_eraseDups (emails.map AccountId.ofString)
    exact ⟨_, accountsOfBody_of_format hformat hfirst, hfirst⟩
  · rintro emails spelled hspelled rfl
    exact sessionFormat_compactBody hspelled

/-- Two spellings of one email, a name with quotation marks and an empty one. -/
theorem account_list_exact_repeated :
    accountsOfBody (String.ofList (compactBody
        (["User@Gmail.com", "\"a\"@b.c", " ", "user@gmail.com "].map (Json.quote ·.toList)))) =
      .ok [⟨"user@gmail.com"⟩, ⟨"\"a\"@b.c"⟩] := by
  obtain ⟨-, -, -, -, -, hformat, hcompact⟩ := account_list_exact (String.ofList (compactBody
    (["User@Gmail.com", "\"a\"@b.c", " ", "user@gmail.com "].map (Json.quote ·.toList))))
  obtain ⟨accounts, hread, hfirst⟩ := hformat _ (hcompact _ _ (forall₂_quote _) rfl)
  have hnames : (([("User@Gmail.com" : String), "\"a\"@b.c", " ", "user@gmail.com "].map
      AccountId.ofString).filter fun a => !a.isEmpty).eraseDups =
        [⟨"user@gmail.com"⟩, ⟨"\"a\"@b.c"⟩] := by
    decide +kernel
  rw [hread, hfirst.unique (firstOccurrences_eraseDups _), hnames]

end SessionSync
