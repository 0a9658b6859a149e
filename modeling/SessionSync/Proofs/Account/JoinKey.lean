import SessionSync.Proofs.Store.BookRoundTrip

/-!
# The identifier of an account as a key

Accounts that come from the session, from the account file and from the command line are told apart
by their identifiers alone. However often an email is brought to normal form, written down and read
again, and whatever white space it comes with, it leads to one identifier.

* `AccountId.ofString_surrounded` — white space around an email names no other account.
* `AccountId.trimmed_ofString` — an identifier has no white space at its ends.
* `AccountId.read_written` — an identifier comes back from its JSON text.
* `AccountId.key_stable` — all of it together.
-/

namespace SessionSync.AccountId

/-- White space around an email names no other account. -/
theorem ofString_surrounded {before after : String} (hbefore : Text.isBlank before.toList = true)
    (hafter : Text.isBlank after.toList = true) (raw : String) :
    ofString (before ++ raw ++ after) = ofString raw := by
  have htrim := Text.trim_surrounded hbefore hafter raw.toList
  unfold ofString normalize
  rw [String.toList_append, String.toList_append, htrim]

/-- An identifier has no white space at its ends. -/
theorem trimmed_ofString (raw : String) : Text.Trimmed (ofString raw).text.toList := by
  have htext : (ofString raw).text.toList = Text.lowercase (Text.trim raw.toList) :=
    String.toList_ofList
  rw [htext]
  exact Text.trimmed_lowercase (Text.trimmed_trim raw.toList)

/-- The account that the text of a JSON document names. -/
def read? (text : List Char) : Option AccountId :=
  (Json.parse? text).bind ofJson?

/-- The JSON text of an identifier. -/
def written (a : AccountId) : List Char :=
  (Json.ofString a.text).pretty

/-- An identifier in normal form comes back from its JSON text. -/
theorem read_written {a : AccountId} (h : a.Normal) : read? a.written = some a := by
  rw [read?, written, Json.parse?_pretty (Json.written_ofString a.text), Option.bind_some,
    ofJson?_ofString h]

/-- The identifier of an account is its own normal form, has no white space at its ends, is the same
with any white space around the email, and comes back from its JSON text. -/
theorem key_stable (raw : String) :
    ofString (ofString raw).text = ofString raw
      ∧ Text.Trimmed (ofString raw).text.toList
      ∧ (∀ before after : String, Text.isBlank before.toList = true →
          Text.isBlank after.toList = true → ofString (before ++ raw ++ after) = ofString raw)
      ∧ read? (ofString raw).written = some (ofString raw) := by
  have hnormal : (ofString raw).Normal := normal_ofString raw
  refine ⟨hnormal, trimmed_ofString raw, ?_, read_written hnormal⟩
  intro before after hbefore hafter
  exact ofString_surrounded hbefore hafter raw

/-- An email with a letter that becomes two, with a sigma that ends a word and one that does not,
and with white space of several kinds around it. -/
theorem key_stable_greek :
    (ofString "İΣΑΣ@Χ.ΟΡΓ").text = "i̇σας@χ.οργ"
      ∧ ofString "i̇σας@χ.οργ" = ofString "İΣΑΣ@Χ.ΟΡΓ"
      ∧ ofString ("\u2003\t" ++ "İΣΑΣ@Χ.ΟΡΓ" ++ "\u00A0\u3000") = ofString "İΣΑΣ@Χ.ΟΡΓ" := by
  have hkey : (ofString "İΣΑΣ@Χ.ΟΡΓ").text = "i̇σας@χ.οργ" := by decide +kernel
  have hstable := key_stable "İΣΑΣ@Χ.ΟΡΓ"
  refine ⟨hkey, ?_, ?_⟩
  · rw [hkey] at hstable
    exact hstable.1
  · exact hstable.2.2.1 "\u2003\t" "\u00A0\u3000" (by decide) (by decide)

/-- A combining mark between a sigma and the next letter does not end the word. -/
example : (ofString "AΣ\u0ECEB").text = "aσ\u0ECEb" := by decide +kernel

end SessionSync.AccountId
