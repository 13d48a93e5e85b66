import SpendLedger.Proofs.Text.Trim
import SpendLedger.Provider.Aws

/-!
# Keys packed into one text

The credential of AWS is one text, in which the name of the key, the key and the token of the session stand with colons between
them. If the first two have no colon, all three are read back without the blanks around them, the token with its own colons.
-/

namespace SpendLedger

namespace Text

/-- What has no separator is cut off at the first one behind it. -/
theorem cut_append {c : Char} {front : List Char} (h : c ∉ front) (rest : List Char) :
    cut c (front ++ c :: rest) = (front, some rest) := by
  induction front with
  | nil => simp [cut]
  | cons x front ih =>
    rw [List.mem_cons, not_or] at h
    rw [List.cons_append, cut, if_neg (Ne.symm h.1), ih h.2]

end Text

/-- Keys with colons between them are read without the blanks around them, unless the name or the key is blank. -/
theorem Signing.Keys.read?_joined {id secret : String} (hid : ':' ∉ id.toList) (hsecret : ':' ∉ secret.toList)
    (token : String) : Keys.read? (id ++ ":" ++ secret ++ ":" ++ token) =
      if Text.trim id = "" ∨ Text.trim secret = "" then none
      else some ⟨Text.trim id, Text.trim secret, (some (Text.trim token)).filter (· ≠ "")⟩ := by
  have hcolon : ":".toList = [':'] := rfl
  have htext : (id ++ ":" ++ secret ++ ":" ++ token).toList =
      id.toList ++ ':' :: (secret.toList ++ ':' :: token.toList) := by
    simp [hcolon]
  rw [Keys.read?, htext, Text.cut_append hid]
  simp only [Option.getD_some, Text.cut_append hsecret, String.ofList_toList, Option.map_some]

namespace Provider

namespace Aws

variable {environment : Table String} {id secret : String} (keyStore : KeyStore)

/-- The token of the session without the blanks around it, if there is one that is not blank. -/
def sessionToken? (environment : Table String) : Option String :=
  ((environment.get? "AWS_SESSION_TOKEN").map Text.trim).filter (· ≠ "")

/-- There is no token exactly if none is set or a blank one. -/
theorem sessionToken?_eq_none_iff :
    sessionToken? environment = none ↔
      ∀ token, environment.get? "AWS_SESSION_TOKEN" = some token → Text.isBlankText token = true := by
  rw [sessionToken?, Option.filter_eq_none_iff]
  simp only [decide_eq_true_eq, not_not, Option.map_eq_some_iff, forall_exists_index, and_imp]
  constructor
  · exact fun h token htoken => Text.trim_eq_empty_iff.1 (h _ token htoken rfl)
  · rintro h _ token htoken rfl
    exact Text.trim_eq_empty_iff.2 (h token htoken)

/-- The name of the key, the key and the token are packed with colons between them; a token that is not set is empty. What the
key store has does not matter. -/
theorem credential_eq (hid : environment.get? "AWS_ACCESS_KEY_ID" = some id)
    (hsecret : environment.get? "AWS_SECRET_ACCESS_KEY" = some secret) (hgiven : id ≠ "" ∧ secret ≠ "") :
    aws.credential keyStore environment =
      .ok (id ++ ":" ++ secret ++ ":" ++ (environment.get? "AWS_SESSION_TOKEN").getD "") := by
  have hid' : (some id).filter (· ≠ "") = some id := Option.filter_some_pos (decide_eq_true hgiven.1)
  have hsecret' : (some secret).filter (· ≠ "") = some secret := Option.filter_some_pos (decide_eq_true hgiven.2)
  unfold credential
  dsimp only
  rw [hid, hsecret, hid', hsecret']

/-- The keys in what was packed. -/
theorem keys_of_packed (hcolons : ':' ∉ id.toList ∧ ':' ∉ secret.toList) {access : Access}
    (haccess : access.credential = id ++ ":" ++ secret ++ ":" ++ (environment.get? "AWS_SESSION_TOKEN").getD "") :
    Signing.Keys.read? access.credential =
      if Text.trim id = "" ∨ Text.trim secret = "" then none
      else some ⟨Text.trim id, Text.trim secret, sessionToken? environment⟩ := by
  have htoken : (some (Text.trim ((environment.get? "AWS_SESSION_TOKEN").getD ""))).filter (· ≠ "") =
      sessionToken? environment := by
    unfold sessionToken?
    cases environment.get? "AWS_SESSION_TOKEN" with
    | none => decide
    | some token => rfl
  rw [haccess, Signing.Keys.read?_joined hcolons.1 hcolons.2, htoken]

/-- The keys of AWS survive being packed. If the name of the key and the key are set, not empty and without colons, then
whatever the token is and whatever the key store has:
1. There is a credential.
2. If neither of the two is blank, both and the token are read from it without the blanks around them. No token is read exactly
   if none is set or a blank one.
3. Nothing is read exactly if one of the two is blank, and what is told then is that the configuration is at fault. -/
theorem keys_survive (hid : environment.get? "AWS_ACCESS_KEY_ID" = some id)
    (hsecret : environment.get? "AWS_SECRET_ACCESS_KEY" = some secret) (hgiven : id ≠ "" ∧ secret ≠ "")
    (hcolons : ':' ∉ id.toList ∧ ':' ∉ secret.toList) :
    ∃ raw, aws.credential keyStore environment = .ok raw ∧ ∀ access : Access, access.credential = raw →
      (Text.trim id ≠ "" → Text.trim secret ≠ "" → ∃ token : Option String,
        keys access = .ok ⟨Text.trim id, Text.trim secret, token⟩ ∧
          (∀ given, environment.get? "AWS_SESSION_TOKEN" = some given → Text.isBlankText given = false →
            token = some (Text.trim given)) ∧
          (token = none ↔
            ∀ given, environment.get? "AWS_SESSION_TOKEN" = some given → Text.isBlankText given = true)) ∧
      ((∃ e, keys access = .error e) ↔ Text.trim id = "" ∨ Text.trim secret = "") ∧
      ∀ e, keys access = .error e → ∃ message, e = .config message := by
  refine ⟨_, credential_eq keyStore hid hsecret hgiven, fun access haccess => ?_⟩
  have hread := keys_of_packed hcolons haccess
  unfold keys
  by_cases hblank : Text.trim id = "" ∨ Text.trim secret = ""
  · rw [if_pos hblank] at hread
    rw [hread]
    refine ⟨fun hid' hsecret' => ?_, iff_of_true ⟨_, rfl⟩ hblank, fun e he => ?_⟩
    · exact absurd hblank (not_or.2 ⟨hid', hsecret'⟩)
    · cases he
      exact ⟨_, rfl⟩
  · rw [if_neg hblank] at hread
    rw [hread]
    refine ⟨fun _ _ => ⟨_, rfl, fun given hgiven hnot => ?_, sessionToken?_eq_none_iff⟩, iff_of_false nofun hblank, nofun⟩
    rw [sessionToken?, hgiven, Option.map_some, Option.filter_some_pos]
    rw [decide_eq_true_iff, Ne, Text.trim_eq_empty_iff, hnot]
    decide

/-- Keys with blanks around them, and a token with colons. -/
def keysInEnvironment : Table String :=
  Table.ofList [("AWS_ACCESS_KEY_ID", " name"), ("AWS_SECRET_ACCESS_KEY", "key\t"), ("AWS_SESSION_TOKEN", "to:k:en: ")]

/-- A key store with other keys. -/
def otherKeys : KeyStore :=
  ⟨Table.ofList [("aws", "other:other")], true⟩

/-- All three are read back without the blanks. -/
theorem keys_survive_colons :
    keysInEnvironment.get? "AWS_ACCESS_KEY_ID" = some " name" ∧
      keysInEnvironment.get? "AWS_SECRET_ACCESS_KEY" = some "key\t" ∧ (" name" ≠ "" ∧ "key\t" ≠ "") ∧
      (':' ∉ " name".toList ∧ ':' ∉ "key\t".toList) ∧
      ∃ raw, aws.credential otherKeys keysInEnvironment = .ok raw ∧ ∀ access : Access, access.credential = raw →
        keys access = .ok ⟨"name", "key", some "to:k:en:"⟩ := by
  have hid : keysInEnvironment.get? "AWS_ACCESS_KEY_ID" = some " name" := by decide +kernel
  have hsecret : keysInEnvironment.get? "AWS_SECRET_ACCESS_KEY" = some "key\t" := by decide +kernel
  have htoken : keysInEnvironment.get? "AWS_SESSION_TOKEN" = some "to:k:en: " := by decide +kernel
  have htrimmed : Text.trim " name" = "name" ∧ Text.trim "key\t" = "key" ∧ Text.trim "to:k:en: " = "to:k:en:" := by
    decide +kernel
  obtain ⟨raw, hraw, hkeys⟩ := keys_survive otherKeys hid hsecret (by decide) (by decide)
  refine ⟨hid, hsecret, by decide, by decide, raw, hraw, fun access haccess => ?_⟩
  obtain ⟨hread, -⟩ := hkeys access haccess
  obtain ⟨token, hok, hgiven, -⟩ := hread (by rw [htrimmed.1]; decide) (by rw [htrimmed.2.1]; decide)
  rw [hok, hgiven _ htoken (by decide), htrimmed.1, htrimmed.2.1, htrimmed.2.2]

end Aws

end Provider

end SpendLedger
