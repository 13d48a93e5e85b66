import SpendLedger.Form.Basic
import SpendLedger.Provider.Basic
import SpendLedger.Toml.Reader
import SpendLedger.Toml.Writer

/-!
# Configuration

What the user has set, its normal form, and the file it is kept in. Reading a file brings it into normal form.
-/

namespace SpendLedger

/-- What the user has set. -/
structure Config where
  provider : String
  account : Option String
  region : Option String
  currency : String
  baseUrl : Option String
  storePath : Option String
deriving DecidableEq, Repr

namespace Config

/-- What holds when nothing is set. -/
def standard : Config where
  provider := "azure"
  account := none
  region := none
  currency := "USD"
  baseUrl := none
  storePath := none

/-- The names of what can be set, in the order in which it is listed. -/
def keys : List String :=
  ["provider", "account_id", "region", "currency", "base_url", "db_path"]

/-- The value of a key. -/
def get? (c : Config) : String → Option String
  | "provider" => some c.provider
  | "account_id" => c.account
  | "region" => c.region
  | "currency" => some c.currency
  | "base_url" => c.baseUrl
  | "db_path" => c.storePath
  | _ => none

/-- All keys with their values; what is not set is empty. -/
def entries (c : Config) : List (String × String) :=
  keys.map fun key => (key, (c.get? key).getD "")

/-- A value, unless it is blank. -/
def unlessBlank (value : String) : Option String :=
  if Text.isBlankText value then none else some value

/-- The normal form: names without blanks around them and in the usual case, and no blank account. -/
def normal (c : Config) : Config :=
  { c with
    provider := Provider.normalName c.provider
    currency := Text.upper (Text.trim c.currency)
    account := c.account.bind unlessBlank }

/-- What is said about a key that cannot be set. -/
def unknownKey (key : String) : Failure :=
  .config ("Unknown config key '" ++ key ++ "'.")

/-- The configuration with a key given a value. The account is not set here: it is kept in the store. -/
def apply (c : Config) (key value : String) : Except Failure Config :=
  match key with
  | "provider" => do
    let provider := Provider.normalName value
    let _ ← Provider.ofName provider
    pure { c with provider }
  | "region" => .ok { c with region := unlessBlank value }
  | "currency" => .ok { c with currency := Text.upper (Text.trim value) }
  | "base_url" => .ok { c with baseUrl := unlessBlank value }
  | "db_path" => .ok { c with storePath := unlessBlank value }
  | other => .error (unknownKey other)

/-! ## Documents -/

/-- The configuration from a tree; what is left out is as in the standard one. -/
def ofTree? (t : Tree) : Option Config := do
  let p ← Parts.of? keys t
  let provider ← p.orElse "provider" Tree.text? standard.provider
  let account ← p.orElse "account_id" (Parts.nullable Tree.text?) standard.account
  let region ← p.orElse "region" (Parts.nullable Tree.text?) standard.region
  let currency ← p.orElse "currency" Tree.text? standard.currency
  let baseUrl ← p.orElse "base_url" (Parts.nullable Tree.text?) standard.baseUrl
  let storePath ← p.orElse "db_path" (Parts.nullable Tree.text?) standard.storePath
  pure { provider, account, region, currency, baseUrl, storePath }

/-- The text of the file. -/
def toFile (c : Config) : String :=
  Toml.write (keys.filterMap fun key => (c.get? key).map fun value => (key, value))

/-- The configuration in a file's text. -/
def ofFile? (text : String) : Option Config :=
  (Toml.read? text).bind ofTree?

/-- Reads the file, if there is one, and brings it into normal form: the configuration, and the file afterwards. -/
def load (file : Option String) : Except Failure (Config × Option String) :=
  match file with
  | none => .ok (standard, none)
  | some text =>
    match ofFile? text with
    | none => .error .tomlUnreadable
    | some c => .ok (c.normal, if c.normal = c then some text else some c.normal.toFile)

/-- The file when it has to be there: a new one holds the standard configuration. -/
def ensureFile (file : Option String) : String :=
  file.getD standard.toFile

end Config

end SpendLedger
