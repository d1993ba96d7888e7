import SqlCompose.Backend.InternetAddress
import SqlCompose.Number.Reading
import SqlCompose.Text.Blank

/-!
# Connection strings

Where a database is and how to reach it, in one of two forms: a URL, or settings `key=value` with
blanks between them. Either way the result is a list of settings, each of which must be known and
have a value of its kind.
-/

namespace SqlCompose

/-- A setting by name. -/
abbrev ConnectionSetting := String × List Char

namespace ConnectionString

/-! ### Settings -/

/-- What values a setting takes. -/
inductive SettingKind where
  | any
  | oneOf (words : List String)
  /-- Whole numbers. -/
  | number (range : IntegerRange)
  /-- Ports with commas between them, some of which may be left out. -/
  | ports
  /-- Internet addresses with commas between them. -/
  | addresses

def signed : SettingKind := .number (.signed 64)

/-- The known settings. -/
def kinds : List (String × SettingKind) :=
  [ ("user", .any),
    ("password", .any),
    ("dbname", .any),
    ("options", .any),
    ("application_name", .any),
    ("host", .any),
    ("hostaddr", .addresses),
    ("port", .ports),
    ("sslmode", .oneOf ["disable", "prefer", "require"]),
    ("sslnegotiation", .oneOf ["postgres", "direct"]),
    ("connect_timeout", signed),
    ("tcp_user_timeout", signed),
    ("keepalives", .number (.unsigned 64)),
    ("keepalives_idle", signed),
    ("keepalives_interval", signed),
    ("keepalives_retries", .number (.unsigned 32)),
    ("target_session_attrs", .oneOf ["any", "read-write", "read-only"]),
    ("channel_binding", .oneOf ["disable", "prefer", "require"]),
    ("load_balance_hosts", .oneOf ["disable", "random"]) ]

def isNumber (range : IntegerRange) (value : List Char) : Bool :=
  (range.read value).isOk

/-- Whether a setting takes a value. -/
def SettingKind.takes (value : List Char) : SettingKind → Bool
  | .any => true
  | .oneOf words => words.any fun w => w.toList == value
  | .number range => isNumber range value
  | .ports => (value.splitOn ',').all fun p => p.isEmpty || isNumber (.unsigned 16) p
  | .addresses => (value.splitOn ',').all InternetAddress.isAddress

/-- A setting that is known and takes the value. -/
def setting? (name : String) (value : List Char) : Option ConnectionSetting :=
  match kinds.lookup name with
  | some kind => if kind.takes value then some (name, value) else none
  | none => none

/-! ### Settings with blanks between them -/

/-- A value without quotes, up to a blank. A backslash keeps the next character. -/
def bareValue : List Char → List Char × List Char
  | [] => ([], [])
  | ['\\'] => ([], [])
  | '\\' :: c :: rest =>
    let (value, rest) := bareValue rest
    (c :: value, rest)
  | c :: rest =>
    if Text.isBlank c then ([], c :: rest)
    else
      let (value, rest) := bareValue rest
      (c :: value, rest)

/-- A value after its opening quote. A backslash keeps the next character. -/
def quotedValue? : List Char → Option (List Char × List Char)
  | [] => none
  | ['\\'] => none
  | '\\' :: c :: rest => (quotedValue? rest).map fun (value, rest) => (c :: value, rest)
  | c :: rest =>
    if c = '\'' then some ([], rest)
    else (quotedValue? rest).map fun (value, rest) => (c :: value, rest)

/-- A value, in quotes or else not empty. -/
def value? : List Char → Option (List Char × List Char)
  | '\'' :: rest => quotedValue? rest
  | s =>
    match bareValue s with
    | ([], _) => none
    | (value, rest) => some (value, rest)

/-- Settings up to the end, or up to one without a name. Every setting takes characters. -/
def keywordSettings? : (fuel : Nat) → List Char → Option (List ConnectionSetting)
  | 0, _ => some []
  | fuel + 1, s =>
    let s := Text.trimLeft s
    let isName (c : Char) := !Text.isBlank c && c != '='
    match s.takeWhile isName with
    | [] => some []
    | name =>
      match Text.trimLeft (s.dropWhile isName) with
      | '=' :: rest => do
        let (value, rest) ← value? (Text.trimLeft rest)
        let first ← setting? (String.ofList name) value
        return first :: (← keywordSettings? fuel rest)
      | _ => none

/-! ### URLs -/

/-- The bytes of a text in which a percent sign and two digits stand for a byte. -/
def percentDecoded : List Char → List UInt8
  | '%' :: a :: b :: rest =>
    match Text.hexValue? a, Text.hexValue? b with
    | some high, some low => UInt8.ofNat (16 * high + low) :: percentDecoded rest
    | _, _ => '%'.toNat.toUInt8 :: percentDecoded (a :: b :: rest)
  | c :: rest => (String.singleton c).toUTF8.toList ++ percentDecoded rest
  | [] => []

/-- The text that encoded bytes spell. -/
def decoded? (s : List Char) : Option (List Char) :=
  let bytes := ByteArray.mk (percentDecoded s).toArray
  (String.fromUTF8? bytes).map String.toList

/-- The text up to a character of a set, and the rest from there on. -/
def splitBefore (ends : List Char) (s : List Char) : List Char × List Char :=
  (s.takeWhile (· ∉ ends), s.dropWhile (· ∉ ends))

/-- A host by name, or a directory by path, which need not be text. -/
def host? (s : List Char) : Option ConnectionSetting :=
  if (percentDecoded s).head? = some '/'.toNat.toUInt8 then some ("host", s)
  else (decoded? s).map ("host", ·)

/-- Host and port of one part of an authority. Brackets stand around addresses with colons. -/
def hostAndPort? (s : List Char) : Option (List ConnectionSetting) := do
  let (host, port) ← match s with
    | '[' :: rest =>
      match rest.dropWhile (· ≠ ']') with
      | ']' :: after =>
        match after with
        | [] => some (rest.takeWhile (· ≠ ']'), none)
        | ':' :: port => some (rest.takeWhile (· ≠ ']'), some port)
        | _ => none
      | _ => none
    | _ =>
      match s.dropWhile (· ≠ ':') with
      | _ :: port => some (s.takeWhile (· ≠ ':'), some port)
      | [] => some (s, none)
  let host ← host? host
  let port ← setting? "port" (← decoded? (port.getD "5432".toList))
  return [host, port]

/-- The parameters after a question mark. -/
def parameters? : (fuel : Nat) → List Char → Option (List ConnectionSetting)
  | _, [] => some []
  | 0, _ => some []
  | fuel + 1, s =>
    match splitBefore ['='] s with
    | (name, _ :: rest) => do
      let name ← decoded? name
      let (value, rest) := splitBefore ['&'] rest
      let first ←
        if name = "host".toList then host? value
        else do setting? (String.ofList name) (← decoded? value)
      return first :: (← parameters? fuel (rest.drop 1))
    | (_, []) => none

/-- The settings of a URL after its scheme: credentials before an at sign, hosts, a database after a
slash, and parameters. -/
def urlSettings? (s : List Char) : Option (List ConnectionSetting) := do
  let (credentials, s) ←
    match splitBefore ['@'] s with
    | (creds, _ :: rest) => do
      let user ← decoded? (creds.takeWhile (· ≠ ':'))
      let password := match creds.dropWhile (· ≠ ':') with
        | _ :: p => [("password", p)]
        | [] => []
      some (("user", user) :: password, rest)
    | (_, []) => some ([], s)
  let (authority, s) := splitBefore ['/', '?'] s
  let hosts ←
    if authority = [] then some []
    else ((authority.splitOn ',').mapM hostAndPort?).map List.flatten
  let (database, s) ←
    match s with
    | '/' :: rest => do
      let (name, rest) := splitBefore ['?'] rest
      if name = [] then some ([], rest)
      else do
        let name ← decoded? name
        some ([("dbname", name)], rest)
    | _ => some ([], s)
  let further ←
    match s with
    | '?' :: rest => parameters? rest.length rest
    | _ => some []
  return credentials ++ hosts ++ database ++ further

/-- The schemes of URLs. -/
def schemes : List String := ["postgres://", "postgresql://"]

/-- The settings of a connection string. -/
def settings? (text : String) : Option (List ConnectionSetting) :=
  match schemes.find? fun s => s.toList.isPrefixOf text.toList with
  | some scheme => urlSettings? (text.toList.drop scheme.length)
  | none => keywordSettings? text.length text.toList

end ConnectionString

end SqlCompose
