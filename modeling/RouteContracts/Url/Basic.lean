import RouteContracts.Url.Host

/-! # URLs
An absolute URL, kept in its normal form: the scheme in small letters, the host as an
address or an ASCII name, no default port, no `.` and `..` in the path, and in each part the characters
encoded that do not stand for themselves there.

* `Url.text`: the text of a URL.
* `Url.pairs`: the names and values of its query. -/

namespace RouteContracts

/-- How URLs of a scheme are read. -/
inductive SchemeKind where
  /-- A host is needed, and backslashes are slashes. -/
  | common
  /-- The host may be missing. -/
  | file
  /-- Anything can follow the colon. -/
  | other
deriving DecidableEq, Repr

/-- Whether backslashes are slashes. -/
def SchemeKind.readsBackslashes : SchemeKind → Bool
  | .common | .file => true
  | .other => false

/-- An absolute URL. -/
structure Url where
  scheme : String
  /-- The user and the password in front of the host, with the at sign. -/
  userInfo : String
  host : Option String
  /-- The port, unless it is the default of the scheme. -/
  port : Option Nat
  path : String
  query : Option String
  fragment : Option String
deriving DecidableEq, Repr, Inhabited

namespace Url

/-- **The text of a URL.** -/
def text (u : Url) : String :=
  u.scheme ++ ":" ++
    (match u.host with
      | some host => "//" ++ u.userInfo ++ host ++ (u.port.elim "" fun p => ":" ++ Nat.repr p)
      | none => if "//".toList.isPrefixOf u.path.toList then "/." else "") ++
    u.path ++ (u.query.elim "" ("?" ++ ·)) ++ (u.fragment.elim "" ("#" ++ ·))

/-- **The names and values of the query.** -/
def pairs (u : Url) : List (String × String) := u.query.elim [] Form.decodePairs

/-! ## Schemes -/

/-- The default ports of the common schemes. -/
def defaultPorts : List (String × Nat) :=
  [("http", 80), ("https", 443), ("ws", 80), ("wss", 443), ("ftp", 21)]

/-- The default port of a scheme. -/
def defaultPort? (scheme : String) : Option Nat := (defaultPorts.find? fun p => p.1 == scheme).map Prod.snd

/-- How URLs of a scheme are read. -/
def kindOf (scheme : String) : SchemeKind :=
  if scheme = "file" then .file else if (defaultPort? scheme).isSome then .common else .other

end Url

end RouteContracts
