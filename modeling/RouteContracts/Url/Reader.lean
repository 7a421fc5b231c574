import RouteContracts.Url.Basic

/-! # Reading URLs
A text is taken apart from the front: scheme, user and host, port, path, query, fragment. Each part ends
where a character stands that begins the next one.

* `Url.pathText`: the normal form of a path.
* `Url.ofText?`: the URL of a text; none when it is no absolute URL. -/

namespace RouteContracts.Url

/-! ## Paths -/

/-- The spellings of a dot in a segment of a path. -/
def dotSpellings : List (List Char) := [['.'], ['%', '2', 'e'], ['%', '2', 'E']]

/-- Whether a segment is a single dot. -/
def isDot (segment : List Char) : Bool := dotSpellings.contains segment

/-- Whether a segment is two dots. -/
def isDoubleDot (segment : List Char) : Bool :=
  dotSpellings.any fun a => dotSpellings.any fun b => segment == a ++ b

/-- Whether a segment is a letter and a colon or a bar. -/
def isDrive (segment : List Char) : Bool :=
  match segment with
  | [letter, mark] => letter.isAlpha && (mark == ':' || mark == '|')
  | _ => false

/-- The segments without the last one; the drive of a file stays. -/
def shortened (kind : SchemeKind) (segments : List (List Char)) : List (List Char) :=
  match kind, segments with
  | .file, [segment] => if isDrive segment && segment.getLast? == some ':' then [segment] else []
  | _, segments => segments.dropLast

/-- A segment of a path as it is written. -/
def segmentText (kind : SchemeKind) (isFirst : Bool) (segment : List Char) : List Char :=
  match kind, isFirst, segment with
  | .file, true, [letter, _] => if isDrive segment then [letter, ':'] else PercentEncoding.encode .path segment
  | _, _, segment => PercentEncoding.encode .path segment

/-- The segments of a path without dots, after some of them. -/
def resolved (kind : SchemeKind) (out : List (List Char)) : List (List Char) → List (List Char)
  | [] => out
  | segment :: rest =>
    let out :=
      if isDoubleDot segment then
        let out := shortened kind out
        if rest = [] then out ++ [[]] else out
      else if isDot segment then (if rest = [] then out ++ [[]] else out)
      else out ++ [segmentText kind out.isEmpty segment]
    resolved kind out rest

/-- The segments of a path. -/
def segments (kind : SchemeKind) (s : List Char) : List (List Char) :=
  Address.splitAt '/' (if kind.readsBackslashes then s.map fun c => if c = '\\' then '/' else c else s)

/-- The path of segments. -/
def ofSegments (segments : List (List Char)) : String := String.ofList ('/' :: ['/'].intercalate segments)

/-- The segments of the path of a file, which begins with one slash only. -/
def withoutEmptyFront : List (List Char) → List (List Char)
  | [] :: next :: rest => withoutEmptyFront (next :: rest)
  | segments => segments

/-- **The normal form of a path** after its first slash. -/
def pathText (kind : SchemeKind) (s : List Char) : String :=
  let segments := resolved kind [] (segments kind s)
  ofSegments (if kind = .file then withoutEmptyFront segments else segments)

/-! ## Parts -/

/-- The characters up to one of some, and the rest. -/
def upTo (ends : Char → Bool) (s : List Char) : List Char × List Char :=
  (s.takeWhile fun c => !ends c, s.dropWhile fun c => !ends c)

/-- Whether a path ends at a character. -/
def endsPath (c : Char) : Bool := c == '?' || c == '#'

/-- Whether the part with user and host ends at a character. -/
def endsAuthority (kind : SchemeKind) (c : Char) : Bool :=
  c == '/' || endsPath c || (kind.readsBackslashes && c == '\\')

/-- The query and the fragment, from the character on that begins one of them. -/
def queryAndFragment (kind : SchemeKind) (s : List Char) : Option String × Option String :=
  let fragmentOf : List Char → Option String
    | '#' :: rest => some (String.ofList (PercentEncoding.encode .fragment rest))
    | _ => none
  match s with
  | '?' :: rest =>
    let (query, rest) := upTo (· == '#') rest
    let part := if kind.readsBackslashes then PercentEncoding.Part.commonQuery else .query
    (some (String.ofList (PercentEncoding.encode part query)), fragmentOf rest)
  | s => (none, fragmentOf s)

/-- The text of user and password, with an at sign if there is one of them. -/
def userInfoText (s : List Char) : String :=
  let user := PercentEncoding.encode .userInfo (s.takeWhile (· ≠ ':'))
  let password := PercentEncoding.encode .userInfo ((s.dropWhile (· ≠ ':')).drop 1)
  if user = [] ∧ password = [] then ""
  else String.ofList (user ++ (if password = [] then [] else ':' :: password) ++ ['@'])

/-- The user and the password in front of the last at sign, if there is one, and what follows it. -/
def atLastSign (s : List Char) : Option (List Char) × List Char :=
  if s.contains '@' then
    let host := (s.reverse.takeWhile (· ≠ '@')).reverse
    (some (s.take (s.length - host.length - 1)), host)
  else (none, s)

/-- The host, and what begins with the colon in front of the port. A colon in brackets belongs to the host. -/
def hostAndRest (inBrackets : Bool) : List Char → List Char × List Char
  | [] => ([], [])
  | c :: rest =>
    if c = ':' ∧ inBrackets = false then ([], c :: rest)
    else
      let (host, rest) := hostAndRest (if c = '[' then true else if c = ']' then false else inBrackets) rest
      (c :: host, rest)

/-- The largest port. -/
def maxPort : Nat := 65535

/-- The port that digits denote; without digits there is none. -/
def port? (scheme : String) (digits : List Char) : Option (Option Nat) :=
  if digits = [] then some none
  else do
    let n ← Config.digitsValue? 10 digits
    if n ≤ maxPort then some (if defaultPort? scheme = some n then none else some n) else none

/-- The user, the host and the port of a URL. -/
structure Authority where
  userInfo : String
  host : String
  port : Option Nat

/-- The user, the host and the port that a text denotes. -/
def authority? (scheme : String) (kind : SchemeKind) (s : List Char) : Option Authority := do
  let (user, rest) := atLastSign s
  let (host, rest) := hostAndRest false rest
  -- an empty host stands alone, and only where none is needed
  if host = [] ∧ (kind = .common ∨ user = some [] ∨ userInfoText (user.getD []) ≠ "" ∨ rest ≠ []) then none
  else
    let name ← if kind = .common then Host.text? host else Host.plainText? host
    let port ← port? scheme (rest.drop 1)
    some ⟨userInfoText (user.getD []), name, port⟩

/-- The path after the host. -/
def pathAfterHost (kind : SchemeKind) (s : List Char) : String :=
  match s with
  | [] => if kind = .other then "" else pathText kind []
  | c :: rest => pathText kind (if endsAuthority kind c then rest else s)

/-- The URL with user, host and port. -/
def withAuthority? (scheme : String) (kind : SchemeKind) (s : List Char) : Option Url := do
  let (authority, rest) := upTo (endsAuthority kind) s
  let a ← authority? scheme kind authority
  let (path, rest) := upTo endsPath rest
  let (query, fragment) := queryAndFragment kind rest
  some ⟨scheme, a.userInfo, some a.host, a.port, pathAfterHost kind path, query, fragment⟩

/-- The URL with no host: its path, if it begins with a slash, else a text of its own. -/
def withoutHost (scheme : String) (s : List Char) : Url :=
  let (path, rest) := upTo endsPath s
  let (query, fragment) := queryAndFragment .other rest
  let path := match path with
    | '/' :: rest => pathText .other rest
    | path => String.ofList (PercentEncoding.encode .whole path)
  ⟨scheme, "", none, none, path, query, fragment⟩

/-- The host of a file and the path after it; a drive is no host. -/
def fileHost? (s : List Char) : Option (String × List Char) :=
  let (host, rest) := upTo (endsAuthority .file) s
  if isDrive host then some ("", '/' :: s)
  else if host = [] then some ("", rest)
  else (Host.text? host).map fun h => (if h = "localhost" then "" else h, rest)

/-- The URL of a file. -/
def ofFile? (s : List Char) : Option Url := do
  let isSlash := fun (c : Char) => c == '/' || c == '\\'
  let (host, rest) ← match s with
    | a :: b :: rest => if isSlash a && isSlash b then fileHost? rest else some ("", s)
    | s => some ("", s)
  let (path, rest) := upTo endsPath rest
  let (query, fragment) := queryAndFragment .file rest
  let path := match path with
    | c :: more => if isSlash c then more else path
    | [] => []
  some ⟨"file", "", some host, none, pathText .file path, query, fragment⟩

/-! ## URLs -/

/-- Whether a character can be in a scheme after its first letter. -/
def isInScheme (c : Char) : Bool := c.isAlphanum || c == '+' || c == '-' || c == '.'

/-- The scheme of a text, and what follows its colon. -/
def scheme? (s : List Char) : Option (String × List Char) :=
  match s with
  | c :: _ =>
    if c.isAlpha then
      match upTo (fun c => !isInScheme c) s with
      | (scheme, ':' :: rest) => some (String.ofList (scheme.map Char.toLower), rest)
      | _ => none
    else none
  | [] => none

/-- Whether a character is dropped at the ends of a text. -/
def isEdge (c : Char) : Bool := c.toNat ≤ 0x20

/-- Whether a character is dropped everywhere. -/
def isDropped (c : Char) : Bool := c == '\t' || c == '\n' || c == '\r'

/-- The characters of a text that count. -/
def counted (s : List Char) : List Char :=
  (((s.dropWhile isEdge).reverse.dropWhile isEdge).reverse).filter fun c => !isDropped c

/-- **The URL of a text.** -/
def ofText? (s : String) : Option Url := do
  let (scheme, rest) ← scheme? (counted s.toList)
  match kindOf scheme with
  | .file => ofFile? rest
  | .common => withAuthority? scheme .common (rest.dropWhile fun c => c == '/' || c == '\\')
  | .other =>
    match rest with
    | '/' :: '/' :: rest => withAuthority? scheme .other rest
    | rest => some (withoutHost scheme rest)

end RouteContracts.Url
