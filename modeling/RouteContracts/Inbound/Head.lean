import RouteContracts.Inbound.Basic

/-! # Request heads
The first line and the headers of a request, as a server receives them. The URL that a client meant is put
together from the target, from what proxies tell about the request before them, and from the name under
which the server was addressed.

* `RequestHead.forwarded?`: what the header `Forwarded` tells.
* `RequestHead.url?`: the URL of a request.
* `RequestHead.inbound`: what is validated. -/

namespace RouteContracts

/-- The target of a request. -/
structure RequestTarget where
  /-- The scheme, if the target is a whole URL. -/
  scheme : Option String
  /-- The host with what belongs to it, if the target names one. -/
  authority : Option String
  /-- The path and the query. -/
  path : String
deriving DecidableEq, Repr

namespace RequestTarget

/-- A path, which may not be empty. -/
def pathOf (s : List Char) : String :=
  let s := s.takeWhile (· ≠ '#')
  if s = [] then "/" else String.ofList s

/-- Whether a character ends the host. -/
def endsHost (c : Char) : Bool := c == '/' || c == '?' || c == '#'

/-- The two schemes that are written with small letters. -/
def usualSchemes : List String := ["http", "https"]

/-- A scheme as it is shown. -/
def schemeOf (s : List Char) : String :=
  let lower := String.ofList (s.map Char.toLower)
  if usualSchemes.contains lower then lower else String.ofList s

/-- The two sides of the first `://`. -/
def atHost? : List Char → Option (List Char × List Char)
  | [] => none
  | ':' :: '/' :: '/' :: rest => some ([], rest)
  | c :: rest => (atHost? rest).map fun sides => (c :: sides.1, sides.2)

/-- **The parts of a target**: a path, a whole URL with a scheme in front of `://`, or only a host. -/
def ofText (text : String) : RequestTarget :=
  match text.toList with
  | '/' :: rest => ⟨none, none, pathOf ('/' :: rest)⟩
  | ['*'] => ⟨none, none, "*"⟩
  | s =>
    -- a whole URL has a scheme; all else is taken for a host
    match atHost? s with
    | some (scheme, rest) =>
      if scheme.all fun c => c.isAlphanum || c == '+' || c == '-' || c == '.' then
        ⟨some (schemeOf scheme), some (String.ofList (rest.takeWhile fun c => !endsHost c)),
          pathOf (rest.dropWhile fun c => !endsHost c)⟩
      else ⟨none, some text, "/"⟩
    | none => ⟨none, some text, "/"⟩

end RequestTarget

/-- The head of a request. -/
structure RequestHead where
  target : RequestTarget
  /-- The headers in order. -/
  headers : List (String × String)
deriving Repr

namespace RequestHead

/-- Whether the value of a header can be taken as a text. -/
def isPlainValue (value : String) : Bool :=
  value.toList.all fun c => c == '\t' || (0x20 ≤ c.toNat && c.toNat < 0x7F)

/-- The values of a header. -/
def values (h : RequestHead) (name : String) : List String :=
  (h.headers.filter fun header => header.1.toLower == name.toLower).map Prod.snd

/-- The first of the `values` of a header, unless it is no `isPlainValue`. -/
def value? (h : RequestHead) (name : String) : Option String :=
  (h.values name).head?.filter isPlainValue

/-! ## Proxies -/

/-- The items of a header, which semicolons and commas separate. -/
def items (value : String) : List (List Char) :=
  (Address.splitAt ';' value.toList).flatMap (Address.splitAt ',')

/-- A text without blanks around it, and without the quotes around it then. -/
def unquoted (s : List Char) : String :=
  let inner := (Text.trimChars s).dropWhile (· = '"')
  String.ofList (inner.reverse.dropWhile (· = '"')).reverse

/-- The name and the value of an item: what stands on the two sides of `=`, the value `unquoted`. -/
def nameAndValue? (item : List Char) : Option (String × String) :=
  let item := Text.trimChars item
  match item.dropWhile (· ≠ '=') with
  | _ :: value =>
    some ((String.ofList (Text.trimChars (item.takeWhile (· ≠ '=')))).toLower, unquoted value)
  | [] => none

/-- **What the header `Forwarded` tells** about something; the first of its items with that name counts. -/
def forwarded? (h : RequestHead) (what : String) : Option String :=
  ((((h.values "forwarded").filter isPlainValue).flatMap items).filterMap nameAndValue?).find?
    (fun item => item.1 == what) |>.map Prod.snd

/-- The first of the values that commas separate in a header. -/
def firstValue? (h : RequestHead) (name : String) : Option String :=
  (h.value? name).map fun value => String.ofList (Text.trimChars (value.toList.takeWhile (· ≠ ',')))

/-! ## URLs -/

/-- The scheme of requests about which nothing is known. -/
def defaultScheme : String := "http"

/-- The host of requests about which nothing is known. -/
def defaultHost : String := "localhost:8080"

/-- The scheme under which a request was sent: `forwarded?`, `x-forwarded-proto`, the target, or `defaultScheme`, in
this order. -/
def scheme (h : RequestHead) : String :=
  (((h.forwarded? "proto").or (h.firstValue? "x-forwarded-proto")).or h.target.scheme).getD defaultScheme

/-- The host to which a request was sent: `forwarded?`, `x-forwarded-host`, `host`, the target, or `defaultHost`, in
this order. -/
def host (h : RequestHead) : String :=
  ((((h.forwarded? "host").or (h.firstValue? "x-forwarded-host")).or (h.value? "host")).or
    h.target.authority).getD defaultHost

/-- **The URL of a request**: `scheme`, `host` and the path of the target, if `Url.ofText?` reads it. -/
def url? (h : RequestHead) : Option Url := Url.ofText? (h.scheme ++ "://" ++ h.host ++ h.target.path)

/-- **What is validated** for a request with a body: with its `url?`, or without. -/
def inbound (h : RequestHead) (body : List UInt8) : Inbound :=
  let r : InboundRequest := ⟨h.value? "content-type", body⟩
  match h.url? with
  | some u => .event r u
  | none => .request r

end RequestHead

end RouteContracts
