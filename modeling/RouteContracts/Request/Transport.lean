import RouteContracts.Request.Outgoing
import RouteContracts.Text.Utf8

/-! # Requests as HTTP messages
Before a request is sent its URL, header names and header values have to be what a message can hold.

* `Http.isTarget`: the URLs that a message can hold. `Http.isHeaderName`, `Http.isHeaderValue`.
* `Http.isMessage`: whether a request can be sent at all. -/

namespace RouteContracts.Http

/-- Whether a byte is one of some ASCII characters. -/
def isOneOf (chars : List Char) (b : UInt8) : Bool := chars.any fun c => c.toNat == b.toNat

/-- Whether a byte is an ASCII letter or digit. -/
def isAlphanum (b : UInt8) : Bool := b < 0x80 && (Char.ofNat b.toNat).isAlphanum

/-- Whether a byte may stand in a path. -/
def isPathByte (b : UInt8) : Bool :=
  b = 0x21 || b = 0x22 || 0x24 ≤ b && b ≤ 0x3B || b = 0x3D || 0x40 ≤ b && b ≤ 0x5F || 0x61 ≤ b

/-- Whether a byte may stand in a query. -/
def isQueryByte (b : UInt8) : Bool := b = 0x21 || 0x24 ≤ b && b ≤ 0x3B || b = 0x3D || 0x3F ≤ b

/-- Whether bytes are a path with an optional query; what follows `#` does not matter. -/
def isPathAndQuery (s : List UInt8) : Bool :=
  let path := s.takeWhile fun b => b ≠ 0x3F && b ≠ 0x23
  let rest := s.dropWhile fun b => b ≠ 0x3F && b ≠ 0x23
  path.all isPathByte &&
    match rest with
    | 0x3F :: query => (query.takeWhile (· ≠ 0x23)).all isQueryByte
    | _ => true

/-- Whether a byte may stand in a scheme. -/
def isSchemeByte (b : UInt8) : Bool := isAlphanum b || isOneOf ['+', '-', '.', '~'] b

/-- The longest scheme. -/
def maxScheme : Nat := 64

/-- What stands at the front of a target. -/
inductive Front where
  /-- A scheme; the rest of the target follows it. -/
  | scheme (rest : List UInt8)
  /-- No scheme. -/
  | bare
  /-- A scheme that is too long. -/
  | tooLong

/-- Looks for a scheme and the mark `://` after it. -/
def front (s : List UInt8) : Front :=
  let name := s.takeWhile isSchemeByte
  match s.dropWhile isSchemeByte with
  | 0x3A :: 0x2F :: 0x2F :: rest => if maxScheme < name.length then .tooLong else .scheme rest
  | _ => .bare

/-- What has been seen of an authority. -/
structure Seen where
  /-- Colons since the last mark that made them part of something else. -/
  colons : Nat
  /-- Whether a bracket was opened. -/
  opened : Bool
  /-- Whether it was closed. -/
  closed : Bool
  /-- Whether a percent sign is pending. -/
  percent : Bool
  /-- Whether the last byte was an at sign. -/
  atSign : Bool

/-- Whether a byte without a meaning of its own may stand in an authority. -/
def isAuthorityByte (b : UInt8) : Bool :=
  isAlphanum b || isOneOf ['!', '$', '&', '\'', '(', ')', '*', '+', ',', '-', '.', ';', '=', '_', '~'] b

/-- What is seen after one more byte of an authority. -/
def Seen.next (seen : Seen) (b : UInt8) : Option Seen :=
  if b = 0x3A then
    if 8 ≤ seen.colons then none else some { seen with colons := seen.colons + 1, atSign := false }
  else if b = 0x5B then
    if seen.percent || seen.opened then none else some { seen with opened := true, atSign := false }
  else if b = 0x5D then
    if !seen.opened || seen.closed then none
    else some { seen with closed := true, colons := 0, percent := false, atSign := false }
  else if b = 0x40 then some { seen with colons := 0, percent := false, atSign := true }
  else if b = 0x25 then some { seen with percent := true, atSign := false }
  else if isAuthorityByte b then some { seen with atSign := false }
  else none

/-- Whether bytes are an authority: balanced brackets, at most one colon before a port, something after
an at sign, no percent sign in the host. -/
def isAuthority (s : List UInt8) : Bool :=
  match s.foldlM Seen.next ⟨0, false, false, false, false⟩ with
  | some seen => seen.opened == seen.closed && seen.colons ≤ 1 && !seen.atSign && !seen.percent
  | none => false

/-- Whether a byte ends an authority. -/
def endsAuthority (b : UInt8) : Bool := b = 0x2F || b = 0x3F || b = 0x23

/-- The longest target. -/
def maxTarget : Nat := 65534

/-- **Whether a URL can stand in a message**: `*`, a path, an authority, or a scheme, an authority and
a path. -/
def isTarget (url : String) : Bool :=
  let s := Utf8.encode url
  s.length ≤ maxTarget &&
    match s with
    | [] => false
    | [0x2A] => true
    | 0x2F :: _ => isPathAndQuery s
    | _ =>
      match front s with
      | .tooLong => false
      | .bare => isAuthority s
      | .scheme rest =>
        let authority := rest.takeWhile (!endsAuthority ·)
        !authority.isEmpty && isAuthority authority
          && isPathAndQuery (rest.dropWhile (!endsAuthority ·))

/-- The longest header name. -/
def maxHeaderName : Nat := 65535

/-- Whether a byte may stand in a header name. -/
def isTokenByte (b : UInt8) : Bool :=
  isAlphanum b
    || isOneOf ['!', '#', '$', '%', '&', '\'', '*', '+', '-', '.', '^', '_', '\x60', '|', '~'] b

/-- Whether a text can be the name of a header. -/
def isHeaderName (name : String) : Bool :=
  let s := Utf8.encode name
  !s.isEmpty && s.length ≤ maxHeaderName && s.all isTokenByte

/-- Whether a text can be the value of a header. -/
def isHeaderValue (value : String) : Bool :=
  (Utf8.encode value).all fun b => 0x20 ≤ b && b ≠ 0x7F || b = 0x09

/-- Whether a request can be put into a message. -/
def isMessage (request : Outgoing) : Bool :=
  isTarget request.url
    && request.headers.all fun h => isHeaderName h.1 && isHeaderValue h.2

end RouteContracts.Http
