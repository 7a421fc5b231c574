import RouteContracts.Url.Address
import RouteContracts.Url.DomainCharacters
import RouteContracts.Url.PercentEncoding
import RouteContracts.Url.Punycode

/-! # Hosts
The host of a URL is an address or a domain name. A domain name is kept in its ASCII form: small letters, and
Punycode for labels with other characters.

* `Domain.toAscii?`: the ASCII form of a domain name.
* `Host.text?`: the text of the host of a URL with one of the common schemes.
* `Host.plainText?`: the text of the host of another URL. -/

namespace RouteContracts

namespace Domain

/-- Printable ASCII characters that no domain name has. -/
def forbiddenMarks : List Char := ['%', '#', '/', ':', '<', '>', '?', '@', '[', '\\', ']', '^', '|']

/-- Whether no domain name has an ASCII character. -/
def isForbidden (c : Char) : Bool := c.toNat ≤ 0x20 || c.toNat == 0x7F || forbiddenMarks.contains c

/-- What stands in front of a label in Punycode. -/
def codedMark : List Char := ['x', 'n', '-', '-']

/-- Whether characters that join others stand only where they can. -/
def joinsWell : List Char → Bool
  | [] => true
  | c :: rest =>
    (match rest with
      | d :: _ => d.toNat != 0x200C && d.toNat != 0x200D || isVirama c
      | [] => true) && joinsWell rest

/-- Whether a label that is not ASCII can stand in a domain name. -/
def isLabel (label : List Char) : Bool :=
  match label with
  | [] => true
  | c :: _ =>
    !isMark c && c.toNat != 0x200C && c.toNat != 0x200D && joinsWell label &&
      label.all fun c => if c.toNat < 0x80 then !isForbidden c else !isDisallowed c

/-- Whether what follows the mark of Punycode is the code of a label. -/
def isCode (code : List Char) : Bool :=
  match Punycode.decode? code with
  | none => false
  | some label =>
    label.any (fun c => 0x80 ≤ c.toNat) && isLabel label && label.all fun c => mapped c == [c]

/-- The ASCII form of a label whose characters have been mapped. -/
def labelToAscii? (label : List Char) : Option (List Char) :=
  if label.all fun c => c.toNat < 0x80 then
    if label.any isForbidden then none
    else if codedMark.isPrefixOf label then
      if isCode (label.drop codedMark.length) then some label else none
    else some label
  else if isLabel label then some (codedMark ++ Punycode.encode label)
  else none

/-- **The ASCII form of a domain name**; none when it is no domain name. -/
def toAscii? (name : List Char) : Option (List Char) := do
  if name.any fun c => 0x80 ≤ c.toNat && isDisallowed c then none
  else
    let labels ← (Address.splitAt '.' (name.flatMap mapped)).mapM labelToAscii?
    some (['.'].intercalate labels)

end Domain

namespace Host

/-- The text of an address in brackets. -/
def bracketed? (s : List Char) : Option String :=
  match s.reverse with
  | ']' :: rest => (Address.groups? rest.reverse).map fun gs => "[" ++ Address.groupsText gs ++ "]"
  | _ => none

/-- The text of a host that is not in brackets. -/
def named? (s : List Char) : Option String := do
  let name ← Utf8.decode? (Form.percentDecode (Utf8.encodeChars s))
  let ascii ← Domain.toAscii? name.toList
  if ascii = [] then none
  else if Address.endsInNumber ascii then (Address.fourBytes? ascii).map Address.fourBytesText
  else some (String.ofList ascii)

/-- **The text of the host** of a URL with one of the common schemes; none when it is no host. -/
def text? (s : List Char) : Option String :=
  match s with
  | '[' :: rest => bracketed? rest
  | s => named? s

/-- Characters that no host has. -/
def forbidden : List Char :=
  ['\x00', '\t', '\n', '\r', ' ', '#', '/', ':', '<', '>', '?', '@', '[', '\\', ']', '^', '|']

/-- **The text of the host** of another URL, which may be empty; none when it is no host. -/
def plainText? (s : List Char) : Option String :=
  match s with
  | '[' :: rest => bracketed? rest
  | s =>
    if s.any forbidden.contains then none
    else some (String.ofList (PercentEncoding.encode .whole s))

end Host

end RouteContracts
