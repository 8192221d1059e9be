import SoapBindings.Url.DomainName
import SoapBindings.Url.Error
import SoapBindings.Url.Ip
import SoapBindings.Url.Percent

/-!
# Hosts

The host of an address is a name or a numeric address. In the special schemes a name is a domain
name, which is decoded, lowered and written in ASCII; in the others it is kept as it is, apart from
characters that have to be encoded. The empty name stands for "no host".
-/

set_option autoImplicit false

namespace SoapBindings.Url

open Text

inductive Host where
  | name (text : String)
  | v4 (address : Nat)
  | v6 (pieces : List Nat)
  deriving DecidableEq, Repr, Inhabited

namespace Host

def toText : Host → String
  | name text => text
  | v4 address => ipv4Text address
  | v6 pieces => ipv6Text pieces

def isEmpty (h : Host) : Bool := h == name ""

/-- The address between brackets. -/
def bracketed (inner : List Char) : Except Error Host :=
  if inner.getLast? = some ']' then
    match ipv6? inner.dropLast with
    | some pieces => .ok (v6 pieces)
    | none => .error .invalidIpv6
  else .error .invalidIpv6

/-- The host that a text stands for in a special scheme. -/
def ofDomain : List Char → Except Error Host
  | '[' :: inner => bracketed inner
  | cs =>
    match (Utf8.pieces (percentDecode cs)).mapM Utf8.Piece.char? with
    | none => .error .invalidDomain
    | some decoded =>
      match asciiDomain? decoded with
      | none => .error .invalidDomain
      | some [] => .error .emptyHost
      | some domain =>
        if endsInNumber domain then
          match ipv4? domain with
          | some address => .ok (v4 address)
          | none => .error .invalidIpv4
        else .ok (name (String.ofList domain))

private def forbiddenInName : List Char :=
  ['\x00', '\t', '\n', '\r', ' ', '#', '/', ':', '<', '>', '?', '@', '[', '\\', ']', '^', '|']

/-- The host that a text stands for in any other scheme. -/
def ofName : List Char → Except Error Host
  | '[' :: inner => bracketed inner
  | cs =>
    if cs.any (forbiddenInName.contains ·) then .error .invalidHostCharacter
    else .ok (name (String.ofList (percentEncode controlSet cs)))

end Host

end SoapBindings.Url
