import PageWatch.Url.Address
import PageWatch.Url.Domain
import PageWatch.Url.Percent

/-!
# Hosts
-/

set_option autoImplicit false

namespace PageWatch

inductive UrlError where
  | emptyHost
  | badDomain
  | badPort
  | badShortAddress
  | badLongAddress
  | badDomainCharacter
  | noBase
  | opaqueBase
  deriving Repr, DecidableEq

def UrlError.message : UrlError → String
  | emptyHost => "empty host"
  | badDomain => "invalid international domain name"
  | badPort => "invalid port number"
  | badShortAddress => "invalid IPv4 address"
  | badLongAddress => "invalid IPv6 address"
  | badDomainCharacter => "invalid domain character"
  | noBase => "relative URL without a base"
  | opaqueBase => "relative URL with a cannot-be-a-base base"

namespace Url

inductive Host where
  | name (labels : List Char)
  | short (address : Nat)
  | long (pieces : List Nat)
  deriving Repr, DecidableEq

def Host.text : Host → List Char
  | name labels => labels
  | short address => shortAddressText address
  | long pieces => '[' :: longAddressText pieces ++ [']']

def bracketed (cs : List Char) : Except UrlError Host :=
  if cs.getLast? = some ']' then
    match longAddress? cs.dropLast with
    | some pieces => .ok (.long pieces)
    | none => .error .badLongAddress
  else .error .badLongAddress

def domainHost (cs : List Char) : Except UrlError Host :=
  match cs with
  | '[' :: r => bracketed r
  | _ =>
    match (text? (percentDecode (bytes cs))).bind domainToAscii? with
    | none => .error .badDomain
    | some [] => .error .emptyHost
    | some name =>
      if endsInNumber name then
        match shortAddress? name with
        | some address => .ok (.short address)
        | none => .error .badShortAddress
      else .ok (.name name)

def forbiddenInHost : List Char :=
  ['\x00', '\t', '\n', '\r', ' ', '#', '/', ':', '<', '>', '?', '@', '[', '\\', ']', '^', '|']

def opaqueHost (cs : List Char) : Except UrlError Host :=
  match cs with
  | '[' :: r => bracketed r
  | _ =>
    if cs.any forbiddenInHost.contains then .error .badDomainCharacter
    else .ok (.name (percentEncode [] cs))

end Url

end PageWatch
