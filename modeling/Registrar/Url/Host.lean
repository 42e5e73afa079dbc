import Registrar.Url.Domain

/-!
# Hosts

The host of a locator: a domain or a numeric address where the scheme is one of the common ones, any
plain name elsewhere.

## Contents

- `Fault`, why a text is no locator;
- `Host` with `Host.read`, `Host.readPlain` and `Host.text`.
-/

namespace Registrar.Url

/-- Why a text is no locator. -/
inductive Fault where
  | noScheme
  | noHost
  | badPort
  | badIpv4
  | badIpv6
  | badName
  | badDomain
deriving DecidableEq

/-- The wording of a fault. -/
def Fault.message : Fault → String
  | .noScheme => "relative URL without a base"
  | .noHost => "empty host"
  | .badPort => "invalid port number"
  | .badIpv4 => "invalid IPv4 address"
  | .badIpv6 => "invalid IPv6 address"
  | .badName => "invalid domain character"
  | .badDomain => "invalid international domain name"

/-- What a locator leads to. -/
inductive Host where
  | domain (name : List Char)
  | ipv4 (address : Nat)
  | ipv6 (groups : List Nat)
  | plain (name : List Char)
deriving DecidableEq

namespace Host

/-- The address between brackets. -/
def ofBrackets (inside : List Char) : Except Fault Host :=
  if inside.getLast? = some ']' then
    match Ipv6.read? inside.dropLast with
    | some gs => .ok (.ipv6 gs)
    | none => .error .badIpv6
  else .error .badIpv6

/-- The host of a locator with a common scheme. -/
def read (cs : List Char) : Except Fault Host :=
  match cs with
  | '[' :: inside => ofBrackets inside
  | cs =>
    match Domain.read? cs with
    | none => .error .badDomain
    | some [] => .error .noHost
    | some name =>
      if Ipv4.endsInNumber name then
        match Ipv4.read? name with
        | some n => .ok (.ipv4 n)
        | none => .error .badIpv4
      else .ok (.domain name)

/-- Whether a character cannot be part of a plain name. -/
def isForbidden (c : Char) : Bool :=
  c.toNat = 0 || "\t\n\r #/:<>?@[\\]^|".toList.contains c

/-- The host of a locator with any other scheme; `none` if it is empty. -/
def readPlain (cs : List Char) : Except Fault (Option Host) :=
  match cs with
  | '[' :: inside => (ofBrackets inside).map some
  | [] => .ok none
  | cs => if cs.any isForbidden then .error .badName else .ok (some (.plain cs))

/-- The name by which a host is looked up. -/
def text : Host → String
  | .domain name | .plain name => String.ofList name
  | .ipv4 address =>
    String.ofList (List.intercalate ['.']
      ((Bytes.bigEndian 4 address).map fun b => Nat.toDigits 10 b.toNat))
  | .ipv6 groups => String.ofList (List.intercalate [':'] (groups.map (Nat.toDigits 16)))

end Host

end Registrar.Url
