import Registrar.Bytes.Hex

/-!
# Numeric hosts

The two kinds of network addresses that may stand for a host. An IPv4 address is up to four numbers
between points, the last of which fills the bytes that are left; an IPv6 address is eight groups of
hexadecimal digits between colons, where one run of zero groups may be left out and the last two
groups may be written as an IPv4 address.

## Contents

- `splitAt`, the parts of a text between separators;
- `Ipv4.number?`, `Ipv4.endsInNumber` and `Ipv4.read?`;
- `Ipv6.read?`.
-/

namespace Registrar.Url

/-- The parts of a text between separators; there is always one. -/
def splitAt (separator : Char) (cs : List Char) : List (List Char) :=
  cs.foldr (fun c found =>
    match found with
    | [] => if c = separator then [[], []] else [[c]]
    | part :: more => if c = separator then [] :: part :: more else (c :: part) :: more) [[]]

/-- The number that digits of a base spell, if they are all below the base. -/
def digits? (base : Nat) (cs : List Char) : Option Nat :=
  cs.foldl (fun sofar c =>
    match sofar, Hex.digit? c with
    | some n, some d => if d < base then some (n * base + d) else none
    | _, _ => none) (some 0)

/-! ## Four bytes -/

namespace Ipv4

/-- The number that one part spells: hexadecimal after `0x`, octal after `0`, else decimal. A marker
alone is zero. -/
def number? (cs : List Char) : Option Nat :=
  match cs with
  | [] => none
  | '0' :: 'x' :: rest | '0' :: 'X' :: rest => digits? 16 rest
  | '0' :: c :: rest => digits? 8 (c :: rest)
  | cs => digits? 10 cs

/-- The parts of an address; a point at its end is left out. -/
def parts (cs : List Char) : List (List Char) :=
  let found := splitAt '.' cs
  if found.getLast? = some [] then found.dropLast else found

/-- Whether the last part of a domain makes it a numeric address, well formed or not. -/
def endsInNumber (cs : List Char) : Bool :=
  match (parts cs).getLast? with
  | none => false
  | some last => (!last.isEmpty && last.all fun c => c.isDigit) || (number? last).isSome

/-- The address that numbers stand for: all but the last are bytes. -/
def ofNumbers? (ns : List Nat) : Option Nat :=
  match ns.getLast? with
  | none => none
  | some last =>
    let first := ns.dropLast
    if first.length < 4 ∧ last < 1 <<< (8 * (4 - first.length)) ∧ first.all (· < 256) then
      some (first.foldr (fun b n => b * 0x1000000 + n / 256) 0 + last)
    else none

/-- The address that a text spells. -/
def read? (cs : List Char) : Option Nat := ((parts cs).mapM number?).bind ofNumbers?

end Ipv4

/-! ## Eight groups -/

namespace Ipv6

/-- One byte in decimal digits, without leading zeros. -/
def byte? (cs : List Char) : Option Nat :=
  match cs with
  | [] => none
  | ['0'] => some 0
  | '0' :: _ => none
  | cs => (digits? 10 cs).bind fun n => if n < 256 then some n else none

/-- The two groups that four bytes between points stand for. -/
def dotted? (cs : List Char) : Option (List Nat) :=
  match (splitAt '.' cs).mapM byte? with
  | some [a, b, c, d] => some [256 * a + b, 256 * c + d]
  | _ => none

/-- One group of up to four digits. -/
def group? (cs : List Char) : Option Nat :=
  if cs = [] ∨ 4 < cs.length then none else digits? 16 cs

/-- The groups between colons; `last` tells whether an address ends there, so that the last of them
may be dotted. -/
def groups? (last : Bool) : List (List Char) → Option (List Nat)
  | [] => some []
  | [part] => if last && part.contains '.' then dotted? part else (group? part).map ([·])
  | part :: rest =>
    match group? part, groups? last rest with
    | some g, some gs => some (g :: gs)
    | _, _ => none

/-- The parts before and after the first two colons in a row. -/
def splitAtGap : List Char → Option (List Char × List Char)
  | [] => none
  | ':' :: ':' :: rest => some ([], rest)
  | c :: rest => (splitAtGap rest).map fun (before, after) => (c :: before, after)

/-- The groups of one side of a gap, which may be empty. -/
def side? (last : Bool) (cs : List Char) : Option (List Nat) :=
  if cs = [] then some [] else groups? last (splitAt ':' cs)

/-- The groups of the address that a text spells. -/
def read? (cs : List Char) : Option (List Nat) :=
  match splitAtGap cs with
  | none => (side? true cs).bind fun gs => if gs.length = 8 then some gs else none
  | some (before, after) =>
    match side? false before, side? true after with
    | some gs, some hs =>
      if gs.length + hs.length < 8 then
        some (gs ++ List.replicate (8 - gs.length - hs.length) 0 ++ hs)
      else none
    | _, _ => none

end Ipv6

end Registrar.Url
