import Registrar.Url.Host

/-!
# Locators

Whether a text is an absolute locator, and if so, its scheme and its host. Blanks and control
characters at the ends and tabs and line breaks anywhere do not count. After the host, only the port
can be wrong.

## Contents

- `Scheme`, the kinds of schemes, and `scheme?`;
- `Url.Place` and `Url.ofAuthority`, which reads user, host and port;
- `Url.read` and `Url.isPostable`.
-/

namespace Registrar

namespace Url

/-- Where a locator leads: a host, a port other than the usual one, and the text after them. -/
structure Place where
  host : Option Host
  port : Option Nat
  target : List Char
deriving DecidableEq

end Url

/-- An absolute locator. -/
structure Url where
  scheme : List Char
  place : Url.Place
deriving DecidableEq

namespace Url

/-! ## Schemes -/

/-- The kinds of schemes, which differ in how a host is read. -/
inductive Scheme where
  | file
  | common
  | other
deriving DecidableEq

/-- The kind of a scheme in lower case. -/
def Scheme.ofName (name : List Char) : Scheme :=
  if name = "file".toList then .file
  else if ["http", "https", "ws", "wss", "ftp"].any (·.toList = name) then .common
  else .other

/-- Whether a character may follow the first letter of a scheme. -/
def isSchemeChar (c : Char) : Bool := c.isAlphanum || c = '+' || c = '-' || c = '.'

/-- The scheme at the start of a text, in lower case, and the text after the colon. -/
def scheme? (cs : List Char) : Option (List Char × List Char) :=
  if cs.head?.any Char.isAlpha then
    match cs.dropWhile isSchemeChar with
    | ':' :: rest => some ((cs.takeWhile isSchemeChar).map Char.toLower, rest)
    | _ => none
  else none

/-! ## User, host and port -/

/-- Whether a character ends the part with user, host and port. -/
def endsAuthority (kind : Scheme) (c : Char) : Bool :=
  c = '/' || c = '?' || c = '#' || (c = '\\' && kind ≠ .other)

/-- The text before the last `@`, and the text after it. -/
def splitAtUser (cs : List Char) : Option (List Char × List Char) :=
  if cs.contains '@' then
    let after := (cs.reverse.takeWhile (· ≠ '@')).reverse
    some (cs.take (cs.length - after.length - 1), after)
  else none

/-- Whether a user is given: more than a colon. -/
def namesUser (user : List Char) : Bool := !user.isEmpty && user ≠ [':']

/-- The host up to the port: a colon between brackets belongs to the host. -/
def hostPart : (bracketed : Bool) → List Char → List Char
  | _, [] => []
  | bracketed, c :: rest =>
    if c = ':' ∧ bracketed = false then []
    else c :: hostPart (if c = '[' then true else if c = ']' then false else bracketed) rest

/-- The port that digits spell, a number below `2 ^ 16`; without digits there is none. -/
def port? (cs : List Char) : Option (Option Nat) :=
  if cs = [] then some none
  else (digits? 10 cs).bind fun n => if n < UInt16.size then some (some n) else none

/-- The text up to where a port ends. -/
def portPart (cs : List Char) : List Char := cs.takeWhile fun c => !endsAuthority .common c

/-- The place of a locator, from the text after the slashes. -/
def ofAuthority (kind : Scheme) (cs : List Char) : Except Fault Place :=
  let authority := cs.takeWhile fun c => !endsAuthority kind c
  let target := cs.dropWhile fun c => !endsAuthority kind c
  let (user, place) := (splitAtUser authority).getD ([], authority)
  if authority.head? = some '@' ∧ place = [] ∧ target ≠ [] then .error .noHost
  else
    let name := hostPart false place
    let afterHost := place.drop name.length
    let found : Except Fault (Option Host) :=
      if kind = .other then Host.readPlain name
      else if name = [] then .error .noHost
      else (Host.read name).map some
    match found with
    | .error fault => .error fault
    | .ok host =>
      if host = none ∧ afterHost ≠ [] then .error .noHost
      else
        match port? (portPart (afterHost.drop 1)) with
        | none => .error .badPort
        | some port =>
          if host = none ∧ namesUser user then .error .noHost
          else .ok ⟨host, port, target⟩

/-! ## Files -/

/-- Whether a text is the letter of a drive. -/
def isDrive (cs : List Char) : Bool :=
  match cs with
  | [c, ':'] | [c, '|'] => c.isAlpha
  | _ => false

/-- The place of a locator of a file, from the text after the colon. -/
def ofFile (cs : List Char) : Except Fault Place :=
  match cs with
  | a :: b :: rest =>
    if (a = '/' ∨ a = '\\') ∧ (b = '/' ∨ b = '\\') then
      let name := rest.takeWhile fun c => !endsAuthority .file c
      if name = [] ∨ isDrive name then .ok ⟨none, none, rest⟩
      else
        let target := rest.dropWhile fun c => !endsAuthority .file c
        match Host.read name with
        | .error fault => .error fault
        | .ok host =>
          .ok ⟨if host = .domain "localhost".toList then none else some host, none, target⟩
    else .ok ⟨none, none, cs⟩
  | cs => .ok ⟨none, none, cs⟩

/-! ## Whole locators -/

/-- The characters of a text that count. -/
def relevant (cs : List Char) : List Char :=
  let edge (c : Char) : Bool := decide (c.toNat ≤ 0x20)
  (((cs.dropWhile edge).reverse.dropWhile edge).reverse).filter fun c =>
    c ≠ '\t' ∧ c ≠ '\n' ∧ c ≠ '\r'

/-- The locator that a text spells. -/
def read (s : String) : Except Fault Url :=
  match scheme? (relevant s.toList) with
  | none => .error .noScheme
  | some (name, rest) =>
    let found : Except Fault Place :=
      match Scheme.ofName name with
      | .file => ofFile rest
      | .common => ofAuthority .common (rest.dropWhile fun c => c = '/' ∨ c = '\\')
      | .other =>
        match rest with
        | '/' :: '/' :: rest => ofAuthority .other rest
        | rest => .ok ⟨none, none, rest⟩
    found.map fun place => ⟨name, place⟩

/-- Whether a text is a locator to which documents can be posted. -/
def isPostable (s : String) : Bool :=
  match read s with
  | .ok url => url.scheme = "http".toList || url.scheme = "https".toList
  | .error _ => false

end Url

end Registrar
