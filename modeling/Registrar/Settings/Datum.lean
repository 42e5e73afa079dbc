import Registrar.Bytes.Octets
import Registrar.Json.Format
import Registrar.Toml.Value

/-!
# Loose data

Settings come from a file, where a number is a number, and from the environment, where everything is
text. So a `Datum` is read generously: text that spells a number stands for it, a truth value for
one or zero, and a number for its text. Later data overlay earlier ones, section by section.

## Contents

- `Datum` with `Datum.ofToml`;
- `Datum.overlay` and `Datum.overlayAt`, which put new data over old ones;
- `Datum.number?`, `Datum.text?` and `Datum.address?`, the ways to read a datum.
-/

namespace Registrar

/-- A setting or a section of settings. -/
inductive Datum where
  | absent
  | text (s : String)
  | whole (n : Int)
  | real (x : Toml.Real)
  | flag (b : Bool)
  | list (items : List Datum)
  | section (entries : List (String × Datum))

namespace Datum

mutual
/-- A value of a settings file. A moment counts as text. -/
def ofToml : Toml.Value → Datum
  | .text s => .text s
  | .integer n => .whole n
  | .real x => .real x
  | .bool b => .flag b
  | .moment s => .text s
  | .array items => .list (ofTomlItems items)
  | .table entries => .section (ofTomlEntries entries)

/-- The items of an array. -/
def ofTomlItems : List Toml.Value → List Datum
  | [] => []
  | v :: rest => ofToml v :: ofTomlItems rest

/-- The entries of a table. -/
def ofTomlEntries : List (String × Toml.Value) → List (String × Datum)
  | [] => []
  | (key, v) :: rest => (key, ofToml v) :: ofTomlEntries rest
end

/-! ## Overlays -/

/-- The entry of a key. -/
def member? (key : String) (es : List (String × Datum)) : Option Datum :=
  (es.find? (·.1 = key)).map (·.2)

/-- The entries of a section; anything else has none. -/
def entries : Datum → List (String × Datum)
  | .section es => es
  | _ => []

/-- The items of a list; anything else has none. -/
def items : Datum → List Datum
  | .list ds => ds
  | _ => []

/-- The entries with what stands for one key changed. -/
def change (key : String) (f : Datum → Datum) (es : List (String × Datum)) :
    List (String × Datum) :=
  if (member? key es).isSome then es.map fun e => if e.1 = key then (key, f e.2) else e
  else es ++ [(key, f .absent)]

mutual
/-- New data over old ones: entries of a section are put over those of the old section, anything
else takes the place of the old data. -/
def overlay : (new old : Datum) → Datum
  | .section es, old => .section (overlayAll es old.entries)
  | new, _ => new

/-- New entries over old ones. -/
def overlayAll : (new old : List (String × Datum)) → List (String × Datum)
  | [], old => old
  | (key, d) :: rest, old => overlayAll rest (change key (overlay d) old)
end

/-- One step to a part of data: to an entry of a section or to an item of a list. Items before the
start of a list count from its end. -/
inductive Step where
  | key (name : String)
  | index (i : Int)
deriving DecidableEq

/-- The list with what stands at an index changed; missing items are filled in. -/
def changeItem (i : Int) (f : Datum → Datum) (ds : List Datum) : List Datum :=
  let place : Int := if 0 ≤ i then i else ds.length + i
  let before := List.replicate (-place).toNat .absent
  let after := List.replicate (place.toNat + 1 - ds.length) .absent
  let padded := before ++ ds ++ after
  padded.mapIdx fun k d => if k = place.toNat then f d else d

/-- Data with a part changed. What is in the way is replaced. -/
def changeAt (f : Datum → Datum) : List Step → Datum → Datum
  | [], d => f d
  | .key name :: rest, d => .section (change name (changeAt f rest) d.entries)
  | .index i :: rest, d => .list (changeItem i (changeAt f rest) d.items)

/-! ## Reading -/

/-- The part of a section with a name. Where a list stands instead of a section, it holds the parts
in order. -/
def part? (name : String) (position : Nat) : Datum → Option (Option Datum)
  | .section es => some (member? name es)
  | .list ds => some ds[position]?
  | _ => none

/-- A number below `2 ^ 64` that digits spell, with or without a plus sign. -/
def numberOfText? (cs : List Char) : Option Nat :=
  let ds := match cs with
    | '+' :: rest => rest
    | cs => cs
  if ds ≠ [] ∧ ds.all Char.isDigit then
    let n := ds.foldl (fun n c => 10 * n + (c.toNat - 48)) 0
    if n < UInt64.size then some n else none
  else none

/-- The whole number nearest to a number, or the end of the range of 64 bits. -/
def nearest : Toml.Real → Nat
  | .finite x => if x.negative then 0 else min x.roundHalfUp (UInt64.size - 1)
  | .infinite negative => if negative then 0 else UInt64.size - 1
  | .undefined => 0

/-- A number below `2 ^ 64`. -/
def number? : Datum → Option Nat
  | .whole n => if 0 ≤ n ∧ n < UInt64.size then some n.toNat else none
  | .real x => some (nearest x)
  | .flag b => some (if b then 1 else 0)
  | .text s =>
    let small := s.toList.map Char.toLower
    if ["true", "on", "yes"].any (·.toList = small) then some 1
    else if ["false", "off", "no"].any (·.toList = small) then some 0
    else numberOfText? s.toList
  | _ => none

/-- The text of a floating-point number. -/
def realText : Toml.Real → String
  | .finite x => String.ofList x.plainText
  | .infinite negative => if negative then "-inf" else "inf"
  | .undefined => "NaN"

/-- A text. -/
def text? : Datum → Option String
  | .text s => some s
  | .whole n => some (toString n)
  | .real x => some (realText x)
  | .flag b => some (if b then "true" else "false")
  | _ => none

/-- An address: digits with or without a marker, or a list of bytes. -/
def address? : Datum → Option Address
  | .text s =>
    match Hex.decode (Json.Format.unmarked s) with
    | .ok bs => Octets.ofList? 20 bs
    | .error _ => none
  | .list ds =>
    match (ds.take 20).mapM number?, (ds[20]?).bind number? with
    | some ns, none => Octets.ofList? 20 (ns.map UInt8.ofNat)
    | _, _ => none
  | _ => none

end Datum

end Registrar
