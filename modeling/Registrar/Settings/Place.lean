import Registrar.Settings.Datum

/-!
# Places in loose data

How a text leads to a part of data: names with points between them, and numbers of items between
brackets, as in `section.list[2].name`. `put` puts new data at such a place.
-/

namespace Registrar.Datum

/-- Whether a character may stand in the name of a part. -/
def isNameChar (c : Char) : Bool := c.isAlphanum || c = '_' || c = '-'

/-- The number of an item, with or without a minus sign. -/
def index? (cs : List Char) : Option Int :=
  let (negative, ds) := match cs with
    | '-' :: rest => (true, rest)
    | cs => (false, cs)
  if ds ≠ [] ∧ ds.all Char.isDigit ∧ ds.length < 20 then
    let n : Int := ds.foldl (fun n c => 10 * n + (c.toNat - 48)) 0
    some (if negative then -n else n)
  else none

/-- The steps after the first name: names after points, and numbers between brackets. -/
def steps? : (fuel : Nat) → List Char → Option (List Step)
  | _, [] => some []
  | 0, _ => none
  | fuel + 1, '.' :: rest =>
    let name := rest.takeWhile isNameChar
    if name = [] then none
    else (steps? fuel (rest.dropWhile isNameChar)).map (.key (String.ofList name) :: ·)
  | fuel + 1, '[' :: rest =>
    match index? (rest.takeWhile (· ≠ ']')), rest.dropWhile (· ≠ ']') with
    | some i, _ :: rest => (steps? fuel rest).map (.index i :: ·)
    | _, _ => none
  | _ + 1, _ :: _ => none

/-- The way to a setting. A name that is not well formed stands for itself as a whole. -/
def steps (cs : List Char) : List Step :=
  let name := cs.takeWhile isNameChar
  match if name = [] then none else steps? cs.length (cs.dropWhile isNameChar) with
  | some rest => .key (String.ofList name) :: rest
  | none => [.key (String.ofList cs)]

/-- Data put over other data at the place that a name leads to. -/
def put (name : List Char) (new : Datum) (d : Datum) : Datum :=
  changeAt (overlay new) (steps name) d

end Registrar.Datum
