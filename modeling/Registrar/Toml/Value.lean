import Registrar.Number.Binary64

/-!
# Values of a settings file

What a document in TOML holds, and the tables while they are being filled. Where a table comes from
decides what may still be added to it.

## Contents

- `Real` and `Value`;
- `Draft`, a value or a table that is not finished, with `Draft.alter`, which changes the table at a
  path, and `Draft.put`, `Draft.start` and `Draft.append`, the three kinds of statements;
- `Draft.complete`, the finished form.
-/

namespace Registrar.Toml

/-- A floating-point number, finite or not. -/
inductive Real where
  | finite (x : Binary64)
  | infinite (negative : Bool)
  | undefined
deriving DecidableEq

/-- What a document holds. A moment is a date, a time, or both. -/
inductive Value where
  | text (s : String)
  | integer (n : Int)
  | real (x : Real)
  | bool (b : Bool)
  | moment (text : String)
  | array (items : List Value)
  | table (entries : List (String × Value))

/-! ## Tables in progress -/

/-- Where a table comes from: a header of its own, the header of a table in it, or a key with
points. -/
inductive Origin where
  | header
  | implied
  | dotted
deriving DecidableEq

/-- A part of a document that may still change. -/
inductive Draft where
  | value (v : Value)
  | table (origin : Origin) (entries : List (String × Draft))
  | tables (items : List (List (String × Draft)))

namespace Draft

/-- Keys with what they stand for. -/
abbrev Entries := List (String × Draft)

/-- The entry of a key. -/
def member? (key : String) (es : Entries) : Option Draft := (es.find? (·.1 = key)).map (·.2)

/-- The entries with another one for a key. -/
def replace (key : String) (d : Draft) (es : Entries) : Entries :=
  es.map fun e => if e.1 = key then (key, d) else e

/-- Changes the table at a path, which is made if it is not there. A path of a header goes through
any table and into the last one of several; a path of a key may not enter a table with a header. -/
def alter (forKey : Bool) (f : Origin → Entries → Option (Origin × Entries)) :
    List String → Origin → Entries → Option (Origin × Entries)
  | [], origin, es => f origin es
  | key :: rest, origin, es =>
    match member? key es with
    | none =>
      (alter forKey f rest (if forKey then .dotted else .implied) []).map fun (o, inner) =>
        (origin, es ++ [(key, .table o inner)])
    | some (.value _) => none
    | some (.table o inner) =>
      if forKey && o = .header then none
      else (alter forKey f rest o inner).map fun (o, inner) =>
        (origin, replace key (.table o inner) es)
    | some (.tables items) =>
      match items.getLast? with
      | none => none
      | some last =>
        (alter forKey f rest .header last).map fun (_, inner) =>
          (origin, replace key (.tables (items.dropLast ++ [inner])) es)

/-- Gives a new key a value. A key with points needs a table that was made by such keys, and a key
without points one that was not. -/
def put (path : List String) (key : String) (v : Value) (origin : Origin) (es : Entries) :
    Option (Origin × Entries) :=
  alter true (fun o inner =>
    if decide (o = .dotted) == path.isEmpty then none
    else if (member? key inner).isSome then none
    else some (o, inner ++ [(key, .value v)])) path origin es

/-- Begins a table, unless there is already more than an implied one. -/
def start (path : List String) (key : String) (es : Entries) : Option Entries :=
  (alter false (fun o inner =>
    match member? key inner with
    | none => some (o, inner ++ [(key, .table .header [])])
    | some (.table .implied entries) => some (o, replace key (.table .header entries) inner)
    | some _ => none) path .header es).map (·.2)

/-- Begins one more of several tables with one name. -/
def append (path : List String) (key : String) (es : Entries) : Option Entries :=
  (alter false (fun o inner =>
    match member? key inner with
    | none => some (o, inner ++ [(key, .tables [[]])])
    | some (.tables items) => some (o, replace key (.tables (items ++ [[]])) inner)
    | some _ => none) path .header es).map (·.2)

mutual
/-- The finished form. -/
def complete : Draft → Value
  | .value v => v
  | .table _ es => .table (finished es)
  | .tables items => .array (finishedAll items)

/-- The finished form of entries. -/
def finished : List (String × Draft) → List (String × Value)
  | [] => []
  | (key, d) :: rest => (key, d.complete) :: finished rest

/-- The finished form of tables. -/
def finishedAll : List (List (String × Draft)) → List Value
  | [] => []
  | es :: rest => .table (finished es) :: finishedAll rest
end

end Draft

end Registrar.Toml
