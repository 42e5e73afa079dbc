import Registrar.Number.Binary64

/-!
# Moments of a settings file

Dates, times, and both together. `moment?` reads one and gives its regular spelling: a `T` between
date and time, a capital `Z`, and no zeros at the end of a fraction of a second.
-/

namespace Registrar.Toml.Moment

/-- The number that exactly `n` digits at the start of a text spell, and the text after them. -/
def digits? (n : Nat) (cs : List Char) : Option (Nat × List Char) :=
  let ds := cs.take n
  if ds.length = n ∧ ds.all Char.isDigit then
    some (ds.foldl (fun k c => 10 * k + (c.toNat - 48)) 0, cs.drop n)
  else none

/-- A number with at least two digits. -/
def twoDigits (n : Nat) : List Char :=
  if n < 10 then '0' :: Binary64.decimal n else Binary64.decimal n

/-- The number of days of a month. -/
def daysOf (year month : Nat) : Nat :=
  if month = 2 then
    if year % 4 = 0 ∧ (year % 100 ≠ 0 ∨ year % 400 = 0) then 29 else 28
  else if month = 4 ∨ month = 6 ∨ month = 9 ∨ month = 11 then 30
  else 31

/-- A date at the start of a text, as it is spelled there, and the text after it. -/
def date? (cs : List Char) : Option (List Char × List Char) :=
  match digits? 4 cs with
  | some (year, '-' :: rest) =>
    match digits? 2 rest with
    | some (month, '-' :: rest) =>
      match digits? 2 rest with
      | some (day, rest) =>
        if 1 ≤ month ∧ month ≤ 12 ∧ 1 ≤ day ∧ day ≤ daysOf year month then
          some (cs.take 10, rest)
        else none
      | none => none
    | _ => none
  | _ => none

/-- The fraction of a second at the start of a text: nine places at most, without zeros at its end.
Also the text after it. -/
def fraction? (cs : List Char) : Option (List Char × List Char) :=
  match cs with
  | '.' :: rest =>
    let ds := rest.takeWhile Char.isDigit
    if ds = [] then none
    else
      let kept := ((ds.take 9).reverse.dropWhile (· = '0')).reverse
      some (if kept = [] then [] else '.' :: kept, rest.dropWhile Char.isDigit)
  | cs => some ([], cs)

/-- A time of day at the start of a text, and the text after it. -/
def time? (cs : List Char) : Option (List Char × List Char) :=
  match digits? 2 cs with
  | some (hour, ':' :: rest) =>
    match digits? 2 rest with
    | some (minute, ':' :: rest) =>
      match digits? 2 rest with
      | some (second, rest) =>
        if hour ≤ 23 ∧ minute ≤ 59 ∧ second ≤ 60 then
          (fraction? rest).map fun (places, rest) => (cs.take 8 ++ places, rest)
        else none
      | none => none
    | _ => none
  | _ => none

/-- The distance from universal time at the start of a text, and the text after it. -/
def offset? (cs : List Char) : Option (List Char × List Char) :=
  match cs with
  | 'Z' :: rest | 'z' :: rest => some (['Z'], rest)
  | '+' :: rest | '-' :: rest =>
    match digits? 2 rest with
    | some (hours, ':' :: more) =>
      match digits? 2 more with
      | some (minutes, after) =>
        if hours ≤ 23 ∧ minutes ≤ 59 then
          let sign := if hours = 0 ∧ minutes = 0 then '+' else cs.headD '+'
          some (sign :: (twoDigits hours ++ ':' :: twoDigits minutes), after)
        else none
      | none => none
    | _ => none
  | cs => some ([], cs)

/-- The regular spelling of the moment that a whole text spells. -/
def ofChars? (cs : List Char) : Option (List Char) :=
  match date? cs with
  | some (date, []) => some date
  | some (date, mark :: rest) =>
    if mark = 'T' ∨ mark = 't' ∨ mark = ' ' then
      match time? rest with
      | some (time, rest) =>
        match offset? rest with
        | some (offset, []) => some (date ++ 'T' :: (time ++ offset))
        | _ => none
      | none => none
    else none
  | none =>
    match time? cs with
    | some (time, []) => some time
    | _ => none

end Registrar.Toml.Moment
