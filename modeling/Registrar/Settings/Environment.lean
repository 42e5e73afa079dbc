import Registrar.Settings.Place

/-!
# Settings from the environment

A variable whose name starts with the common marker names a setting: the parts of its name between
double underscores lead to it, in small letters. `overlay` puts such variables over settings.
-/

namespace Registrar.Environment

/-- Names and texts of variables. -/
abbrev Variables := List (String × String)

/-- The start of the names of variables with settings, in small letters. -/
def marker : List Char := "operator__".toList

/-- A text with a point for every two underscores. -/
def withPoints : List Char → List Char
  | '_' :: '_' :: rest => '.' :: withPoints rest
  | c :: rest => c :: withPoints rest
  | [] => []

/-- The name of the setting that a variable holds. -/
def settingName? (name : String) : Option (List Char) :=
  let small := name.toList.map Char.toLower
  if marker.isPrefixOf small then some (withPoints (small.drop marker.length)) else none

/-- The settings that variables hold, over other ones. -/
def overlay (vars : Variables) (d : Datum) : Datum :=
  vars.foldl (fun d (name, text) =>
    match settingName? name with
    | some setting => Datum.put setting (.text text) d
    | none => d) d

end Registrar.Environment
