/-!
How diagnostics show optional things, lists of things, and records with named fields.
-/

namespace CallBridge.Text

def shownOption {α : Type} (shown : α → String) : Option α → String
  | some a => "Some(" ++ shown a ++ ")"
  | none => "None"

def shownList {α : Type} (shown : α → String) (as : List α) : String :=
  "[" ++ ", ".intercalate (as.map shown) ++ "]"

/-- A record of at least one field, each a name and its text. -/
def shownRecord (name : String) (fields : List (String × String)) : String :=
  name ++ " \x7b " ++ ", ".intercalate (fields.map fun (n, t) => n ++ ": " ++ t) ++ " \x7d"

/-- A record that has more fields than the ones shown. -/
def shownOpenRecord (name : String) (fields : List (String × String)) : String :=
  name ++ " \x7b " ++ String.join (fields.map fun (n, t) => n ++ ": " ++ t ++ ", ") ++ ".. \x7d"

end CallBridge.Text
