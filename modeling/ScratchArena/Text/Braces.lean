/-! # Braced text — a name and its fields on one line

    How the state of a value is shown for inspection: its name, then its
    fields in braces, each as a name, a colon and a value. -/

namespace ScratchArena.Text

/-- A name followed by named fields in braces. -/
def braced (name : String) (fields : List (String × String)) : String :=
  name ++ " \x7b " ++ String.intercalate ", " (fields.map fun (f, v) => f ++ ": " ++ v)
    ++ " \x7d"

/-- A name followed by one value in parentheses. -/
def applied (name value : String) : String := name ++ "(" ++ value ++ ")"

/-- A value that may be missing. -/
def optional : Option String → String
  | some value => applied "Some" value
  | none => "None"

end ScratchArena.Text
