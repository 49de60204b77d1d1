import ScratchArena.Log.Event
import ScratchArena.Text.Quoted

/-! # Log lines — records as text -/

namespace ScratchArena

/-- The value as a line of text shows it; an address is left out. -/
def FieldValue.text : FieldValue → String
  | .count n => toString n
  | .flag true => "true"
  | .flag false => "false"
  | .quoted text => Text.quoted text
  | .bare text => text
  | .address => ""

/-- The record on one line: level, target, message, then the fields. -/
def Record.line (r : Record) : String :=
  r.level.name ++ " " ++ r.target ++ ": " ++ r.message
    ++ String.join (r.shown.map fun (name, v) => " " ++ name ++ "=" ++ v.text)

end ScratchArena
