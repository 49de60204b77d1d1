import ScratchArena.Toml.Document
import ScratchArena.Toml.Writer

/-! # The reader and the writer as a library

    A text is read into a table.  A table gives its entries to a structure
    by name, an array and a repeated table give their elements by position,
    and a date has nothing that a structure knows. -/

namespace ScratchArena.Toml

/-- What is said of a value that is read as one of another kind. -/
def wrongKind : String := "a value has the wrong kind"

namespace Value

/-- The fields a value gives to a structure. -/
def fields : Value → Except String (Nat → String → Option Value)
  | .table _ es => .ok fun _ name => es.lookup name
  | .array vs => .ok fun i _ => vs[i]?
  | .tables ts => .ok fun i _ => ts[i]?.map (.table .defined)
  | .moment _ => .ok fun _ _ => none
  | _ => .error wrongKind

/-- A size: an integer that is not negative. -/
def size : Value → Except String Nat
  | .integer n => if 0 ≤ n then .ok n.toNat else .error wrongKind
  | _ => .error wrongKind

/-- A truth value. -/
def truth? : Value → Except String Bool
  | .truth b => .ok b
  | _ => .error wrongKind

/-- A text. -/
def text? : Value → Except String String
  | .text s => .ok s
  | _ => .error wrongKind

end Value

/-- The table a text describes, as a value. -/
def readText (text : String) : Except String Value :=
  match parse? text with
  | some es => .ok (.table .defined es)
  | none => .error "the text is not well formed"

/-- The library, with a writer that counts quotes up to a limit. -/
def library (limit : Option Nat) : Library where
  Value := Value
  parse := readText
  fields := Value.fields
  size := Value.size
  truth := Value.truth?
  text := Value.text?
  write := Toml.write limit

end ScratchArena.Toml
