/-! # TOML values — what a configuration text says

    A table remembers how it came about, because that decides what a later
    line may still add to it.  Floats and dates keep their spelling. -/

namespace ScratchArena.Toml

/-- How a table came about. -/
inductive Form where
  /-- Written inline: nothing may be added. -/
  | closed
  /-- Has a header of its own. -/
  | defined
  /-- Named only on the way to another header. -/
  | implied
  /-- Named only by dotted keys. -/
  | dotted
deriving DecidableEq, Repr

/-- A value of a document. -/
inductive Value where
  | text (s : String)
  | integer (n : Int)
  | float (spelling : String)
  | truth (b : Bool)
  | moment (spelling : String)
  | array (items : List Value)
  | table (form : Form) (entries : List (String × Value))
  /-- The tables under a repeated header, in order. -/
  | tables (elements : List (List (String × Value)))

instance : Inhabited Value := ⟨.truth false⟩

/-- The entries of a table, in the order of their first mention. -/
abbrev Entries := List (String × Value)

/-- The entries with the value of a key replaced. -/
def Entries.replace (es : Entries) (key : String) (v : Value) : Entries :=
  es.map fun (k, old) => if k = key then (k, v) else (k, old)

/-- A reader of text: a result and what is left, or nothing. -/
abbrev Reader (α : Type) := List Char → Option (α × List Char)

end ScratchArena.Toml
