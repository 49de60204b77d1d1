/-! # TOML libraries — what a program asks of one

    A program reads a text into a value, takes values apart into fields,
    numbers, truth values and texts, and has sections of simple values
    written.  How a library goes about that is its own affair.

    A library that keeps its word has integers of sixty-four bits with a
    sign, lets nothing else stand in the way of a document, and reads what
    it has written as what was to be written. -/

namespace ScratchArena.Toml

/-- A value that is written on one line of its own. -/
inductive Simple where
  | text (s : String)
  | integer (n : Nat)
  | truth (b : Bool)
deriving DecidableEq, Repr

/-- Headers in order, each with its keys and their values. -/
abbrev Sections := List (String × List (String × Simple))

/-- Why a document cannot be written. -/
inductive WriteFault where
  /-- An integer is out of range. -/
  | outOfRange
  /-- A run of quotes is too long to be counted. -/
  | uncountable
deriving DecidableEq, Repr

/-! ## Keys -/

/-- A character of a key that needs no quotes. -/
def isKeyChar (c : Char) : Bool := c.isAlphanum || c == '_' || c == '-'

/-- A key that is written without quotes. -/
def Bare (k : String) : Prop := k.toList ≠ [] ∧ k.toList.all isKeyChar = true

instance (k : String) : Decidable (Bare k) := inferInstanceAs (Decidable (_ ∧ _))

/-- Keys that need no quotes, each of them once. -/
structure Keyed {α : Type} (items : List (String × α)) : Prop where
  bare : ∀ i ∈ items, Bare i.1
  distinct : (items.map Prod.fst).Nodup

/-- Headers that need no quotes, and keys below them that need none. -/
structure Sections.Plain (document : Sections) : Prop where
  headers : Keyed document
  keys : ∀ s ∈ document, Keyed s.2

/-! ## Libraries -/

/-- A library for reading and writing TOML.  A reader that fails says why. -/
structure Library where
  /-- What a text, or a part of it, is read into. -/
  Value : Type
  /-- The value of a whole text. -/
  parse : String → Except String Value
  /-- The fields that a value gives to a structure, each asked for by its
      position in the structure and its name. -/
  fields : Value → Except String (Nat → String → Option Value)
  /-- A number that is not negative. -/
  size : Value → Except String Nat
  truth : Value → Except String Bool
  text : Value → Except String String
  write : Sections → Except WriteFault String

namespace Library

variable (lib : Library)

/-- The fields of a structure. -/
abbrev Fields := Nat → String → Option lib.Value

/-- A value is read as a simple one. -/
def Reads (v : lib.Value) : Simple → Prop
  | .text s => lib.text v = .ok s
  | .integer n => lib.size v = .ok n
  | .truth b => lib.truth v = .ok b

/-- Under each name the fields give what the items have there, as `R` sees
    it, and nothing where the items have nothing. -/
def Shows {α : Type} (R : lib.Value → α → Prop) (fields : lib.Fields) (items : List (String × α)) :
    Prop :=
  ∀ i name, Option.Rel R (fields i name) (items.lookup name)

/-- A value is read as a section. -/
def ReadsSection (v : lib.Value) (pairs : List (String × Simple)) : Prop :=
  ∃ fields, lib.fields v = .ok fields ∧ lib.Shows lib.Reads fields pairs

/-- A library that keeps its word. -/
structure Lawful : Prop where
  /-- Integers have sixty-four bits and a sign, and a document with plain
      keys is written unless one of them is out of range. -/
  writes : ∀ document : Sections, document.Plain →
    ((∃ text, lib.write document = .ok text)
      ↔ ∀ s ∈ document, ∀ key n, (key, Simple.integer n) ∈ s.2 → n ≤ Nat.pow 2 63 - 1)
  /-- What is written reads back. -/
  reads : ∀ (document : Sections) (text : String), document.Plain →
    lib.write document = .ok text →
      ∃ root fields, lib.parse text = .ok root ∧ lib.fields root = .ok fields
        ∧ lib.Shows lib.ReadsSection fields document

end Library

end ScratchArena.Toml
