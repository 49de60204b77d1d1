import ScratchArena.Toml.Value

/-! # Tables — what a line may add to what earlier lines said

    A key is given a value at most once.  A dotted key reaches into tables
    that dotted keys or headers only implied, and adds to those that
    dotted keys made; a header reaches into any table and, where the path
    holds repeated tables, into the last of them; it defines a table once,
    unless the table was only implied so far. -/

namespace ScratchArena.Toml.Entries

/-- What `f` makes of the last element, the others kept. -/
def updateLast {α : Type} (f : α → Option α) : List α → Option (List α)
  | [] => none
  | [last] => (f last).map ([·])
  | first :: rest => (updateLast f rest).map (first :: ·)

/-- Give the key at the end of a dotted path a value. -/
def insert (key : String) (v : Value) : List String → Entries → Option Entries
  | [], es =>
      match es.lookup key with
      | none => some (es ++ [(key, v)])
      | some _ => none
  | step :: path, es =>
      match es.lookup step with
      | none => (insert key v path []).map fun sub => es ++ [(step, .table .dotted sub)]
      | some (.table form sub) =>
          if form = .dotted ∨ (form = .implied ∧ path ≠ []) then
            (insert key v path sub).map fun sub => es.replace step (.table form sub)
          else none
      | some (.tables elements) =>
          if path = [] then none
          else (updateLast (insert key v path) elements).map fun elements =>
            es.replace step (.tables elements)
      | some _ => none

/-- Change the entries that the path of a header leads to. -/
def descend (change : Entries → Option Entries) : List String → Entries → Option Entries
  | [], es => change es
  | step :: path, es =>
      match es.lookup step with
      | none => (descend change path []).map fun sub => es ++ [(step, .table .implied sub)]
      | some (.table .closed _) => none
      | some (.table form sub) =>
          (descend change path sub).map fun sub => es.replace step (.table form sub)
      | some (.tables elements) =>
          (updateLast (descend change path) elements).map fun elements =>
            es.replace step (.tables elements)
      | some _ => none

/-- Give several keys their values, in order. -/
def insertAll (pairs : List (List String × String × Value)) (es : Entries) : Option Entries :=
  pairs.foldlM (fun es (path, key, v) => insert key v path es) es

/-- Define the table under a header. -/
def define (key : String) (pairs : List (List String × String × Value)) (es : Entries) :
    Option Entries :=
  match es.lookup key with
  | none => (insertAll pairs []).map fun sub => es ++ [(key, .table .defined sub)]
  | some (.table .implied sub) =>
      (insertAll pairs sub).map fun sub => es.replace key (.table .defined sub)
  | some _ => none

/-- Add a table under a repeated header. -/
def extend (key : String) (pairs : List (List String × String × Value)) (es : Entries) :
    Option Entries :=
  match es.lookup key with
  | none => (insertAll pairs []).map fun sub => es ++ [(key, .tables [sub])]
  | some (.tables elements) =>
      (insertAll pairs []).map fun sub => es.replace key (.tables (elements ++ [sub]))
  | some _ => none

end ScratchArena.Toml.Entries
