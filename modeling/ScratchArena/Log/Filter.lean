import ScratchArena.Log.Event
import ScratchArena.Regex.Support
import ScratchArena.Text.Bytes

/-! # Log filters — directives that say what is logged

    A filter is a list of directives separated by commas.  A directive is
    a level, a target, or a target with a level after an equals sign; it
    may also name a span and a field in brackets.  For each record the
    most specific directive that cares about it decides: the one with the
    longest target, then the one with the most fields.  No record here is
    logged inside a span, so a directive that asks for a span, or for the
    value of a field, admits nothing.

    Blanks around a directive are left out when its parts are looked for,
    but their positions are then counted in bytes from the start of the
    directive with its blanks.  So blanks in front shift every part, and
    an edge that comes to lie inside a character breaks the reading off. -/

namespace ScratchArena

open Text

namespace Filter

/-- What keeps a text from being a filter. -/
inductive Fault where
  /-- A directive is not well formed. -/
  | malformed
  /-- The edge of a part lies inside a character. -/
  | splitCharacter
deriving DecidableEq, Repr

/-- Which records of a target, a span and fields pass. -/
structure Directive where
  target : Option String := none
  span : Option String := none
  /-- Field names, with a value if one is asked for. -/
  fields : List (String × Option String) := []
  /-- Rank of the least severe level that passes; zero lets none pass. -/
  verbosity : Nat := Level.trace.rank
deriving DecidableEq, Repr

/-! ## Levels -/

/-- The verbosity with this name in any case, or number. -/
def verbosity? (name : List Char) : Option Nat :=
  let digits := match name with
    | '+' :: rest => rest
    | rest => rest
  if digits ≠ [] ∧ digits.all Char.isDigit then
    (some (digits.foldl (fun n c => n * 10 + (c.toNat - '0'.toNat)) 0)).filter (· ≤ 5)
  else
    match String.ofList (name.map Char.toLower) with
    | "off" => some 0
    | "error" => some 1
    | "warn" => some 2
    | "info" => some 3
    | "debug" => some 4
    | "trace" => some 5
    | _ => none

/-- The level a directive ends with; nothing lets all pass. -/
def levelOf (d : Directive) (name : List Char) : Except Fault Directive :=
  match name with
  | [] => .ok d
  | name =>
      match verbosity? name with
      | some v => .ok { d with verbosity := v }
      | none => .error .malformed

/-! ## Fields -/

/-- The characters spell infinity or no number, in any case. -/
def isSpecialNumber (cs : List Char) : Bool :=
  String.ofList (cs.map Char.toLower) ∈ ["inf", "infinity", "nan"]

/-- The characters without a sign in front. -/
def dropSign : List Char → List Char
  | '+' :: rest => rest
  | '-' :: rest => rest
  | cs => cs

/-- The characters spell an exponent, or there are none. -/
def isExponent : List Char → Bool
  | [] => true
  | c :: rest =>
      (c == 'e' || c == 'E') && !(dropSign rest).isEmpty && (dropSign rest).all Char.isDigit

/-- The characters spell a number: digits on at least one side of a point
    or without one, then perhaps an exponent. -/
def isNumber (cs : List Char) : Bool :=
  let body := dropSign cs
  let whole := body.takeWhile Char.isDigit
  isSpecialNumber body ||
    match body.dropWhile Char.isDigit with
    | '.' :: rest =>
        !(whole ++ rest.takeWhile Char.isDigit).isEmpty && isExponent (rest.dropWhile Char.isDigit)
    | rest => !whole.isEmpty && isExponent rest

/-- A value to ask for: a number or a regular expression.  Truth values
    are expressions, too. -/
def isValue (cs : List Char) : Bool := isNumber cs || Regex.isUsable cs

/-- A field name, with a value after an equals sign. -/
def fieldOf (text : List Char) : Except Fault (String × Option String) :=
  if text = [] then .error .malformed
  else
    let name := text.takeWhile (· ≠ '=')
    match text.dropWhile (· ≠ '=') with
    | [] => .ok (String.ofList name, none)
    | _ :: rest =>
        let value := rest.takeWhile (· ≠ '=')
        if isValue value then .ok (String.ofList name, some (String.ofList value))
        else .error .malformed

/-! ## Directives -/

/-- A directive without a span may begin with the character. -/
def beginsTarget (c : Char) : Bool :=
  c == '-' || c == ':' || c == '_' || isLetterOrNumber c

/-- The part of a directive between two positions. -/
def part (text : List Char) (first last : Nat) : Except Fault (List Char) :=
  match cut? first last text with
  | some cs => .ok cs
  | none => .error .splitCharacter

/-- The rest of a directive with a level from `position` on. -/
def atLevel (text : List Char) (d : Directive) (position : Nat) : Except Fault Directive := do
  let name ← part text position (byteLength text)
  levelOf d name

/-- The rest of a directive after its closing bracket: nothing, or an
    equals sign and a level. -/
def afterBracket (text : List Char) (d : Directive) (position : Nat) :
    List Char → Except Fault Directive
  | [] => .ok d
  | '=' :: _ => atLevel text d (position + 1)
  | _ => .error .malformed

/-- The field of a directive, after its opening brace at `position`. -/
def atField (text : List Char) (d : Directive) (position : Nat) (cs : List Char) :
    Except Fault Directive := do
  let last := position + byteLength (cs.takeWhile (· ≠ '\x7d'))
  match cs.dropWhile (· ≠ '\x7d') with
  | [] => .error .malformed
  | _ :: rest =>
      let field ← fieldOf (← part text position last)
      match rest with
      | ']' :: rest => afterBracket text { d with fields := [field] } (last + 2) rest
      | _ => .error .malformed

/-- The span of a directive, after its opening bracket at `position`. -/
def atSpan (text : List Char) (d : Directive) (position : Nat) (cs : List Char) :
    Except Fault Directive := do
  let ends (c : Char) : Bool := c == ']' || c == '\x7b'
  let last := position + byteLength (cs.takeWhile (!ends ·))
  match cs.dropWhile (!ends ·) with
  | [] => .error .malformed
  | c :: rest =>
      let name ← part text position last
      if c = ']' then
        afterBracket text { d with span := some (String.ofList name) } (last + 1) rest
      else
        let span := if name = [] then none else some (String.ofList name)
        atField text { d with span } (last + 1) rest

/-- The directive a text describes. -/
def directive (text : List Char) : Except Fault Directive := do
  let ends (c : Char) : Bool := c == '=' || c == '\x5b'
  let body := trimBlanks text
  match body with
  | [] => .error .malformed
  | '[' :: rest => atSpan text {} 1 rest
  | c :: _ =>
      if !beginsTarget c then .error .malformed
      else
        let last := byteLength (body.takeWhile (!ends ·))
        match body.dropWhile (!ends ·) with
        | [] =>
            match verbosity? text with
            | some v => .ok { verbosity := v }
            | none => .ok { target := some (String.ofList text) }
        | c :: rest =>
            let target := some (String.ofList (← part text 0 last))
            if c = '=' then atLevel text { target } (last + 1)
            else atSpan text { target } (last + 1) rest

end Filter

/-- Directives, the most specific of which decides about a record. -/
structure Filter where
  directives : List Filter.Directive
deriving DecidableEq, Repr

namespace Filter

/-- The parts of a text between commas, `part` read so far and backwards. -/
def splitCommas (part : List Char) : List Char → List (List Char)
  | [] => [part.reverse]
  | c :: rest =>
      if c = ',' then part.reverse :: splitCommas [] rest else splitCommas (c :: part) rest

/-- The filter a text describes; empty directives do not count, and the
    first faulty one decides what is wrong. -/
def parse (text : String) : Except Fault Filter :=
  (((splitCommas [] text.toList).filter (· ≠ [])).mapM directive).map Filter.mk

/-- The filter that lets a target pass down to a level. -/
def upTo (target : String) (level : Level) : Filter :=
  ⟨[{ target := some target, verbosity := level.rank }]⟩

/-- The directive decides about a record of this arena: it has no span, no
    value, and what it names is there. -/
def Directive.caresAbout (d : Directive) (r : Record) : Bool :=
  d.span.isNone && d.fields.all (·.2.isNone)
    && (d.target.all fun t => t.toList.isPrefixOf r.target.toList)
    && d.fields.all fun (name, _) => name == "message" || (r.fields.lookup name).isSome

/-- Length of the target of a directive, one more than that of none. -/
def Directive.targetLength (d : Directive) : Nat :=
  (d.target.map fun t => t.utf8ByteSize + 1).getD 0

/-- The names of a directive's fields, as code points. -/
def Directive.names (d : Directive) : List (List Nat) :=
  d.fields.map fun (name, _) => name.toList.map Char.toNat

/-- `d` is no more specific than `e`. -/
def Directive.le (d e : Directive) : Bool :=
  d.targetLength < e.targetLength ||
    (d.targetLength == e.targetLength &&
      (d.fields.length < e.fields.length ||
        (d.fields.length == e.fields.length
          && !e.names.lex d.names fun s t => s.lex t fun a b => a < b)))

/-- The directive that decides about a record: the most specific one, and
    of equals the last. -/
def deciding? (f : Filter) (r : Record) : Option Directive :=
  (f.directives.filter (·.caresAbout r)).foldl
    (fun best d =>
      match best with
      | none => some d
      | some e => if e.le d then some d else some e)
    none

/-- The record passes. -/
def allows (f : Filter) (r : Record) : Bool :=
  match f.deciding? r with
  | some d => r.level.rank ≤ d.verbosity
  | none => false

end Filter

end ScratchArena
