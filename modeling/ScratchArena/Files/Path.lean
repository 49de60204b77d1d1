import ScratchArena.Text.Bytes

/-! # Paths — taken apart, without looking at files

    A path is a list of steps, from the root or from where one stands: the
    pieces between its slashes.  No piece is lost, so the text of a path
    can be put together again.  A piece without characters leads nowhere,
    but only a directory can be followed by one.  The parent of a path is
    a matter of its text: pieces that lead nowhere do not count, except a
    dot that a relative path begins with. -/

namespace ScratchArena.Files

/-- One piece of a path. -/
inductive PathStep where
  /-- Stay where you are: nothing between two slashes, or after the last. -/
  | gap
  /-- Stay where you are: a dot. -/
  | here
  /-- Go to the parent directory. -/
  | up
  /-- Go to an entry. -/
  | into (name : String)
deriving DecidableEq, Repr

namespace PathStep

/-- The step leads nowhere. -/
def isIdle : PathStep → Bool
  | .gap => true
  | .here => true
  | _ => false

/-- The piece of text a step stands for. -/
def text : PathStep → String
  | .gap => ""
  | .here => "."
  | .up => ".."
  | .into name => name

/-- The step a piece of text stands for. -/
def ofPiece (piece : List Char) : PathStep :=
  if piece = [] then .gap
  else if piece = ['.'] then .here
  else if piece = ['.', '.'] then .up
  else .into (String.ofList piece)

end PathStep

/-- A path: from the root or from where one stands. -/
structure Path where
  absolute : Bool
  steps : List PathStep
deriving DecidableEq, Repr

namespace Path

/-- The pieces of a text between slashes, `piece` read so far. -/
def pieces (piece : List Char) : List Char → List (List Char)
  | [] => [piece.reverse]
  | c :: rest => if c = '/' then piece.reverse :: pieces [] rest else pieces (c :: piece) rest

/-- The steps of a text; none in an empty one. -/
def stepsOf : List Char → List PathStep
  | [] => []
  | cs => (pieces [] cs).map PathStep.ofPiece

/-- The path that a text spells. -/
def ofString (text : String) : Path :=
  match text.toList with
  | '/' :: rest => ⟨true, stepsOf rest⟩
  | cs => ⟨false, stepsOf cs⟩

/-- The text of a path. -/
def text (p : Path) : String :=
  (if p.absolute then "/" else "") ++ "/".intercalate (p.steps.map PathStep.text)

/-- A relative path that goes nowhere. -/
def empty : Path := ⟨false, []⟩

/-- The steps of a path without a slash at its end. -/
def stem (p : Path) : List PathStep :=
  match p.steps.getLast? with
  | some .gap => p.steps.dropLast
  | _ => p.steps

/-- A path followed by another; an absolute one starts afresh, and an
    empty one adds a slash. -/
def join (p q : Path) : Path :=
  if q.absolute then q
  else if q.steps = [] then ⟨p.absolute, if p.stem = [] then [] else p.stem ++ [.gap]⟩
  else ⟨p.absolute, p.stem ++ q.steps⟩

/-- The path of an entry in a directory. -/
def child (p : Path) (name : String) : Path := ⟨p.absolute, p.stem ++ [.into name]⟩

/-- The steps without those at the end that lead nowhere. -/
def dropIdle (steps : List PathStep) : List PathStep :=
  (steps.reverse.dropWhile PathStep.isIdle).reverse

/-- The steps that count: a path ends with one that leads somewhere. -/
def counted (p : Path) : List PathStep :=
  match p.absolute, p.steps with
  | false, .here :: rest => .here :: dropIdle rest
  | _, steps => dropIdle steps

/-- The path without its last step that counts; the root and the empty
    path have no parent. -/
def parent? (p : Path) : Option Path :=
  match p.counted with
  | [] => none
  | first :: rest => some ⟨p.absolute, (Path.mk p.absolute (first :: rest).dropLast).counted⟩

/-- The name a path ends with. -/
def fileName? (p : Path) : Option String :=
  match p.counted.getLast? with
  | some (.into name) => some name
  | _ => none

/-- Dropping steps never makes more of them. -/
theorem dropIdle_length_le (steps : List PathStep) : (dropIdle steps).length ≤ steps.length := by
  unfold dropIdle
  rw [List.length_reverse]
  exact Nat.le_trans (List.dropWhile_sublist _).length_le (Nat.le_of_eq List.length_reverse)

/-- No more steps count than there are. -/
theorem counted_length_le (p : Path) : p.counted.length ≤ p.steps.length := by
  unfold counted
  split
  · rename_i rest _ h
    rw [h]
    exact Nat.succ_le_succ (dropIdle_length_le rest)
  · exact dropIdle_length_le _

/-- A parent has fewer steps, so that climbing ends. -/
theorem length_lt_of_parent? {p q : Path} (h : p.parent? = some q) :
    q.steps.length < p.steps.length := by
  unfold parent? at h
  split at h
  · exact nomatch h
  · rename_i first rest hcounted
    obtain rfl := Option.some.inj h
    have hle := p.counted_length_le
    have hlt := (Path.mk p.absolute (first :: rest).dropLast).counted_length_le
    rw [hcounted] at hle
    simp only [List.length_dropLast, List.length_cons] at hle hlt ⊢
    omega

/-- The path and its parents, nearest first. -/
def chain (p : Path) : List Path :=
  match _parent : p.parent? with
  | none => [p]
  | some q => p :: q.chain
termination_by p.steps.length
decreasing_by exact length_lt_of_parent? _parent

end Path

end ScratchArena.Files
