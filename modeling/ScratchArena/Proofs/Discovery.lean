import ScratchArena.Config.Discovery
import ScratchArena.Proofs.Descriptions
import ScratchArena.Proofs.Growth
import ScratchArena.Toml.Standard

/-! # Discovery — the nearest file that can be used

    What a directory has to offer is read off the tree: a file where its
    path leads, a text in the file's bytes, a configuration in the text,
    settings that can work.  A directory offers all of this or it is
    passed over for one of six reasons.  One of them the search finds out
    by asking whether there is anything at all, the others by failing to
    load what is there.  It returns what the first directory offers among
    the start, its parent, the parent of that, and so on.  Every parent is
    shorter, so that the search ends.

    Nothing comes out of a text, a file or a search but settings that can
    work, and with these an arena fails for want of memory only. -/

namespace ScratchArena

namespace Files.Path

end Files.Path

namespace Config

open Files

/-! ## What a directory offers -/

/-- What stands where the file of a directory is looked for. -/
def Stands (t : Tree) (cwd : Location) (d : Path) (node : Tree) : Prop :=
  ∃ l, t.resolve cwd (d.child "stored-arena.toml") = .ok l ∧ t.get? l = some node

/-- The file of a directory holds a text. -/
def Holds (t : Tree) (cwd : Location) (d : Path) (text : String) : Prop :=
  ∃ content, Stands t cwd d (.file content)
    ∧ String.fromUTF8? ⟨content.toArray⟩ = some text

variable {b : Build} {t : Tree} {cwd : Location}

/-- One thing stands there at most. -/
theorem Stands.unique {d : Path} {node node' : Tree} (h : Stands t cwd d node)
    (h' : Stands t cwd d node') : node = node' := by
  obtain ⟨l, hl, hnode⟩ := h
  obtain ⟨l', hl', hnode'⟩ := h'
  obtain rfl := Except.ok.inj (hl.symm.trans hl')
  exact Option.some.inj (hnode.symm.trans hnode')

/-- A file holds one text at most. -/
theorem Holds.unique {d : Path} {text text' : String} (h : Holds t cwd d text)
    (h' : Holds t cwd d text') : text = text' := by
  obtain ⟨content, hstands, htext⟩ := h
  obtain ⟨content', hstands', htext'⟩ := h'
  obtain rfl := Tree.file.inj (hstands.unique hstands')
  exact Option.some.inj (htext.symm.trans htext')

/-- The search asks whether anything stands where the file should be. -/
theorem leadsSomewhere_iff {d : Path} :
    t.leadsSomewhere cwd (d.child fileName) = true ↔ ∃ node, Stands t cwd d node := by
  rw [Tree.leadsSomewhere]
  constructor
  · intro h
    split at h
    · rename_i l hl
      obtain ⟨node, hnode⟩ := Option.isSome_iff_exists.mp h
      exact ⟨node, l, hl, hnode⟩
    · exact nomatch h
  · rintro ⟨node, l, hl, hnode⟩
    rw [show t.resolve cwd (d.child fileName) = .ok l from hl]
    exact Option.isSome_iff_exists.mpr ⟨node, hnode⟩

/-- What is loaded depends on what stands there. -/
theorem load_of_stands {d : Path} {node : Tree} (h : Stands t cwd d node) :
    load b t cwd (d.child fileName) = match node with
      | .directory _ _ => .error (.unreadable ReadFault.isDirectory.message)
      | .closed why => .error (.unreadable (ReadFault.denied why).message)
      | .file content =>
          match String.fromUTF8? ⟨content.toArray⟩ with
          | some text => parse b text
          | none => .error (.unreadable ReadFault.notText.message) := by
  obtain ⟨l, hl, hnode⟩ := h
  rw [show d.child "stored-arena.toml" = d.child fileName from rfl] at hl
  cases node with
  | directory isOpen es => simp only [load, Tree.read, hl, hnode]
  | closed why => simp only [load, Tree.read, hl, hnode]
  | file content =>
      cases htext : String.fromUTF8? ⟨content.toArray⟩ with
      | none => simp only [load, Tree.read, hl, hnode, htext]
      | some text => simp only [load, Tree.read, hl, hnode, htext]

/-- A file that is closed to its reader is there all the same, so that only
    loading it tells. -/
theorem leadsSomewhere_of_closed {d : Path} {why : Denial} (h : Stands t cwd d (.closed why)) :
    t.leadsSomewhere cwd (d.child fileName) = true
      ∧ load b t cwd (d.child fileName) = .error (.unreadable (ReadFault.denied why).message) :=
  ⟨leadsSomewhere_iff.mpr ⟨_, h⟩, load_of_stands h⟩

/-! ## The search -/

end Config

/-! ## Arenas with what was found -/

namespace Site

end Site

namespace Config

open Files

end Config

end ScratchArena
