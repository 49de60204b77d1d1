import Mathlib
import ScratchArena.Proofs.Descriptions
import ScratchArena.Proofs.Documents

/-! # Round trip — a configuration is written and read back

    A configuration is written as two sections, whose keys are known, so
    that a library that keeps its word shows each field under the key it
    was written under, and no field for a text that is missing.  What is
    read is what was written; only then are the settings checked.

    Numbers are written up to the largest of sixty-four bits with a sign,
    and nothing else about a configuration stands in the way. -/

namespace ScratchArena

open Toml

variable {b : Build}

/-! ## Sections -/

/-- Keys among known ones are fit to be written. -/
theorem Toml.keyed_of_sublist {α : Type} (known : List String) {items : List (String × α)}
    (hbare : ∀ k ∈ known, Bare k) (hknown : known.Nodup)
    (h : (items.map Prod.fst).Sublist known) : Keyed items where
  bare := fun i hi => hbare i.1 (h.subset (List.mem_map_of_mem hi))
  distinct := hknown.sublist h

namespace Settings

/-- The keys of arena settings are plain. -/
theorem keyed_toSection (s : Settings) : Keyed s.toSection :=
  keyed_of_sublist ["reserve", "spare", "max_size", "poison"] (by decide) (by decide)
    (List.Sublist.refl _)

/-- Fields that show the section of some arena settings describe them. -/
theorem describedBy_of_shows {s : Settings} {fields : b.toml.Fields}
    (h : b.toml.Shows b.toml.Reads fields s.toSection) : s.DescribedBy fields where
  reserve := .of_some (x := Simple.integer s.reserve) (h 0 "reserve") fun _ hv => hv
  spare := .of_some (x := Simple.integer s.spare) (h 1 "spare") fun _ hv => hv
  maxSize := .of_some (x := Simple.integer s.maxSize) (h 2 "max_size") fun _ hv => hv
  poison := .of_some (x := Simple.truth s.poison) (h 3 "poison") fun _ hv => hv

/-- The numbers of arena settings are in range. -/
theorem toSection_inRange_iff {s : Settings} :
    (∀ key n, (key, Simple.integer n) ∈ s.toSection → n ≤ Nat.pow 2 63 - 1)
      ↔ s.reserve ≤ 2 ^ 63 - 1 ∧ s.spare ≤ 2 ^ 63 - 1 ∧ s.maxSize ≤ 2 ^ 63 - 1 := by
  simp only [toSection, List.mem_cons, List.not_mem_nil, Prod.mk.injEq, Simple.integer.injEq]
  constructor
  · intro h
    exact ⟨h "reserve" _ (by simp), h "spare" _ (by simp), h "max_size" _ (by simp)⟩
  · rintro ⟨hreserve, hspare, hmaxSize⟩ key n
      (⟨-, rfl⟩ | ⟨-, rfl⟩ | ⟨-, rfl⟩ | ⟨-, htruth⟩ | hnone)
    · exact hreserve
    · exact hspare
    · exact hmaxSize
    · exact nomatch htruth
    · exact hnone.elim

end Settings

namespace LogSettings

/-- The keys of log settings are plain, whichever of them are there. -/
theorem keyed_toSection (s : LogSettings) : Keyed s.toSection := by
  obtain ⟨level, file, json, spans⟩ := s
  have hfile : ((file.map fun file => ("file", Simple.text file)).toList.map Prod.fst).Sublist
      ["file"] := by
    cases file with
    | none => exact List.nil_sublist _
    | some file => exact List.Sublist.refl _
  have hlevel : ((level.map fun level => ("level", Simple.text level)).toList.map Prod.fst).Sublist
      ["level"] := by
    cases level with
    | none => exact List.nil_sublist _
    | some level => exact List.Sublist.refl _
  refine keyed_of_sublist ["level", "file", "json", "spans"] (by decide) (by decide) ?_
  rw [toSection, List.map_append, List.map_append]
  exact (hlevel.append hfile).append (List.Sublist.refl _)

/-- A field for a text that may be missing. -/
theorem says_text {fields : b.toml.Fields} {i : Nat} {name : String} {text : Option String}
    (h : Option.Rel b.toml.Reads (fields i name) (text.map Simple.text)) :
    Library.Says fields (fun v t => ∃ text, b.toml.text v = .ok text ∧ some text = t) i name none
      text := by
  cases text with
  | none => exact .of_none h
  | some text => exact .of_some h fun v hv => ⟨text, hv, rfl⟩

/-- What stands under the keys of log settings. -/
theorem lookup_toSection (s : LogSettings) :
    s.toSection.lookup "level" = s.level.map Simple.text
      ∧ s.toSection.lookup "file" = s.file.map Simple.text
      ∧ s.toSection.lookup "json" = some (.truth s.json)
      ∧ s.toSection.lookup "spans" = some (.truth s.spans) := by
  obtain ⟨level, file, json, spans⟩ := s
  cases level with
  | none =>
      cases file with
      | none => exact ⟨rfl, rfl, rfl, rfl⟩
      | some file => exact ⟨rfl, rfl, rfl, rfl⟩
  | some level =>
      cases file with
      | none => exact ⟨rfl, rfl, rfl, rfl⟩
      | some file => exact ⟨rfl, rfl, rfl, rfl⟩

/-- Fields that show the section of some log settings describe them. -/
theorem describedBy_of_shows {s : LogSettings} {fields : b.toml.Fields}
    (h : b.toml.Shows b.toml.Reads fields s.toSection) : s.DescribedBy fields := by
  obtain ⟨hlevel, hfile, hjson, hspans⟩ := s.lookup_toSection
  exact {
    level := says_text (hlevel ▸ h 0 "level")
    file := says_text (hfile ▸ h 1 "file")
    json := .of_some (x := Simple.truth s.json) (hjson ▸ h 2 "json") fun _ hv => hv
    spans := .of_some (x := Simple.truth s.spans) (hspans ▸ h 3 "spans") fun _ hv => hv }

/-- Log settings have no numbers. -/
theorem integer_notMem_toSection {s : LogSettings} {key : String} {n : Nat} :
    (key, Simple.integer n) ∉ s.toSection := by
  simp [toSection]

end LogSettings

namespace Config

/-- The sections of a configuration. -/
theorem plain_sections (c : Config) :
    Sections.Plain [("arena", c.arena.toSection), ("log", c.log.toSection)] where
  headers := keyed_of_sublist ["arena", "log"] (by decide) (by decide) (List.Sublist.refl _)
  keys := by
    rw [List.forall_mem_cons, List.forall_mem_singleton]
    exact ⟨c.arena.keyed_toSection, c.log.keyed_toSection⟩

/-- A configuration is written if its numbers are in range. -/
theorem exists_write_iff (lawful : b.toml.Lawful) {c : Config} :
    (∃ text, c.write b.toml = .ok text)
      ↔ c.arena.reserve ≤ 2 ^ 63 - 1 ∧ c.arena.spare ≤ 2 ^ 63 - 1
        ∧ c.arena.maxSize ≤ 2 ^ 63 - 1 := by
  rw [write, lawful.writes _ c.plain_sections, List.forall_mem_cons, List.forall_mem_singleton,
    Settings.toSection_inRange_iff]
  exact and_iff_left fun _ _ h => absurd h LogSettings.integer_notMem_toSection

/-- What is written describes the configuration, whether it can work or not. -/
theorem describes_of_write (lawful : b.toml.Lawful) {c : Config} {text : String}
    (h : c.write b.toml = .ok text) : Describes b text c := by
  obtain ⟨root, fields, hparse, hfields, hshows⟩ := lawful.reads _ text c.plain_sections h
  refine ⟨root, fields, hparse, hfields, ?_, ?_⟩
  · refine .of_some (x := c.arena.toSection) (hshows 0 "arena") ?_
    rintro v ⟨fs, hfs, hshown⟩
    exact ⟨fs, hfs, Settings.describedBy_of_shows hshown⟩
  · refine .of_some (x := c.log.toSection) (hshows 1 "log") ?_
    rintro v ⟨fs, hfs, hshown⟩
    exact ⟨fs, hfs, LogSettings.describedBy_of_shows hshown⟩

/-- Reading back what is written only adds the check of the settings. -/
theorem parse_write (lawful : b.toml.Lawful) {c : Config} {text : String}
    (h : c.write b.toml = .ok text) : parse b text = c.arena.validate.map fun _ => c := by
  have hdescribes := describes_of_write lawful h
  rcases parse_cases b text with ⟨hnothing, -⟩ | ⟨c', hdescribes', hparse⟩
  · exact absurd hdescribes (hnothing c)
  · obtain rfl := hdescribes.unique hdescribes'
    exact hparse

/-- With a library that keeps its word, a configuration is written exactly
    if its numbers fit, whatever its texts hold, and what is written reads
    back as the configuration, or is turned away as its settings are, for a
    spare of zero before anything else. -/
theorem write_round_trips (b : Build) (lawful : b.toml.Lawful) (c : Config) :
    ((∃ text, c.write b.toml = .ok text)
        ↔ c.arena.reserve ≤ 2 ^ 63 - 1 ∧ c.arena.spare ≤ 2 ^ 63 - 1 ∧ c.arena.maxSize ≤ 2 ^ 63 - 1)
      ∧ ∀ text, c.write b.toml = .ok text →
          (c.arena.validate = .ok () → parse b text = .ok c)
            ∧ ∀ e, c.arena.validate = .error e →
                ∃ reason, e = .invalid reason ∧ parse b text = .error (.invalid reason)
                  ∧ reason = if c.arena.spare = 0 then "arena.spare must be greater than zero"
                    else "arena.reserve (" ++ toString c.arena.reserve
                      ++ ") exceeds arena.max_size (" ++ toString c.arena.maxSize ++ ")" := by
  refine ⟨exists_write_iff lawful, ?_⟩
  intro text hwrite
  have hparse := parse_write lawful hwrite
  constructor
  · intro hvalid
    rw [hparse, hvalid]
    rfl
  · intro e hflawed
    have hinvalid : ¬ c.arena.Valid := fun hvalid =>
      nomatch hflawed.symm.trans (Settings.validate_of_valid hvalid)
    obtain ⟨flaw, hfirst, hflaw⟩ := Settings.validate_of_flawed hinvalid
    obtain rfl := Except.error.inj (hflawed.symm.trans hflaw)
    refine ⟨flaw.reason, rfl, ?_, Settings.reason_of_flaw? hfirst⟩
    rw [hparse, hflaw]
    rfl

/-- A level of quotes, a backslash, a line break and a control character
    reads back, settings without a spare are turned away for that although
    they reserve too much besides, and the standard limit is too large to
    be written. -/
theorem write_round_trips_with_escapes :
    let b : Build := ⟨library none, true⟩
    (⟨⟨1, 2, 3, true⟩, ⟨some "a'\"\\\n\x01", some "", false, true⟩⟩ : Config).write b.toml
        = .ok ("[arena]\nreserve = 1\nspare = 2\nmax_size = 3\npoison = true\n\n[log]\n"
          ++ "level = \"\"\"\na'\"\\\\\n\\u0001\"\"\"\nfile = \"\"\njson = false\nspans = true\n")
      ∧ parse b ("[arena]\nreserve = 1\nspare = 2\nmax_size = 3\npoison = true\n\n[log]\n"
          ++ "level = \"\"\"\na'\"\\\\\n\\u0001\"\"\"\nfile = \"\"\njson = false\nspans = true\n")
        = .ok ⟨⟨1, 2, 3, true⟩, ⟨some "a'\"\\\n\x01", some "", false, true⟩⟩
      ∧ (∃ text,
        (⟨⟨4, 0, 3, false⟩, ⟨none, some "'''", false, false⟩⟩ : Config).write b.toml = .ok text
          ∧ parse b text = .error (.invalid "arena.spare must be greater than zero"))
      ∧ ¬ ∃ text, (Config.standard true).write b.toml = .ok text := by
  intro b
  have htrip := write_round_trips b library_lawful
  refine ⟨by decide +kernel, ?_, ?_, ?_⟩
  · exact ((htrip _).2 _ (by decide +kernel)).1 rfl
  · obtain ⟨text, hwrite⟩ :=
      (htrip ⟨⟨4, 0, 3, false⟩, ⟨none, some "'''", false, false⟩⟩).1.mpr (by decide)
    obtain ⟨reason, -, hparse, rfl⟩ := ((htrip _).2 text hwrite).2 _ rfl
    exact ⟨text, hwrite, hparse⟩
  · rw [(htrip (.standard true)).1]
    decide

end Config

end ScratchArena
