import ScratchArena.Config.Text

/-! # Descriptions — what a text says of a configuration

    What a text describes is a matter of the library it is read with, and
    of the fields that are asked for: each of them says what its value is
    read as, or what holds where there is none.  A text that describes a
    configuration is read as that one unless its settings cannot work, and
    nothing else is read as anything. -/

namespace ScratchArena

open Toml

theorem bind_eq_ok {α β : Type} {x : Except String α} {f : α → Except String β} {b : β} :
    (x >>= f) = .ok b ↔ ∃ a, x = .ok a ∧ f a = .ok b := by
  constructor
  · intro h
    cases x with
    | error e => exact nomatch h
    | ok a => exact ⟨a, rfl, h⟩
  · rintro ⟨a, rfl, h⟩
    exact h

/-! ## Fields -/

namespace Toml.Library

variable {lib : Library} {α : Type}

/-- What a field of a structure says: what its value is read as, or what
    holds where there is none. -/
inductive Says (fields : lib.Fields) (R : lib.Value → α → Prop) (i : Nat) (name : String)
    (missing : α) : α → Prop where
  | given {v : lib.Value} {a : α} (there : fields i name = some v) (reads : R v a) :
      Says fields R i name missing a
  | missing (nothing : fields i name = none) : Says fields R i name missing missing

/-- A field is read as what it says. -/
theorem field_eq_ok {fields : lib.Fields} {read : lib.Value → Except String α} {i : Nat}
    {name : String} {missing a : α} :
    lib.field fields read i name missing = .ok a
      ↔ Says fields (fun v a => read v = .ok a) i name missing a := by
  rw [field]
  constructor
  · intro h
    split at h
    · rename_i v hv
      exact .given hv h
    · rename_i hnothing
      obtain rfl := Except.ok.inj h
      exact .missing hnothing
  · intro h
    cases h with
    | given there reads => rw [there]; exact reads
    | missing nothing => rw [nothing]

/-- A field that is shown to hold an item says what the item is. -/
theorem Says.of_some {β : Type} {fields : lib.Fields} {R : lib.Value → α → Prop}
    {R' : lib.Value → β → Prop} {i : Nat} {name : String} {missing a : α} {x : β}
    (h : Option.Rel R' (fields i name) (some x)) (hR : ∀ v, R' v x → R v a) :
    Says fields R i name missing a := by
  generalize hfield : fields i name = field at h
  cases h with
  | some reads => exact .given hfield (hR _ reads)

/-- A field that is shown to hold nothing says what holds without it. -/
theorem Says.of_none {β : Type} {fields : lib.Fields} {R : lib.Value → α → Prop}
    {R' : lib.Value → β → Prop} {i : Nat} {name : String} {missing : α}
    (h : Option.Rel R' (fields i name) none) : Says fields R i name missing missing := by
  generalize hfield : fields i name = field at h
  cases h with
  | none => exact .missing hfield

end Toml.Library

/-! ## Structures -/

variable {b : Build}

/-- What the fields of a section say of an arena. -/
structure Settings.DescribedBy (fields : b.toml.Fields) (s : Settings) : Prop where
  reserve : Library.Says fields (fun v n => b.toml.size v = .ok n) 0 "reserve" 0 s.reserve
  spare : Library.Says fields (fun v n => b.toml.size v = .ok n) 1 "spare" 64 s.spare
  maxSize : Library.Says fields (fun v n => b.toml.size v = .ok n) 2 "max_size" (Nat.pow 2 64 - 1)
    s.maxSize
  poison : Library.Says fields (fun v t => b.toml.truth v = .ok t) 3 "poison" b.assertions
    s.poison

/-- What the fields of a section say of the log. -/
structure LogSettings.DescribedBy (fields : b.toml.Fields) (s : LogSettings) : Prop where
  level : Library.Says fields (fun v t => ∃ text, b.toml.text v = .ok text ∧ some text = t)
    0 "level" none s.level
  file : Library.Says fields (fun v t => ∃ text, b.toml.text v = .ok text ∧ some text = t)
    1 "file" none s.file
  json : Library.Says fields (fun v t => b.toml.truth v = .ok t) 2 "json" false s.json
  spans : Library.Says fields (fun v t => b.toml.truth v = .ok t) 3 "spans" false s.spans

namespace Config

/-- What the fields of a whole text say: two sections, each with defaults
    of its own where it is missing. -/
structure DescribedBy (fields : b.toml.Fields) (c : Config) : Prop where
  arena : Library.Says fields (fun v s => ∃ fs, b.toml.fields v = .ok fs ∧ s.DescribedBy fs)
    0 "arena" ⟨0, 64, Nat.pow 2 64 - 1, b.assertions⟩ c.arena
  log : Library.Says fields (fun v s => ∃ fs, b.toml.fields v = .ok fs ∧ s.DescribedBy fs)
    1 "log" ⟨none, none, false, false⟩ c.log

/-- A text describes a configuration, which may not work. -/
def Describes (b : Build) (text : String) (c : Config) : Prop :=
  ∃ root fields, b.toml.parse text = .ok root ∧ b.toml.fields root = .ok fields
    ∧ c.DescribedBy fields

end Config

/-- Arena settings are read from the fields that describe them. -/
theorem Settings.ofFields_eq_ok {fields : b.toml.Fields} {s : Settings} :
    ofFields b fields = .ok s ↔ s.DescribedBy fields := by
  simp only [ofFields, bind_eq_ok, Library.field_eq_ok]
  constructor
  · rintro ⟨reserve, hreserve, spare, hspare, maxSize, hmaxSize, poison, hpoison, hs⟩
    obtain rfl := Except.ok.inj hs
    exact ⟨hreserve, hspare, hmaxSize, hpoison⟩
  · intro h
    exact ⟨_, h.reserve, _, h.spare, _, h.maxSize, _, h.poison, rfl⟩

/-- Log settings are read from the fields that describe them. -/
theorem LogSettings.ofFields_eq_ok {fields : b.toml.Fields} {s : LogSettings} :
    ofFields b fields = .ok s ↔ s.DescribedBy fields := by
  simp only [ofFields, bind_eq_ok, Library.field_eq_ok, pure, Except.pure, Except.ok.injEq]
  constructor
  · rintro ⟨level, hlevel, file, hfile, json, hjson, spans, hspans, rfl⟩
    exact ⟨hlevel, hfile, hjson, hspans⟩
  · intro h
    exact ⟨_, h.level, _, h.file, _, h.json, _, h.spans, rfl⟩

namespace Config

/-- A configuration is read from the fields that describe it. -/
theorem ofFields_eq_ok {fields : b.toml.Fields} {c : Config} :
    ofFields b fields = .ok c ↔ c.DescribedBy fields := by
  simp only [ofFields, bind_eq_ok, Library.field_eq_ok, Settings.ofFields_eq_ok,
    LogSettings.ofFields_eq_ok]
  constructor
  · rintro ⟨arena, harena, log, hlog, hc⟩
    obtain rfl := Except.ok.inj hc
    exact ⟨harena, hlog⟩
  · intro h
    exact ⟨_, h.arena, _, h.log, rfl⟩

/-- A text is decoded into what it describes. -/
theorem decode_eq_ok {text : String} {c : Config} :
    decode b text = .ok c ↔ Describes b text c := by
  simp only [decode, bind_eq_ok, ofFields_eq_ok]
  constructor
  · rintro ⟨root, hroot, fields, hfields, hc⟩
    exact ⟨root, fields, hroot, hfields, hc⟩
  · rintro ⟨root, fields, hroot, hfields, hc⟩
    exact ⟨root, hroot, fields, hfields, hc⟩

/-- A text describes one configuration at most. -/
theorem Describes.unique {text : String} {c c' : Config} (h : Describes b text c)
    (h' : Describes b text c') : c = c' :=
  Except.ok.inj ((decode_eq_ok.mpr h).symm.trans (decode_eq_ok.mpr h'))

/-! ## Reading a text -/

/-- A text describes nothing, or is read as what it describes unless the
    settings cannot work. -/
theorem parse_cases (b : Build) (text : String) :
    ((∀ c, ¬ Describes b text c) ∧ ∃ reason, parse b text = .error (.malformed reason))
      ∨ ∃ c, Describes b text c ∧ parse b text = c.arena.validate.map fun _ => c := by
  cases hdecode : decode b text with
  | error reason =>
      refine Or.inl ⟨?_, reason, by simp only [parse, hdecode]⟩
      intro c hdescribes
      exact nomatch hdecode.symm.trans (decode_eq_ok.mpr hdescribes)
  | ok c =>
      refine Or.inr ⟨c, decode_eq_ok.mp hdecode, ?_⟩
      simp only [parse, hdecode]
      cases c.arena.validate with
      | error e => rfl
      | ok _ => rfl

end Config

/-- Settings that can work pass the check. -/
theorem Settings.validate_of_valid {s : Settings} (h : s.Valid) : s.validate = .ok () := by
  simp only [validate, flaw?_eq_none_iff.mpr h]

/-- Settings that cannot work are turned away for their first flaw. -/
theorem Settings.validate_of_flawed {s : Settings} (h : ¬ s.Valid) :
    ∃ flaw, s.flaw? = some flaw ∧ s.validate = .error (.invalid flaw.reason) := by
  cases hflaw : s.flaw? with
  | none => exact absurd (flaw?_eq_none_iff.mp hflaw) h
  | some flaw => exact ⟨flaw, rfl, by simp only [validate, hflaw]⟩

/-- What is said of settings that cannot work: a spare of zero comes first. -/
theorem Settings.reason_of_flaw? {s : Settings} {flaw : Flaw} (h : s.flaw? = some flaw) :
    flaw.reason = if s.spare = 0 then "arena.spare must be greater than zero"
      else "arena.reserve (" ++ toString s.reserve ++ ") exceeds arena.max_size ("
        ++ toString s.maxSize ++ ")" := by
  unfold flaw? at h
  split at h
  · rename_i hspare
    obtain rfl := Option.some.inj h
    exact (if_pos hspare).symm
  · rename_i hspare
    split at h
    · obtain rfl := Option.some.inj h
      exact (if_neg hspare).symm
    · exact nomatch h

end ScratchArena
