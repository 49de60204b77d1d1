import ScratchArena.Toml.Quotation
import ScratchArena.Toml.Writer

/-! # Quotations — what is quoted reads back

    A text is quoted in one of four forms, and each is read back to the
    same text.  In the basic forms every character is escaped or stands for
    itself, and one step of the reader undoes one step of the writer.  Over
    several lines quotes may stand for themselves as well, two in a row at
    most, and the reader cannot tell them from the closing ones before it
    has seen what follows.  So the induction carries the quotes in a row
    that have been written and not yet been read. -/

namespace ScratchArena.Toml.Quotation

/-! ## Characters -/

/-- A written digit is read as its value. -/
theorem hexValue?_hexDigit : ∀ d < 16, Text.hexValue? (hexDigit d) = some d := by decide

theorem charOfCode?_toNat (c : Char) : Text.charOfCode? c.toNat = some c := by
  rw [Text.charOfCode?, if_pos (show c.toNat.isValidChar from c.valid), Char.ofNat_toNat]

/-- A character without need of a code is plain, or it is a line feed. -/
theorem isPlain_or_eq_newline {c : Char} (h : needsCode c = false) :
    isPlain c = true ∨ c = '\n' := by
  by_cases htab : c = '\t'
  · exact Or.inl (by rw [htab]; rfl)
  · by_cases hbreak : c = '\n'
    · exact Or.inr hbreak
    · refine Or.inl ?_
      simp only [needsCode, Bool.and_eq_false_iff, Bool.or_eq_false_iff, decide_eq_false_iff_not,
        beq_eq_false_iff_ne, bne_eq_false_iff_eq, htab, hbreak, or_false] at h
      simp only [isPlain, isCommentChar, Bool.or_eq_true, Bool.and_eq_true, decide_eq_true_eq,
        bne_iff_ne]
      exact Or.inr ⟨Char.not_lt.mp h.1, h.2⟩

/-- A plain character breaks no line. -/
theorem ne_lineBreak_of_isPlain {c : Char} (h : isPlain c = true) : c ≠ '\n' ∧ c ≠ '\r' := by
  constructor
  · rintro rfl
    exact nomatch h
  · rintro rfl
    exact nomatch h

/-- What becomes of a character in a basic quotation. -/
inductive Escaped (c : Char) : Option (List Char) → Prop where
  | letter {x : Char} (reads : escape? x = some (.letter c)) (solid : isBlank x = false)
      (inLine : x ≠ '\n' ∧ x ≠ '\r') : Escaped c (some ['\\', x])
  | code (short : c.toNat < 256) : Escaped c
      (some ['\\', 'u', '0', '0', hexDigit (c.toNat / 16), hexDigit (c.toNat % 16)])
  | itself (plain : isPlain c = true) (quote : c ≠ '"') (slash : c ≠ '\\') : Escaped c none

theorem needsCode_lt {c : Char} (h : needsCode c = true) : c.toNat < 256 := by
  simp only [needsCode, Bool.and_eq_true, Bool.or_eq_true, decide_eq_true_eq, beq_iff_eq] at h
  rcases h.1.1 with hlt | rfl
  · exact Nat.lt_trans (show c.toNat < 32 from hlt) (by decide)
  · decide

/-- Every character becomes something that can be read. -/
theorem escaped_escapeOf? (c : Char) : Escaped c (escapeOf? c) := by
  unfold escapeOf?
  split
  · exact .letter rfl rfl (by decide)
  · exact .letter rfl rfl (by decide)
  · exact .letter rfl rfl (by decide)
  · exact .letter rfl rfl (by decide)
  · exact .letter rfl rfl (by decide)
  · exact .letter rfl rfl (by decide)
  · exact .letter rfl rfl (by decide)
  · rename_i hbreak _ _ hquote hslash
    split
    · rename_i hcode
      exact .code (needsCode_lt hcode)
    · rename_i hcode
      have hplain := (isPlain_or_eq_newline (Bool.eq_false_iff.mpr hcode)).resolve_right hbreak
      exact .itself hplain hquote hslash

/-- A reader of a basic quotation undoes each kind of writing of a
    character. -/
structure Unescapes (read : Reader (List Char)) : Prop where
  letter : ∀ {x c : Char}, escape? x = some (.letter c) → isBlank x = false →
    x ≠ '\n' ∧ x ≠ '\r' → ∀ rest, read ('\\' :: x :: rest) = push c (read rest)
  code : ∀ {h l : Nat} {c : Char}, h < 16 → l < 16 → 16 * h + l = c.toNat → ∀ rest,
    read ('\\' :: 'u' :: '0' :: '0' :: hexDigit h :: hexDigit l :: rest) = push c (read rest)
  itself : ∀ {c : Char}, isPlain c = true → c ≠ '"' → c ≠ '\\' →
    ∀ rest, read (c :: rest) = push c (read rest)

/-- A reader that unescapes reads every character back. -/
theorem Unescapes.escape {read : Reader (List Char)} (h : Unescapes read) (c : Char)
    (rest : List Char) : read ((escapeOf? c).getD [c] ++ rest) = push c (read rest) := by
  have hescaped := escaped_escapeOf? c
  generalize escapeOf? c = escape at hescaped
  cases hescaped with
  | letter reads solid inLine => exact h.letter reads solid inLine rest
  | code short => exact h.code (by omega) (by omega) (by omega) rest
  | itself plain quote slash => exact h.itself plain quote slash rest

/-! ## One line -/

/-- The reader of one line does so. -/
theorem unescapes_basic : Unescapes (basic .plain) where
  letter := by
    intro x c hx _ _ rest
    show basic .escape (x :: rest) = _
    simp only [basic, hx]
  code := by
    intro h l c hh hl hc rest
    have hzero : Text.hexValue? '0' = some 0 := rfl
    have hcode : Text.charOfCode? (16 * h + l) = some c := by rw [hc, charOfCode?_toNat]
    show basic (.code 4 0) _ = _
    simp [basic, hzero, hexValue?_hexDigit h hh, hexValue?_hexDigit l hl, hcode]
  itself := by
    intro c hplain hquote hslash rest
    rw [basic, if_neg hquote, if_neg hslash, if_pos hplain]

/-- A basic quotation on one line reads back. -/
theorem basic_escaped (cs rest : List Char) :
    basic .plain (escaped cs ++ '"' :: rest) = some (cs, rest) := by
  induction cs with
  | nil => rfl
  | cons c cs ih =>
      rw [show escaped (c :: cs) = (escapeOf? c).getD [c] ++ escaped cs from List.flatMap_cons,
        List.append_assoc, unescapes_basic.escape, ih]
      rfl

/-- A literal quotation on one line reads back. -/
theorem literal_plain {cs : List Char} (hplain : ∀ c ∈ cs, isPlain c = true ∧ c ≠ '\'')
    (rest : List Char) : literal (cs ++ '\'' :: rest) = some (cs, rest) := by
  induction cs with
  | nil => rfl
  | cons c cs ih =>
      obtain ⟨hc, hquote⟩ := hplain c List.mem_cons_self
      rw [List.cons_append, literal, if_neg hquote, if_pos hc,
        ih fun d hd => hplain d (List.mem_cons_of_mem _ hd)]
      rfl

/-! ## Several lines -/

/-- A reader of a quotation over several lines takes three quotes for the
    closing ones, and fewer for themselves. -/
structure Closes (q : Char) (read : Reader (List Char)) : Prop where
  close : ∀ rest, read (q :: q :: q :: rest) = some (closing q rest)
  itself : ∀ rest, (∀ more, rest ≠ q :: q :: more) → read (q :: rest) = push q (read rest)

/-- So many quotes in front of what is read. -/
def pushQuotes (q : Char) (n : Nat) (read : Option (List Char × List Char)) :
    Option (List Char × List Char) :=
  read.map fun (cs, rest) => (List.replicate n q ++ cs, rest)

theorem pushQuotes_zero (q : Char) (read : Option (List Char × List Char)) :
    pushQuotes q 0 read = read := by
  cases read with
  | none => rfl
  | some r => rfl

theorem pushQuotes_succ (q : Char) (n : Nat) (read : Option (List Char × List Char)) :
    pushQuotes q (n + 1) read = push q (pushQuotes q n read) := by
  cases read with
  | none => rfl
  | some r => rfl

namespace Closes

variable {q : Char} {read : Reader (List Char)}

/-- One quote or two before another character stand for themselves. -/
theorem quotes (h : Closes q read) {n : Nat} (hn : n ≤ 2) {c : Char} (hc : c ≠ q)
    (rest : List Char) :
    read (List.replicate n q ++ c :: rest) = pushQuotes q n (read (c :: rest)) := by
  induction n with
  | zero => exact (pushQuotes_zero q _).symm
  | succ n ih =>
      rw [pushQuotes_succ, ← ih (by omega), List.replicate_succ, List.cons_append]
      refine h.itself _ ?_
      intro more heq
      match n with
      | 0 => exact hc (List.cons.inj heq).1
      | 1 => exact hc (List.cons.inj (List.cons.inj heq).2).1

/-- Before the closing quotes they belong to the text. -/
theorem quotes_close (h : Closes q read) {n : Nat} (hn : n ≤ 2) (hq : q ≠ '\n')
    (rest : List Char) :
    read (List.replicate n q ++ q :: q :: q :: '\n' :: rest)
      = some (List.replicate n q, '\n' :: rest) := by
  have hne : '\n' ≠ q := fun heq => hq heq.symm
  match n with
  | 0 =>
      refine (h.close _).trans (congrArg some ?_)
      cases rest with
      | nil => exact if_neg hne
      | cons c rest => exact if_neg hne
  | 1 => exact (h.close _).trans (congrArg some (by simp [closing, hne]))
  | 2 => exact (h.close _).trans (congrArg some (by simp [closing]))

end Closes

theorem closes_basicLines : Closes '"' (basicLines .plain) where
  close := fun rest => by rw [basicLines]
  itself := by
    intro rest hrest
    have hplain : isPlain '"' = true := rfl
    simp [basicLines, hrest, hplain]

theorem closes_literalLines : Closes '\'' literalLines where
  close := fun rest => by rw [literalLines]
  itself := by
    intro rest hrest
    have hplain : isPlain '\'' = true := rfl
    simp [literalLines, hrest, hplain]

/-- The reader of several lines unescapes as well. -/
theorem unescapes_basicLines : Unescapes (basicLines .plain) where
  letter := by
    intro x c hx hsolid hbreak rest
    show basicLines .escape (x :: rest) = _
    simp [basicLines, hx, hsolid, hbreak]
  code := by
    intro h l c hh hl hc rest
    have hu : escape? 'u' = some (.code 4) := rfl
    have hsolid : isBlank 'u' = false := rfl
    have hzero : Text.hexValue? '0' = some 0 := rfl
    have hcode : Text.charOfCode? (16 * h + l) = some c := by rw [hc, charOfCode?_toNat]
    show basicLines .escape _ = _
    simp [basicLines, hu, hsolid, hzero, hexValue?_hexDigit h hh, hexValue?_hexDigit l hl, hcode]
  itself := by
    intro c hplain hquote hslash rest
    have hbreak := ne_lineBreak_of_isPlain hplain
    simp [basicLines, hplain, hquote, hslash, hbreak]

/-- What is written for a character starts with neither a quote nor a line
    break. -/
theorem escape_head (c : Char) : ∃ d more, (escapeOf? c).getD [c] = d :: more
    ∧ d ≠ '"' ∧ d ≠ '\n' ∧ d ≠ '\r' := by
  have h := escaped_escapeOf? c
  generalize escapeOf? c = escape at h
  cases h with
  | @letter x reads solid inLine => exact ⟨'\\', [x], rfl, by decide⟩
  | code short => exact ⟨'\\', _, rfl, by decide⟩
  | itself plain quote slash => exact ⟨c, [], rfl, quote, ne_lineBreak_of_isPlain plain⟩

/-- A basic quotation over several lines reads back, with `n` quotes in
    front that have been written but not read. -/
theorem basicLines_escapedLines (cs rest : List Char) {n : Nat} (hn : n ≤ 2) :
    basicLines .plain
        (List.replicate n '"' ++ (escapedLines n cs ++ '"' :: '"' :: '"' :: '\n' :: rest))
      = some (List.replicate n '"' ++ cs, '\n' :: rest) := by
  induction cs generalizing n with
  | nil =>
      rw [List.append_nil]
      exact closes_basicLines.quotes_close hn (by decide) rest
  | cons c cs ih =>
      rw [escapedLines]
      split
      · rename_i hquote
        subst hquote
        split
        · -- The third quote in a row has a backslash in front.
          rename_i hthird
          rw [List.cons_append, closes_basicLines.quotes hn (by decide)]
          exact congrArg (pushQuotes '"' n)
            ((unescapes_basicLines.escape '"' _).trans
              (congrArg (push '"') (ih (n := 0) (by omega))))
        · rename_i hfewer
          have := ih (n := n + 1) (by omega)
          simpa only [List.replicate_succ', List.append_assoc, List.cons_append, List.nil_append]
            using this
      · split
        · rename_i hquote hbreak
          subst hbreak
          rw [List.cons_append, closes_basicLines.quotes hn (by decide)]
          exact congrArg (fun read => pushQuotes '"' n (push '\n' read)) (ih (n := 0) (by omega))
        · obtain ⟨d, more, hd, hquote, -⟩ := escape_head c
          have hread := unescapes_basicLines.escape c
            (escapedLines 0 cs ++ '"' :: '"' :: '"' :: '\n' :: rest)
          rw [hd, List.cons_append] at hread
          rw [hd, List.append_assoc, List.cons_append, closes_basicLines.quotes hn hquote, hread]
          exact congrArg (fun read => pushQuotes '"' n (push c read)) (ih (n := 0) (by omega))

/-- A run of quotes never counts for less than it has so far. -/
theorem le_longestRun (q : Char) (cs : List Char) (n : Nat) : n ≤ longestRun q n cs := by
  induction cs generalizing n with
  | nil => exact Nat.le_refl n
  | cons c cs ih =>
      rw [longestRun]
      split
      · exact Nat.le_trans (Nat.le_succ n) (ih (n + 1))
      · exact Nat.le_max_left _ _

/-- A quote without a run does not occur. -/
theorem not_mem_of_longestRun {q : Char} {cs : List Char} (h : longestRun q 0 cs = 0) : q ∉ cs := by
  induction cs with
  | nil => exact List.not_mem_nil
  | cons c cs ih =>
      rw [longestRun] at h
      split at h
      · have := le_longestRun q cs (0 + 1)
        omega
      · rename_i hc
        rw [Nat.zero_max] at h
        exact List.not_mem_cons_of_ne_of_not_mem (fun heq => hc heq.symm) (ih h)

/-- A literal quotation over several lines reads back, as long as no three
    ticks stand in a row. -/
theorem literalLines_ticks {cs : List Char} (hcodes : ∀ c ∈ cs, needsCode c = false)
    (rest : List Char) {n : Nat} (hrun : longestRun '\'' n cs ≤ 2) :
    literalLines (List.replicate n '\'' ++ (cs ++ '\'' :: '\'' :: '\'' :: '\n' :: rest))
      = some (List.replicate n '\'' ++ cs, '\n' :: rest) := by
  have hn : n ≤ 2 := Nat.le_trans (le_longestRun '\'' cs n) hrun
  induction cs generalizing n with
  | nil =>
      rw [List.append_nil]
      exact closes_literalLines.quotes_close hn (by decide) rest
  | cons c cs ih =>
      have ih' {m : Nat} (hrun : longestRun '\'' m cs ≤ 2) :=
        ih (fun d hd => hcodes d (List.mem_cons_of_mem _ hd)) hrun
          (Nat.le_trans (le_longestRun '\'' cs m) hrun)
      rw [longestRun] at hrun
      split at hrun
      · rename_i htick
        subst htick
        have := ih' hrun
        simpa only [List.replicate_succ', List.append_assoc, List.cons_append, List.nil_append]
          using this
      · rename_i htick
        rw [List.cons_append, closes_literalLines.quotes hn htick]
        have hread : literalLines (c :: (cs ++ '\'' :: '\'' :: '\'' :: '\n' :: rest))
            = push c (literalLines (cs ++ '\'' :: '\'' :: '\'' :: '\n' :: rest)) := by
          rcases isPlain_or_eq_newline (hcodes c List.mem_cons_self) with hplain | rfl
          · have hbreak := ne_lineBreak_of_isPlain hplain
            simp [literalLines, htick, hplain, hbreak]
          · rfl
        rw [hread]
        exact congrArg (fun read => pushQuotes '\'' n (push c read))
          (ih' (m := 0) (Nat.le_trans (Nat.le_max_right _ _) hrun))

/-! ## Any form -/

theorem any_basic {cs : List Char} (h : ∀ more, cs ≠ '"' :: '"' :: more) :
    any ('"' :: cs) = basic .plain cs := by
  simp [any, h, oneLine]

theorem any_literal {cs : List Char} (h : ∀ more, cs ≠ '\'' :: '\'' :: more) :
    any ('\'' :: cs) = literal cs := by
  simp [any, h, oneLine]

theorem skipLineBreak_cons {c : Char} (h : c ≠ '\n' ∧ c ≠ '\r') (cs : List Char) :
    skipLineBreak (c :: cs) = c :: cs := by
  simp [skipLineBreak, lineBreak?, h]

/-- The line break after the opening quotes is skipped, and no other one. -/
theorem skipLineBreak_opening {cs body : List Char}
    (h : '\n' ∉ cs → ∃ c more, body = c :: more ∧ c ≠ '\n' ∧ c ≠ '\r') :
    skipLineBreak (opening cs ++ body) = body := by
  rw [opening]
  split
  · rfl
  · rename_i hbroken
    obtain ⟨c, more, rfl, hc⟩ := h hbroken
    exact skipLineBreak_cons hc more

variable (cs rest : List Char)

/-- The basic form on one line is told apart and read back. -/
theorem any_writeBasic : any (writeBasic cs ++ '\n' :: rest) = some (cs, '\n' :: rest) := by
  rw [writeBasic, List.cons_append, List.cons_append, List.append_assoc, any_basic]
  · exact basic_escaped cs _
  · intro more heq
    cases cs with
    | nil => exact nomatch heq
    | cons c cs =>
        obtain ⟨d, _, hd, hquote, -⟩ := escape_head c
        rw [escaped, List.flatMap_cons, hd] at heq
        exact hquote (List.cons.inj heq).1

/-- So is the literal form on one line. -/
theorem any_writeLiteral {cs : List Char} (hplain : ∀ c ∈ cs, isPlain c = true ∧ c ≠ '\'') :
    any (writeLiteral cs ++ '\n' :: rest) = some (cs, '\n' :: rest) := by
  rw [writeLiteral, List.cons_append, List.cons_append, List.append_assoc, any_literal]
  · exact literal_plain hplain _
  · intro more heq
    cases cs with
    | nil => exact nomatch heq
    | cons c cs => exact (hplain c List.mem_cons_self).2 (List.cons.inj heq).1

/-- So is the basic form over several lines. -/
theorem any_writeBasicLines :
    any (writeBasicLines cs ++ '\n' :: rest) = some (cs, '\n' :: rest) := by
  have hskip :
      skipLineBreak (opening cs ++ (escapedLines 0 cs ++ '"' :: '"' :: '"' :: '\n' :: rest))
      = escapedLines 0 cs ++ '"' :: '"' :: '"' :: '\n' :: rest := by
    refine skipLineBreak_opening fun hbroken => ?_
    cases cs with
    | nil => exact ⟨_, _, rfl, by decide⟩
    | cons c cs =>
        rw [escapedLines]
        split
        · exact ⟨_, _, rfl, by decide⟩
        · rw [if_neg fun heq : c = '\n' => hbroken (heq ▸ List.mem_cons_self)]
          obtain ⟨d, _, hd, -, hbreak⟩ := escape_head c
          rw [hd]
          exact ⟨d, _, rfl, hbreak⟩
  rw [writeBasicLines]
  simp only [List.append_assoc, List.cons_append, List.nil_append]
  rw [any, hskip]
  exact basicLines_escapedLines cs rest (n := 0) (Nat.zero_le 2)

/-- So is the literal form over several lines. -/
theorem any_writeLiteralLines {cs : List Char} (hcodes : ∀ c ∈ cs, needsCode c = false)
    (hrun : longestRun '\'' 0 cs ≤ 2) :
    any (writeLiteralLines cs ++ '\n' :: rest) = some (cs, '\n' :: rest) := by
  have hskip : skipLineBreak (opening cs ++ (cs ++ '\'' :: '\'' :: '\'' :: '\n' :: rest))
      = cs ++ '\'' :: '\'' :: '\'' :: '\n' :: rest := by
    refine skipLineBreak_opening fun hbroken => ?_
    cases cs with
    | nil => exact ⟨_, _, rfl, by decide⟩
    | cons c cs =>
        have hplain := (isPlain_or_eq_newline (hcodes c List.mem_cons_self)).resolve_right
          fun heq => hbroken (heq ▸ List.mem_cons_self)
        exact ⟨c, _, rfl, ne_lineBreak_of_isPlain hplain⟩
  rw [writeLiteralLines]
  simp only [List.append_assoc, List.cons_append, List.nil_append]
  rw [any, hskip]
  exact literalLines_ticks hcodes rest (n := 0) hrun

/-- The form that a text takes, with what the form relies on. -/
inductive Written (ticks : Nat) (cs : List Char) : List Char → Prop where
  | basic : Written ticks cs (writeBasic cs)
  | literal (codeless : ∀ c ∈ cs, needsCode c = false) (unbroken : '\n' ∉ cs)
      (tickless : ticks = 0) : Written ticks cs (writeLiteral cs)
  | basicLines : Written ticks cs (writeBasicLines cs)
  | literalLines (codeless : ∀ c ∈ cs, needsCode c = false) (few : ticks ≤ 2) :
      Written ticks cs (writeLiteralLines cs)

/-- The form that is chosen can be relied on. -/
theorem written_writeWith (quotes ticks : Nat) : Written ticks cs (writeWith quotes ticks cs) := by
  have codeless (h : cs.any needsCode = false) : ∀ c ∈ cs, needsCode c = false := fun c hc =>
    Bool.eq_false_iff.mpr (List.any_eq_false.mp h c hc)
  simp only [writeWith]
  split
  · exact .basic
  · split
    · rename_i h
      simp only [Bool.and_eq_true, Bool.not_eq_true', decide_eq_true_eq] at h
      exact .literal (codeless h.1.1) (by simpa using h.1.2) h.2
    · split
      · exact .basicLines
      · split
        · rename_i h
          simp only [Bool.and_eq_true, Bool.not_eq_true', decide_eq_true_eq] at h
          exact .literalLines (codeless h.1) h.2
        · split
          · exact .basicLines
          · exact .basic

variable {limit : Option Nat}

/-- A text that is written takes one of the forms. -/
theorem written {cs q : List Char} (h : write limit cs = .ok q) :
    Written (longestRun '\'' 0 cs) cs q := by
  simp only [write] at h
  split at h
  · cases h
  · obtain rfl := Except.ok.inj h
    exact written_writeWith cs _ _

/-- A quotation starts with a quote or a tick. -/
theorem write_head {cs q : List Char} (h : write limit cs = .ok q) :
    ∃ c more, q = c :: more ∧ (c = '"' ∨ c = '\'') := by
  cases written h with
  | basic => exact ⟨_, _, rfl, Or.inl rfl⟩
  | literal => exact ⟨_, _, rfl, Or.inr rfl⟩
  | basicLines => exact ⟨_, _, rfl, Or.inl rfl⟩
  | literalLines => exact ⟨_, _, rfl, Or.inr rfl⟩

/-- Whatever form is taken, the text reads back. -/
theorem any_write {cs q : List Char} (h : write limit cs = .ok q) :
    any (q ++ '\n' :: rest) = some (cs, '\n' :: rest) := by
  cases written h with
  | basic => exact any_writeBasic cs rest
  | literal codeless unbroken tickless =>
      refine any_writeLiteral rest fun c hc => ⟨?_, ?_⟩
      · exact (isPlain_or_eq_newline (codeless c hc)).resolve_right fun heq => unbroken (heq ▸ hc)
      · exact fun heq => not_mem_of_longestRun tickless (heq ▸ hc)
  | basicLines => exact any_writeBasicLines cs rest
  | literalLines codeless few => exact any_writeLiteralLines rest codeless few

end ScratchArena.Toml.Quotation
