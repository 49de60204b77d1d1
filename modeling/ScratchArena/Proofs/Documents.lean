import ScratchArena.Proofs.Quotations
import ScratchArena.Toml.Standard

/-! # Documents — what is written reads back

    A document of sections reads back as one table of tables, given that
    its headers are distinct bare keys and so are the keys of each section.
    The route follows the writer: a number, then any value, then a line,
    then the lines of a section and of a document.

    The reader of lines runs on fuel.  A text is said to read as some lines
    when any fuel above its length is enough, so that a line in front of a
    text can be dealt with apart from the text.

    None of this depends on the limit up to which the writer counts quotes;
    without one nothing but a number out of range keeps a document from
    being written, and the reader and the writer make a library that keeps
    its word. -/

namespace ScratchArena.Toml

variable {limit : Option Nat}

/-! ## Numbers -/

namespace Number

/-- Digits without underscores are what they are. -/
theorem ungroup?_of_digits {isDigit : Char → Bool} (hgroup : isDigit '_' = false) {ds : List Char}
    (hne : ds ≠ []) (hds : ∀ d ∈ ds, isDigit d = true) : ungroup? isDigit ds = some ds := by
  induction ds with
  | nil => exact absurd rfl hne
  | cons d ds ih =>
      have hd := hds d List.mem_cons_self
      cases ds with
      | nil => rw [ungroup?, if_pos hd]
      | cons e ds =>
          have he : e ≠ '_' := by
            rintro rfl
            exact nomatch hgroup.symm.trans (hds '_' (by simp))
          have ih' := ih (List.cons_ne_nil e ds) fun d hd => hds d (List.mem_cons_of_mem _ hd)
          rw [ungroup?, if_pos hd, ih']
          · rfl
          · exact he

theorem isDigit_toDigits (n : Nat) : ∀ d ∈ Nat.toDigits 10 n, d.isDigit = true := fun _ hd =>
  Nat.isDigit_of_mem_toDigits (by decide) (Nat.le_refl 10) hd

theorem digitValue_of_isDigit {d : Char} (h : d.isDigit = true) :
    digitValue d = d.toNat - '0'.toNat := by
  simp only [Char.isDigit, Bool.and_eq_true, decide_eq_true_eq] at h
  exact if_pos h.2

/-- A number is read from its digits as core reads it. -/
theorem ofDigits_eq {ds : List Char} (hds : ∀ d ∈ ds, d.isDigit = true) :
    ofDigits 10 ds = Nat.ofDigitChars 10 ds 0 := by
  rw [ofDigits]
  generalize 0 = acc
  induction ds generalizing acc with
  | nil => rfl
  | cons d ds ih =>
      rw [List.foldl_cons, ih fun d hd => hds d (List.mem_cons_of_mem _ hd),
        digitValue_of_isDigit (hds d List.mem_cons_self), Nat.mul_comm]
      rfl

/-- The digits of a number give the number. -/
theorem ofDigits_toDigits (n : Nat) : ofDigits 10 (Nat.toDigits 10 n) = n := by
  rw [ofDigits_eq (isDigit_toDigits n), Nat.ofDigitChars_toDigits (by decide) (Nat.le_refl 10)]

/-- A positive number has no leading zero. -/
theorem head?_toDigits {n : Nat} (h : 0 < n) : (Nat.toDigits 10 n).head? ≠ some '0' := by
  induction n using Nat.strongRecOn with
  | _ n ih =>
      by_cases hn : n < 10
      · have hdigit : ∀ d < 10, 0 < d → [Nat.digitChar d].head? ≠ some '0' := by decide
        rw [Nat.toDigits_of_lt_base hn]
        exact hdigit n hn h
      · have hfirst := ih (n / 10) (by omega) (by omega)
        obtain ⟨d, ds, hds⟩ :=
          List.exists_cons_of_ne_nil (Nat.toDigits_ne_nil (n := n / 10) (b := 10))
        rw [Nat.toDigits_of_base_le (by decide) (Nat.le_of_not_lt hn), hds]
        rw [hds] at hfirst
        exact hfirst

/-- A digit is no sign and no prefix of another base. -/
theorem integer?_of_digits {ds : List Char} (hds : ∀ d ∈ ds, d.isDigit = true) :
    integer? ds = (decimalDigits? ds).bind fun ds => inRange? (ofDigits 10 ds) := by
  unfold integer?
  split
  · exact absurd (hds 'x' (by simp)) (by decide)
  · exact absurd (hds 'o' (by simp)) (by decide)
  · exact absurd (hds 'b' (by simp)) (by decide)
  · exact absurd (hds '-' (by simp)) (by decide)
  · exact absurd (hds '+' (by simp)) (by decide)
  · rfl

/-- A number in range is read from its digits. -/
theorem integer?_toDigits {n : Nat} (h : n ≤ largest) :
    integer? (Nat.toDigits 10 n) = some (n : Int) := by
  have hleading : (decide ((Nat.toDigits 10 n).length = 1)
      || decide ((Nat.toDigits 10 n).head? ≠ some '0')) = true := by
    by_cases hn : n = 0
    · subst hn
      rfl
    · rw [decide_eq_true (head?_toDigits (Nat.pos_of_ne_zero hn)), Bool.or_true]
  rw [integer?_of_digits (isDigit_toDigits n), decimalDigits?,
    ungroup?_of_digits rfl Nat.toDigits_ne_nil (isDigit_toDigits n), Option.filter_some,
    if_pos hleading, Option.bind_some, ofDigits_toDigits]
  exact if_pos ⟨by omega, by omega⟩

end Number

/-! ## Values -/

/-- What a simple value reads back as. -/
def Simple.value : Simple → Value
  | .text s => .text s
  | .integer n => .integer n
  | .truth b => .truth b

/-- A word ends with its line. -/
theorem spelling_word {cs : List Char} (hword : ∀ c ∈ cs, isScalarChar c = true)
    (rest : List Char) : spelling (cs ++ '\n' :: rest) = (cs, '\n' :: rest) := by
  have htake : (cs ++ '\n' :: rest).takeWhile isScalarChar = cs := by
    rw [List.takeWhile_append_of_pos hword]
    exact List.append_nil cs
  have hdrop : (cs ++ '\n' :: rest).dropWhile isScalarChar = '\n' :: rest :=
    List.dropWhile_append_of_pos hword
  simp only [spelling, htake, hdrop]
  cases Moment.isDate cs with
  | true => rfl
  | false => rfl

/-- A value without quotes ends with its line. -/
theorem value?_word (depth : Nat) {cs : List Char} (hne : cs ≠ [])
    (hword : ∀ c ∈ cs, isScalarChar c = true) (rest : List Char) :
    value? depth (cs ++ '\n' :: rest) = (scalarOf? cs).map fun v => (v, '\n' :: rest) := by
  obtain ⟨c, more, hcs⟩ := List.exists_cons_of_ne_nil hne
  have hc : isScalarChar c = true := hword c (hcs ▸ List.mem_cons_self)
  have hne {d : Char} (hd : isScalarChar d = false) : c ≠ d := by
    rintro rfl
    exact nomatch hc.symm.trans hd
  have hscalar : scalar? (cs ++ '\n' :: rest) = (scalarOf? cs).map fun v => (v, '\n' :: rest) := by
    rw [scalar?, spelling_word hword]
  have hquote : ¬ (c = '"' ∨ c = '\'') := not_or.mpr ⟨hne rfl, hne rfl⟩
  rw [← hscalar, hcs, List.cons_append, value?.eq_def]
  exact (if_neg hquote).trans ((if_neg (hne rfl)).trans (if_neg (hne rfl)))

theorem isScalarChar_of_isDigit {c : Char} (h : c.isDigit = true) : isScalarChar c = true := by
  simp [isScalarChar, Char.isAlphanum, h]

/-- The digits of a number in range stand for it. -/
theorem scalarOf?_toDigits {n : Nat} (h : n ≤ Number.largest) :
    scalarOf? (Nat.toDigits 10 n) = some (.integer n) := by
  have hword {ds : List Char} (hds : ds.any (fun d => !d.isDigit) = true) :
      Nat.toDigits 10 n ≠ ds := by
    rintro rfl
    obtain ⟨d, hmem, hd⟩ := List.any_eq_true.mp hds
    simp [Number.isDigit_toDigits n d hmem] at hd
  rw [scalarOf?, if_neg (hword rfl), if_neg (hword rfl), Number.integer?_toDigits h]

/-- A written value reads back, whatever the lines after it. -/
theorem value?_write {v : Simple} {cs : List Char} (h : v.write limit = .ok cs) (depth : Nat)
    (rest : List Char) : value? depth (cs ++ '\n' :: rest) = some (v.value, '\n' :: rest) := by
  cases v with
  | text s =>
      obtain ⟨c, more, hcs, hquote⟩ := Quotation.write_head h
      have hany := Quotation.any_write rest h
      rw [hcs, List.cons_append] at hany ⊢
      rw [value?.eq_def]
      refine (if_pos hquote).trans ?_
      rw [hany]
      exact congrArg (fun s => some (Value.text s, '\n' :: rest)) String.ofList_toList
  | integer n =>
      rw [Simple.write] at h
      split at h
      · rename_i hn
        obtain rfl := Except.ok.inj h
        have hdigits : ∀ d ∈ Nat.toDigits 10 n, isScalarChar d = true := fun d hd =>
          isScalarChar_of_isDigit (Number.isDigit_toDigits n d hd)
        rw [value?_word depth Nat.toDigits_ne_nil hdigits, scalarOf?_toDigits hn]
        rfl
      · exact nomatch h
  | truth b =>
      cases b with
      | true =>
          obtain rfl := Except.ok.inj h
          exact value?_word depth (by decide) (List.all_eq_true.mp rfl) rest
      | false =>
          obtain rfl := Except.ok.inj h
          exact value?_word depth (by decide) (List.all_eq_true.mp rfl) rest

/-- A written value does not start with a blank. -/
theorem Simple.write_head {v : Simple} {cs : List Char} (h : v.write limit = .ok cs) :
    ∃ c more, cs = c :: more ∧ isBlank c = false := by
  cases v with
  | text s =>
      obtain ⟨c, more, hcs, hquote⟩ := Quotation.write_head h
      refine ⟨c, more, hcs, ?_⟩
      rcases hquote with rfl | rfl
      · rfl
      · rfl
  | integer n =>
      rw [Simple.write] at h
      split at h
      · obtain rfl := Except.ok.inj h
        obtain ⟨c, more, hcs⟩ :=
          List.exists_cons_of_ne_nil (Nat.toDigits_ne_nil (n := n) (b := 10))
        have hc := Number.isDigit_toDigits n c (hcs ▸ List.mem_cons_self)
        refine ⟨c, more, hcs, ?_⟩
        rw [isBlank, Bool.or_eq_false_iff, beq_eq_false_iff_ne, beq_eq_false_iff_ne]
        constructor
        · rintro rfl
          exact nomatch hc
        · rintro rfl
          exact nomatch hc
      · exact nomatch h
  | truth b =>
      cases b with
      | true => exact ⟨_, _, (Except.ok.inj h).symm, rfl⟩
      | false => exact ⟨_, _, (Except.ok.inj h).symm, rfl⟩

/-! ## Lines -/

theorem map_eq_ok {α β ε : Type} {f : α → β} {x : Except ε α} {b : β} :
    x.map f = .ok b ↔ ∃ a, x = .ok a ∧ f a = b := by
  constructor
  · intro h
    cases x with
    | error e => exact nomatch h
    | ok a => exact ⟨a, rfl, Except.ok.inj h⟩
  · rintro ⟨a, rfl, rfl⟩
    rfl

theorem ne_of_isKeyChar {c d : Char} (hc : isKeyChar c = true) (hd : isKeyChar d = false) :
    c ≠ d := by
  rintro rfl
  exact nomatch hc.symm.trans hd

theorem isBlank_of_isKeyChar {c : Char} (hc : isKeyChar c = true) : isBlank c = false := by
  rw [isBlank, Bool.or_eq_false_iff, beq_eq_false_iff_ne, beq_eq_false_iff_ne]
  exact ⟨ne_of_isKeyChar hc rfl, ne_of_isKeyChar hc rfl⟩

theorem skipBlanks_cons {c : Char} (h : isBlank c = false) (cs : List Char) :
    skipBlanks (c :: cs) = c :: cs := by
  rw [skipBlanks, List.dropWhile_cons_of_neg (by rw [h]; decide)]

theorem Bare.chars {k : String} (h : Bare k) : ∀ c ∈ k.toList, isKeyChar c = true :=
  List.all_eq_true.mp h.2

/-- A bare key has a first character. -/
theorem Bare.head {k : String} (h : Bare k) :
    ∃ c more, k.toList = c :: more ∧ isKeyChar c = true := by
  obtain ⟨c, more, hk⟩ := List.exists_cons_of_ne_nil h.1
  exact ⟨c, more, hk, h.chars c (hk ▸ List.mem_cons_self)⟩

/-- What starts with a bare key starts with no other character. -/
theorem Bare.append_ne {k : String} (h : Bare k) {d : Char} (hd : isKeyChar d = false)
    {rest more : List Char} : k.toList ++ rest ≠ d :: more := by
  obtain ⟨c, _, hk, hc⟩ := h.head
  rw [hk]
  intro heq
  exact ne_of_isKeyChar hc hd (List.cons.inj heq).1

/-- A bare key ends where its characters do. -/
theorem keyPart?_bare {k : String} (h : Bare k) {d : Char} (hd : isKeyChar d = false)
    (rest : List Char) : keyPart? (k.toList ++ d :: rest) = some (k, d :: rest) := by
  obtain ⟨c, more, hk, -⟩ := h.head
  have htake : (k.toList ++ d :: rest).takeWhile isKeyChar = c :: more := by
    rw [List.takeWhile_append_of_pos h.chars, List.takeWhile_cons_of_neg (by rw [hd]; decide),
      List.append_nil, hk]
  have hdrop : (k.toList ++ d :: rest).dropWhile isKeyChar = d :: rest := by
    rw [List.dropWhile_append_of_pos h.chars, List.dropWhile_cons_of_neg (by rw [hd]; decide)]
  unfold keyPart?
  split
  · rename_i heq
    exact absurd heq (h.append_ne rfl)
  · rename_i heq
    exact absurd heq (h.append_ne rfl)
  · rw [htake, hdrop]
    show some (String.ofList (c :: more), d :: rest) = _
    rw [← hk, String.ofList_toList]

/-- A bare key reads as a path of one step. -/
theorem key?_bare {k : String} (h : Bare k) {d : Char} (hd : isKeyChar d = false)
    {rest rest' : List Char} (hrest : skipBlanks (d :: rest) = rest')
    (hdot : ∀ more, rest' ≠ '.' :: more) :
    key? (k.toList ++ d :: rest) = some (([], k), rest') := by
  obtain ⟨c, more, hk, hc⟩ := h.head
  have hskip : skipBlanks (k.toList ++ d :: rest) = k.toList ++ d :: rest := by
    rw [hk, List.cons_append, skipBlanks_cons (isBlank_of_isKeyChar hc)]
  have hparts : ∀ fuel, keyParts? (fuel + 1) (k.toList ++ d :: rest) = some ([k], rest') := by
    intro fuel
    rw [keyParts?, hskip, keyPart?_bare h hd]
    simp only [hrest]
  have hfuel : (k.toList ++ d :: rest).length = (more ++ d :: rest).length + 1 := by
    rw [hk, List.cons_append, List.length_cons]
  rw [key?, hfuel, hparts]
  rfl

/-- A written pair reads as a pair. -/
theorem line?_pair {k : String} (hk : Bare k) {v : Simple} {cs : List Char}
    (h : v.write limit = .ok cs) (rest : List Char) :
    line? (k.toList ++ ' ' :: '=' :: ' ' :: (cs ++ '\n' :: rest))
      = some (.pair [] k v.value, '\n' :: rest) := by
  obtain ⟨c, more, hcs, hblank⟩ := Simple.write_head h
  have hkey : key? (k.toList ++ ' ' :: '=' :: ' ' :: (cs ++ '\n' :: rest))
      = some (([], k), '=' :: ' ' :: (cs ++ '\n' :: rest)) :=
    key?_bare hk rfl rfl fun _ heq => nomatch heq
  have hskip : skipBlanks (' ' :: (cs ++ '\n' :: rest)) = cs ++ '\n' :: rest := by
    rw [hcs]
    exact skipBlanks_cons hblank _
  have hpair : pair? (value? (nestingLimit - 1))
      (k.toList ++ ' ' :: '=' :: ' ' :: (cs ++ '\n' :: rest))
      = some (([], k, v.value), '\n' :: rest) := by
    rw [pair?, hkey]
    simp only [hskip, value?_write h]
    rfl
  unfold line?
  split
  · rename_i heq
    exact absurd heq (hk.append_ne rfl)
  · rw [hpair]
    rfl

/-- A written header reads as a header. -/
theorem line?_header {k : String} (hk : Bare k) (rest : List Char) :
    line? ('[' :: (k.toList ++ ']' :: '\n' :: rest)) = some (.header [] k false, '\n' :: rest) := by
  have hkey : key? (k.toList ++ ']' :: '\n' :: rest) = some (([], k), ']' :: '\n' :: rest) :=
    key?_bare hk rfl rfl fun _ heq => nomatch heq
  show header? _ = _
  unfold header?
  split
  · rename_i heq
    exact absurd heq (hk.append_ne rfl)
  · rw [hkey]
    rfl

/-- Any fuel above the length of a text is enough to read these lines. -/
def Reads (cs : List Char) (lines : List Line) : Prop :=
  ∀ fuel, cs.length < fuel → lines? fuel cs = some lines

namespace Reads

variable {cs rest : List Char} {lines : List Line}

theorem nil : Reads [] [] := by
  intro fuel hfuel
  obtain ⟨fuel, rfl⟩ := Nat.exists_eq_add_of_lt hfuel
  rfl

/-- An empty line in front says nothing. -/
theorem blank (h : Reads rest lines) : Reads ('\n' :: rest) lines := by
  intro fuel hfuel
  obtain ⟨fuel, rfl⟩ : ∃ f, fuel = f + 1 := ⟨fuel - 1, by omega⟩
  exact h fuel (Nat.lt_of_succ_lt_succ hfuel)

/-- A line in front, which starts with no blank, line break or comment. -/
theorem cons {c : Char} {more : List Char} {line : Line} (hblank : isBlank c = false)
    (hbreak : c ≠ '\n' ∧ c ≠ '\r') (hcomment : c ≠ '#')
    (hline : line? (c :: more) = some (line, '\n' :: rest)) (hlen : rest.length ≤ more.length)
    (h : Reads rest lines) : Reads (c :: more) (line :: lines) := by
  intro fuel hfuel
  obtain ⟨fuel, rfl⟩ : ∃ f, fuel = f + 1 := ⟨fuel - 1, by omega⟩
  rw [List.length_cons] at hfuel
  rw [lines?, skipBlanks_cons hblank]
  split
  · rename_i heq
    exact nomatch heq
  · rename_i heq
    exact absurd (List.cons.inj heq).1 hbreak.1
  · rename_i heq
    exact absurd (List.cons.inj heq).1 hbreak.2
  · rename_i heq
    exact absurd (List.cons.inj heq).1 hcomment
  · rw [hline]
    show ((lines? fuel rest).map (line :: ·)) = _
    rw [h fuel (by omega)]
    rfl

/-- A written pair in front is one line more. -/
theorem pair {p : String × Simple} (hkey : Bare p.1) (hwrite : writePair limit p = .ok cs)
    (h : Reads rest lines) : Reads (cs ++ rest) (.pair [] p.1 p.2.value :: lines) := by
  obtain ⟨k, v⟩ := p
  obtain ⟨w, hw, rfl⟩ := map_eq_ok.mp hwrite
  obtain ⟨c, more, hk, hc⟩ := hkey.head
  have hline := line?_pair hkey hw rest
  have hcs : k.toList ++ [' ', '=', ' '] ++ w ++ ['\n'] ++ rest
      = k.toList ++ ' ' :: '=' :: ' ' :: (w ++ '\n' :: rest) := by
    simp only [List.append_assoc, List.cons_append, List.nil_append]
  rw [hcs]
  rw [hk, List.cons_append] at hline ⊢
  have hbreak : c ≠ '\n' ∧ c ≠ '\r' := ⟨ne_of_isKeyChar hc rfl, ne_of_isKeyChar hc rfl⟩
  refine cons (isBlank_of_isKeyChar hc) hbreak (ne_of_isKeyChar hc rfl) hline ?_ h
  simp only [List.length_append, List.length_cons]
  omega

/-- So is a written header. -/
theorem header {k : String} (hkey : Bare k) (h : Reads rest lines) :
    Reads ('[' :: (k.toList ++ ']' :: '\n' :: rest)) (.header [] k false :: lines) := by
  refine cons rfl (by decide) (by decide) (line?_header hkey rest) ?_ h
  simp only [List.length_append, List.length_cons]
  omega

end Reads

/-! ## Sections -/

/-- A traversal succeeds at its head and then at its tail. -/
theorem mapM_cons_eq_ok {α β ε : Type} {f : α → Except ε β} {x : α} {xs : List α} {zs : List β} :
    (x :: xs).mapM f = .ok zs ↔ ∃ y ys, f x = .ok y ∧ xs.mapM f = .ok ys ∧ zs = y :: ys := by
  rw [List.mapM_cons]
  cases hx : f x with
  | error e =>
      constructor
      · intro h
        exact nomatch h
      · rintro ⟨y, ys, hy, -⟩
        exact nomatch hy
  | ok y =>
      cases hxs : xs.mapM f with
      | error e =>
          constructor
          · intro h
            exact nomatch h
          · rintro ⟨y, ys, -, hys, -⟩
            exact nomatch hys
      | ok ys =>
          constructor
          · intro h
            exact ⟨y, ys, rfl, rfl, (Except.ok.inj h).symm⟩
          · rintro ⟨y', ys', hy, hys, rfl⟩
            obtain rfl := Except.ok.inj hy
            obtain rfl := Except.ok.inj hys
            rfl

/-- The entries of a table that is written as these pairs. -/
def entries (pairs : List (String × Simple)) : Entries := pairs.map fun p => (p.1, p.2.value)

/-- The table that a document reads back as. -/
def tables (document : Sections) : Entries :=
  document.map fun s => (s.1, .table .defined (entries s.2))

/-- The lines that pairs read as. -/
def pairLines (pairs : List (String × Simple)) : List Line :=
  pairs.map fun p => .pair [] p.1 p.2.value

/-- The lines that a section reads as. -/
def sectionLines (s : String × List (String × Simple)) : List Line :=
  .header [] s.1 false :: pairLines s.2

/-- Written pairs read as their lines. -/
theorem Reads.pairs {pairs : List (String × Simple)} {written : List (List Char)}
    {rest : List Char} {lines : List Line} (hkeys : ∀ p ∈ pairs, Bare p.1)
    (hwrite : pairs.mapM (writePair limit) = .ok written) (h : Reads rest lines) :
    Reads (written.flatten ++ rest) (pairLines pairs ++ lines) := by
  induction pairs generalizing written with
  | nil =>
      obtain rfl := Except.ok.inj hwrite
      exact h
  | cons p pairs ih =>
      obtain ⟨cs, others, hp, hothers, rfl⟩ := mapM_cons_eq_ok.mp hwrite
      rw [List.flatten_cons, List.append_assoc]
      exact Reads.pair (hkeys p List.mem_cons_self) hp
        (ih (fun q hq => hkeys q (List.mem_cons_of_mem _ hq)) hothers)

/-- A written section reads as its lines. -/
theorem Reads.lines {s : String × List (String × Simple)} {cs rest : List Char}
    {lines : List Line} (hheader : Bare s.1) (hkeys : Keyed s.2)
    (hwrite : writeSection limit s.1 s.2 = .ok cs) (h : Reads rest lines) :
    Reads (cs ++ rest) (sectionLines s ++ lines) := by
  obtain ⟨written, hpairs, rfl⟩ := map_eq_ok.mp hwrite
  have hcs : '[' :: s.1.toList ++ [']', '\n'] ++ written.flatten ++ rest
      = '[' :: (s.1.toList ++ ']' :: '\n' :: (written.flatten ++ rest)) := by
    simp only [List.append_assoc, List.cons_append, List.nil_append]
  rw [hcs]
  exact Reads.header hheader (Reads.pairs hkeys.bare hpairs h)

/-- Written sections, with empty lines between them, read as the lines of
    all. -/
theorem Reads.document {document : Sections}
    {written : List (List Char)} (hheaders : ∀ s ∈ document, Bare s.1)
    (hkeys : ∀ s ∈ document, Keyed s.2)
    (hwrite :
      (document.mapM fun (header, pairs) => writeSection limit header pairs) = .ok written) :
    Reads (['\n'].intercalate written) (document.flatMap sectionLines) := by
  induction document generalizing written with
  | nil =>
      obtain rfl := Except.ok.inj hwrite
      exact Reads.nil
  | cons s document ih =>
      obtain ⟨cs, others, hs, hothers, rfl⟩ := mapM_cons_eq_ok.mp hwrite
      have hrest := ih (fun s hs => hheaders s (List.mem_cons_of_mem _ hs))
        (fun s hs => hkeys s (List.mem_cons_of_mem _ hs)) hothers
      have hlines {rest : List Char} {lines : List Line} (h : Reads rest lines) :=
        Reads.lines (hheaders s List.mem_cons_self) (hkeys s List.mem_cons_self) hs h
      rw [List.flatMap_cons]
      cases others with
      | nil =>
          have := hlines hrest
          rw [List.intercalate_singleton]
          rwa [List.intercalate_nil, List.append_nil] at this
      | cons other others =>
          rw [List.intercalate_cons_cons]
          have := hlines hrest.blank
          rwa [List.append_assoc]

/-! ## Tables -/

/-- Pairs are gathered into the section they stand in. -/
theorem sections_pairs {header : Option (List String × String × Bool)} {lines : List Line}
    {first : Section} {others : List Section} (h : sections header lines = first :: others)
    (pairs : List (String × Simple)) :
    sections header (pairLines pairs ++ lines)
      = { first with pairs := (entries pairs).map (fun e => ([], e.1, e.2)) ++ first.pairs }
        :: others := by
  induction pairs with
  | nil => exact h
  | cons p pairs ih =>
      rw [pairLines, List.map_cons, List.cons_append, sections]
      rw [pairLines] at ih
      rw [ih]
      rfl

/-- The section that a written section is gathered into. -/
def gathered (s : String × List (String × Simple)) : Section :=
  ⟨some ([], s.1, false), (entries s.2).map fun e => ([], e.1, e.2)⟩

/-- The lines of a document are gathered into its sections. -/
theorem sections_document (header : Option (List String × String × Bool))
    (document : Sections) :
    sections header (document.flatMap sectionLines) = ⟨header, []⟩ :: document.map gathered := by
  induction document generalizing header with
  | nil => rfl
  | cons s document ih =>
      have hs := sections_pairs (ih (some ([], s.1, false))) s.2
      rw [List.flatMap_cons, sectionLines, List.cons_append, sections, hs, List.append_nil]
      rfl

/-- A key that is yet to come is not there. -/
theorem lookup_of_distinct {es : Entries} {key : String} {v : Value} {others : Entries}
    (h : ((es ++ (key, v) :: others).map Prod.fst).Nodup) : es.lookup key = none := by
  rw [List.lookup_eq_none_iff]
  intro e he
  rw [bne_iff_ne]
  rintro rfl
  rw [List.map_append, List.nodup_append] at h
  exact h.2.2 e.1 (List.mem_map_of_mem he) e.1 List.mem_cons_self rfl

/-- Distinct keys are all given their values. -/
theorem insertAll_distinct {es added : Entries} (h : ((es ++ added).map Prod.fst).Nodup) :
    Entries.insertAll (added.map fun e => ([], e.1, e.2)) es = some (es ++ added) := by
  induction added generalizing es with
  | nil =>
      rw [List.append_nil]
      rfl
  | cons e added ih =>
      have hinsert : Entries.insert e.1 e.2 [] es = some (es ++ [e]) := by
        rw [Entries.insert, lookup_of_distinct h]
      rw [List.append_cons] at h ⊢
      show ((Entries.insert e.1 e.2 [] es).bind
        (Entries.insertAll (added.map fun e => ([], e.1, e.2)))) = _
      rw [hinsert]
      exact ih h

/-- Sections under distinct headers make a table each. -/
theorem addTo_distinct {es : Entries} {document : Sections}
    (hheaders : ((es ++ tables document).map Prod.fst).Nodup)
    (hkeys : ∀ s ∈ document, Keyed s.2) :
    (document.map gathered).foldlM (fun es s => s.addTo es) es = some (es ++ tables document) := by
  induction document generalizing es with
  | nil => exact congrArg some (List.append_nil es).symm
  | cons s document ih =>
      have hentries : Entries.insertAll ((entries s.2).map fun e => ([], e.1, e.2)) []
          = some (entries s.2) := by
        refine insertAll_distinct ?_
        have := (hkeys s List.mem_cons_self).distinct
        rwa [List.nil_append, entries, List.map_map]
      have hadd : (gathered s).addTo es = some (es ++ [(s.1, .table .defined (entries s.2))]) := by
        show Entries.define s.1 _ es = _
        rw [Entries.define, lookup_of_distinct hheaders]
        exact congrArg (Option.map _) hentries
      have htables : tables (s :: document)
          = (s.1, .table .defined (entries s.2)) :: tables document := rfl
      rw [htables, List.append_cons] at hheaders ⊢
      show (((gathered s).addTo es).bind
        ((document.map gathered).foldlM fun es s => s.addTo es)) = _
      rw [hadd]
      exact ih hheaders fun s hs => hkeys s (List.mem_cons_of_mem _ hs)

/-! ## Documents -/

/-- A document starts with a bracket, if at all. -/
theorem skipMark_written {document : Sections}
    {written : List (List Char)}
    (h : (document.mapM fun (header, pairs) => writeSection limit header pairs) = .ok written) :
    skipMark (['\n'].intercalate written) = ['\n'].intercalate written := by
  cases document with
  | nil =>
      obtain rfl := Except.ok.inj h
      rfl
  | cons s document =>
      obtain ⟨cs, others, hs, -, rfl⟩ := mapM_cons_eq_ok.mp h
      obtain ⟨lines, -, rfl⟩ := map_eq_ok.mp hs
      cases others with
      | nil =>
          rw [List.intercalate_singleton]
          rfl
      | cons other others =>
          rw [List.intercalate_cons_cons]
          rfl

/-- A document reads back as its tables. -/
theorem parse?_write {document : Sections} {text : String}
    (hheaders : Keyed document) (hkeys : ∀ s ∈ document, Keyed s.2)
    (h : write limit document = .ok text) : parse? text = some (tables document) := by
  obtain ⟨written, hwrite, rfl⟩ := map_eq_ok.mp h
  have hreads := Reads.document hheaders.bare hkeys hwrite
  have hdistinct : (([] ++ tables document).map Prod.fst).Nodup := by
    have := hheaders.distinct
    rwa [List.nil_append, tables, List.map_map]
  rw [parse?, String.toList_ofList, skipMark_written hwrite, hreads _ (Nat.lt_succ_self _),
    Option.bind_some, sections_document]
  exact addTo_distinct hdistinct hkeys

/-- A traversal succeeds if every element does. -/
theorem exists_mapM_ok_iff {α β ε : Type} {f : α → Except ε β} {xs : List α} :
    (∃ ys, xs.mapM f = .ok ys) ↔ ∀ x ∈ xs, ∃ y, f x = .ok y := by
  induction xs with
  | nil =>
      constructor
      · intro _ x hx
        exact nomatch hx
      · intro _
        exact ⟨[], rfl⟩
  | cons x xs ih =>
      rw [List.forall_mem_cons, ← ih]
      constructor
      · rintro ⟨zs, h⟩
        obtain ⟨y, ys, hy, hys, -⟩ := mapM_cons_eq_ok.mp h
        exact ⟨⟨y, hy⟩, ys, hys⟩
      · rintro ⟨⟨y, hy⟩, ys, hys⟩
        exact ⟨y :: ys, mapM_cons_eq_ok.mpr ⟨y, ys, hy, hys, rfl⟩⟩

theorem exists_map_ok_iff {α β ε : Type} {f : α → β} {x : Except ε α} :
    (∃ b, x.map f = .ok b) ↔ ∃ a, x = .ok a := by
  constructor
  · rintro ⟨b, h⟩
    obtain ⟨a, ha, -⟩ := map_eq_ok.mp h
    exact ⟨a, ha⟩
  · rintro ⟨a, rfl⟩
    exact ⟨f a, rfl⟩

/-- A document is written when each of its values is. -/
theorem exists_write_iff {document : Sections} :
    (∃ text, write limit document = .ok text)
      ↔ ∀ s ∈ document, ∀ p ∈ s.2, ∃ cs, p.2.write limit = .ok cs := by
  simp only [write, writeSection, writePair, exists_map_ok_iff, exists_mapM_ok_iff]

namespace Simple

/-- A number is written if it is in range. -/
theorem writes_integer_iff {n : Nat} :
    (∃ cs, (Simple.integer n).write limit = .ok cs) ↔ n ≤ Number.largest := by
  rw [write]
  constructor
  · rintro ⟨cs, h⟩
    split at h
    · rename_i hn
      exact hn
    · exact nomatch h
  · intro hn
    exact ⟨_, if_pos hn⟩

theorem writes_truth (b : Bool) : ∃ cs, (Simple.truth b).write limit = .ok cs := by
  cases b with
  | true => exact ⟨_, rfl⟩
  | false => exact ⟨_, rfl⟩

/-- Without a limit nothing but the size of a number matters. -/
theorem writes_iff {v : Simple} :
    (∃ cs, v.write none = .ok cs) ↔ ∀ n, v = .integer n → n ≤ Number.largest := by
  cases v with
  | text s => exact ⟨fun _ n hn => (nomatch hn), fun _ => ⟨_, rfl⟩⟩
  | integer n =>
      rw [writes_integer_iff]
      constructor
      · intro hn m hm
        exact Simple.integer.inj hm ▸ hn
      · intro h
        exact h n rfl
  | truth b => exact ⟨fun _ n hn => (nomatch hn), fun _ => writes_truth b⟩

end Simple

/-! ## The library -/

/-- A simple value is read as what it was. -/
theorem reads_value (v : Simple) : (library limit).Reads v.value v := by
  cases v with
  | text s => rfl
  | integer n =>
      show (if 0 ≤ (n : Int) then Except.ok (n : Int).toNat else .error wrongKind) = .ok n
      rw [if_pos (Int.natCast_nonneg n), Int.toNat_natCast]
  | truth b => rfl

/-- Looking up after a change of all values. -/
theorem lookup_map {α β : Type} (f : α → β) (items : List (String × α)) (name : String) :
    (items.map fun i => (i.1, f i.2)).lookup name = (items.lookup name).map f := by
  induction items with
  | nil => rfl
  | cons i items ih =>
      rw [List.map_cons, List.lookup_cons, List.lookup_cons, ih]
      cases name == i.1 with
      | true => rfl
      | false => rfl

/-- A table shows the items it was made of. -/
theorem shows_map {α : Type} {R : (library limit).Value → α → Prop}
    {f : α → (library limit).Value} (h : ∀ a, R (f a) a) (items : List (String × α)) :
    (library limit).Shows R (fun _ name => (items.map fun i => (i.1, f i.2)).lookup name)
      items := by
  intro _ name
  show Option.Rel R ((items.map fun i => (i.1, f i.2)).lookup name) _
  rw [lookup_map]
  cases items.lookup name with
  | none => exact .none
  | some a => exact .some (h a)

/-- Whatever the limit is, what is written reads back. -/
theorem library_reads {document : Sections} {text : String} (hplain : document.Plain)
    (h : (library limit).write document = .ok text) :
    ∃ root fields, (library limit).parse text = .ok root ∧ (library limit).fields root = .ok fields
      ∧ (library limit).Shows (library limit).ReadsSection fields document := by
  have hparse := parse?_write hplain.headers hplain.keys h
  refine ⟨.table .defined (tables document), fun _ name => (tables document).lookup name, ?_, rfl,
    ?_⟩
  · show readText text = _
    rw [readText, hparse]
    rfl
  · refine shows_map (f := fun pairs => Value.table .defined (entries pairs)) ?_ document
    intro pairs
    exact ⟨_, rfl, shows_map reads_value pairs⟩

/-- Without a limit the library keeps its word. -/
theorem library_lawful : (library none).Lawful where
  writes := by
    intro document _
    refine exists_write_iff.trans ?_
    constructor
    · intro h s hs key n hn
      exact Simple.writes_iff.mp (h s hs _ hn) n rfl
    · rintro h s hs ⟨key, v⟩ hp
      refine Simple.writes_iff.mpr ?_
      rintro n rfl
      exact h s hs key n hp
  reads := fun _ _ hplain h => library_reads hplain h

end ScratchArena.Toml
