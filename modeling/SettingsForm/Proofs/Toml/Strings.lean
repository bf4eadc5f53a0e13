import SettingsForm.Toml.Reader
import Mathlib.Data.List.TakeWhile

/-!
# Written strings

A string is written in the plainest quotes that its characters allow, and read one character at a
time. Reading a prefix leaves the reader at some place (`StringKind.steps`), and the quotes that it
has met last may still belong to the text: each kind of string is read to its end from any such place
(`body_literalLines`, `body_escapeBasic`). So every written string and key is read back
(`readString_writeString`, `readName_writeKey`).
-/

namespace SettingsForm.Toml

/-! ## Runs of a character -/

/-- The greatest number of times in a row that a character stands in a text, when it has stood there
`best` times and `run` times right before. -/
def longestRunFrom (c : Char) (best run : Nat) (cs : List Char) : Nat :=
  (cs.foldl (fun (best, run) d =>
    let run := if d = c then run + 1 else 0
    (max best run, run)) (best, run)).1

variable {q c : Char} {cs rest : List Char} {best run : Nat}

theorem longestRunFrom_cons : longestRunFrom q best run (c :: cs) =
    longestRunFrom q (max best (if c = q then run + 1 else 0)) (if c = q then run + 1 else 0) cs :=
  rfl

theorem le_longestRunFrom : best ≤ longestRunFrom q best run cs := by
  induction cs generalizing best run with
  | nil => exact Nat.le_refl _
  | cons c cs ih =>
    rw [longestRunFrom_cons]
    exact (Nat.le_max_left _ _).trans ih

theorem not_mem_of_longestRunFrom (hcs : longestRunFrom q best run cs = 0) : q ∉ cs := by
  induction cs generalizing best run with
  | nil => exact List.not_mem_nil
  | cons c cs ih =>
    rw [longestRunFrom_cons] at hcs
    have hle := hcs ▸ le_longestRunFrom
    rw [List.mem_cons, not_or]
    refine ⟨?_, ih hcs⟩
    rintro rfl
    rw [if_pos rfl] at hle
    omega

/-! ## Steps through a string -/

namespace StringKind

variable {k : StringKind} {place next : StringPlace} {added : List Char}

/-- Where the reading of a string stands after some of its characters, and what they added. -/
def steps (k : StringKind) : StringPlace → List Char → Option (StringPlace × List Char)
  | place, [] => some (place, [])
  | place, c :: cs =>
    match k.step place c with
    | some (.more next added) => (k.steps next cs).map fun r => (r.1, added ++ r.2)
    | _ => none

/-- Reading goes on from where some characters have led. -/
theorem body_append (hcs : k.steps place cs = some (next, added)) :
    k.body place (cs ++ rest) = (k.body next rest).map fun r => (added ++ r.1, r.2) := by
  induction cs generalizing place added with
  | nil =>
    cases hcs
    simp
  | cons c cs ih =>
    rw [steps] at hcs
    rw [List.cons_append, body]
    split at hcs
    · rename_i middle first hstep
      obtain ⟨⟨last, more⟩, hmore, heq⟩ := Option.map_eq_some_iff.mp hcs
      cases heq
      rw [hstep]
      simp only
      rw [ih hmore, Option.map_map]
      congr 1
      funext r
      simp
    · cases hcs

theorem body_of_step (hstep : k.step place c = some (.more next added)) :
    k.body place (c :: cs) = (k.body next cs).map fun r => (added ++ r.1, r.2) := by
  rw [body, hstep]

/-- A character that stands for itself. -/
theorem plainStep_self (hquote : c ≠ k.quote) (hescape : c = '\\' → k.hasEscapes = false)
    (hplain : isPlain c = true ∨ c = '\n' ∧ k.lines = true) :
    k.plainStep added c = some (.more .plain (added ++ [c])) := by
  have hbackslash : ¬ (c = '\\' ∧ k.hasEscapes = true) := by
    rintro ⟨hc, hk⟩
    rw [hescape hc] at hk
    cases hk
  unfold plainStep
  rw [if_neg hquote, if_neg hbackslash]
  rcases hplain with hplain | ⟨rfl, hlines⟩
  · have hbreak : c ≠ '\n' ∧ c ≠ '\r' := by
      constructor <;> rintro rfl <;> revert hplain <;> decide
    rw [if_neg hbreak.1, if_neg hbreak.2, if_pos hplain]
  · rw [if_pos rfl, if_pos hlines]

/-- Where a string stands after some quotes that may yet belong to its text. -/
def placeAfter (quotes : Nat) : StringPlace := if quotes = 0 then .plain else .quotes quotes

theorem step_placeAfter {quotes : Nat} (hquotes : quotes ≤ 2) (hc : c ≠ k.quote) :
    k.step (placeAfter quotes) c = k.plainStep (List.replicate quotes k.quote) c := by
  unfold placeAfter
  split
  · rename_i hzero
    rw [hzero]
    rfl
  · rw [step, if_neg hc, if_neg (by omega)]

theorem step_placeAfter_quote {quotes : Nat} (hlines : k.lines = true) (hquotes : quotes ≤ 3) :
    k.step (placeAfter quotes) k.quote = some (.more (placeAfter (quotes + 1)) []) := by
  unfold placeAfter
  split
  · rename_i hzero
    rw [step, plainStep, if_pos rfl, if_pos hlines, hzero]
    rfl
  · rw [step, if_pos rfl, if_neg (by omega)]
    rfl

theorem body_quotes {quotes : Nat} (hquotes : quotes = 3 ∨ quotes = 4)
    (hrest : rest.head? ≠ some k.quote) :
    k.body (.quotes quotes) rest = some (List.replicate (quotes - 3) k.quote, rest) := by
  cases rest with
  | nil => rw [body, if_pos (by omega)]
  | cons c cs =>
    have hc : c ≠ k.quote := fun hc => hrest (congrArg some hc)
    rw [body, step, if_neg hc, if_pos (by omega)]

/-- Up to two quotes before the closing ones are part of the text. -/
theorem body_closing {quotes : Nat} (hlines : k.lines = true) (hquotes : quotes ≤ 2)
    (hrest : rest.head? ≠ some k.quote) :
    k.body (placeAfter quotes) (k.quote :: k.quote :: k.quote :: rest) =
      some (List.replicate quotes k.quote, rest) := by
  rw [body_of_step (step_placeAfter_quote hlines (by omega)),
    body_of_step (step_placeAfter_quote hlines (by omega))]
  rcases Nat.lt_or_eq_of_le hquotes with hlt | rfl
  · rw [body_of_step (step_placeAfter_quote hlines (by omega)), placeAfter, if_neg (by omega),
      body_quotes (by omega) hrest]
    rfl
  · simp [body, step, placeAfter, List.replicate]

end StringKind

/-! ## Literal strings -/

theorem body_literal (hq : q ≠ '"') (hcs : ∀ c ∈ cs, c ≠ q ∧ isPlain c = true) :
    StringKind.body ⟨q, false⟩ .plain (cs ++ q :: rest) = some (cs, rest) := by
  induction cs with
  | nil => simp [StringKind.body, StringKind.step, StringKind.plainStep]
  | cons c cs ih =>
    obtain ⟨hne, hplain⟩ := hcs c List.mem_cons_self
    have hstep : StringKind.step ⟨q, false⟩ .plain c = some (.more .plain [c]) :=
      StringKind.plainStep_self hne (fun _ => decide_eq_false hq) (.inl hplain)
    rw [List.cons_append, StringKind.body_of_step hstep,
      ih fun d hd => hcs d (List.mem_cons_of_mem _ hd)]
    rfl

/-- A literal string of several lines may hold up to two quotes in a row. -/
theorem body_literalLines {k : StringKind} (hlines : k.lines = true) (hk : k.hasEscapes = false)
    (hcs : ∀ c ∈ cs, c = '\n' ∨ isPlain c = true) (hruns : longestRunFrom k.quote best run cs ≤ 2)
    (hrun : run ≤ best) (hrest : rest.head? ≠ some k.quote) :
    k.body (StringKind.placeAfter run) (cs ++ k.quote :: k.quote :: k.quote :: rest) =
      some (List.replicate run k.quote ++ cs, rest) := by
  have hle := le_longestRunFrom.trans hruns
  -- the quotes right before, `run` of them, may be text or the first of the closing ones
  induction cs generalizing best run with
  | nil =>
    rw [List.nil_append, StringKind.body_closing hlines (hrun.trans hle) hrest, List.append_nil]
  | cons c cs ih =>
    rw [longestRunFrom_cons] at hruns
    have hnext := ih (fun d hd => hcs d (List.mem_cons_of_mem _ hd)) hruns (Nat.le_max_right _ _)
      (le_longestRunFrom.trans hruns)
    by_cases hquote : c = k.quote
    · subst hquote
      rw [if_pos rfl] at hnext
      rw [List.cons_append, StringKind.body_of_step
        (StringKind.step_placeAfter_quote hlines (by omega)), hnext]
      simp [List.replicate_succ']
    · rw [if_neg hquote] at hnext
      have hstep : k.step (StringKind.placeAfter run) c =
          some (.more .plain (List.replicate run k.quote ++ [c])) := by
        rw [StringKind.step_placeAfter (hrun.trans hle) hquote]
        exact StringKind.plainStep_self hquote (fun _ => hk)
          ((hcs c List.mem_cons_self).symm.imp_right fun hc => ⟨hc, hlines⟩)
      rw [List.cons_append, StringKind.body_of_step hstep]
      change (k.body (StringKind.placeAfter 0) _).map _ = _
      rw [hnext]
      simp

/-! ## Basic strings -/

/-- The kind of the basic strings. -/
def basic (lines : Bool) : StringKind := ⟨'"', lines⟩

theorem steps_hex4 : ∀ n < 128, isControl (Char.ofNat n) = true →
    (basic false).steps .backslash ('u' :: hex4 n) = some (.plain, [Char.ofNat n]) ∧
    (basic true).steps .backslash ('u' :: hex4 n) = some (.plain, [Char.ofNat n]) := by
  decide +kernel

theorem toNat_of_isControl (hc : isControl c = true) : c.toNat < 128 := by
  simp [isControl, isPlain] at hc
  omega

theorem steps_escaped {letter : Char} (hletter : escaped? letter = some c) (lines : Bool) :
    (basic lines).steps .backslash [letter] = some (.plain, [c]) := by
  have hcode : letter ≠ 'u' ∧ letter ≠ 'U' := by
    constructor <;> rintro rfl <;> cases hletter
  have hstep : (basic lines).step .backslash letter = some (.more .plain [c]) := by
    rw [StringKind.step, if_neg hcode.1, if_neg hcode.2, hletter]
  rw [StringKind.steps, hstep]
  rfl

/-- An escape is a backslash and letters that stand for the character. -/
theorem steps_escapeControl {escape : List Char} (hescape : escapeControl? c = some escape)
    (lines : Bool) : ∃ letters, escape = '\\' :: letters ∧
      (basic lines).steps .backslash letters = some (.plain, [c]) := by
  unfold escapeControl? at hescape
  split_ifs at hescape with hb ht hf hr hs hcontrol <;> cases hescape
  · subst hb
    exact ⟨['b'], rfl, steps_escaped rfl lines⟩
  · subst ht
    exact ⟨['t'], rfl, steps_escaped rfl lines⟩
  · subst hf
    exact ⟨['f'], rfl, steps_escaped rfl lines⟩
  · subst hr
    exact ⟨['r'], rfl, steps_escaped rfl lines⟩
  · subst hs
    exact ⟨['\\'], rfl, steps_escaped rfl lines⟩
  · have hsteps := steps_hex4 c.toNat (toNat_of_isControl hcontrol)
    rw [Char.ofNat_toNat] at hsteps
    refine ⟨_, rfl, ?_⟩
    cases lines
    · exact (hsteps hcontrol).1
    · exact (hsteps hcontrol).2

/-- The closing quotes of a basic string. -/
def closing (lines : Bool) : List Char := if lines then ['"', '"', '"'] else ['"']

theorem self_of_escapeControl?_eq_none (hc : escapeControl? c = none) :
    c ≠ '\\' ∧ (isPlain c = true ∨ c = '\n') := by
  unfold escapeControl? at hc
  split_ifs at hc with hb ht hf hr hs hcontrol
  refine ⟨hs, ?_⟩
  simp only [isControl, Bool.and_eq_true, decide_eq_true_eq, Bool.not_eq_true', not_and] at hcontrol
  by_cases hbreak : c = '\n'
  · exact .inr hbreak
  · exact .inl (by simpa using hcontrol hbreak)

/-- A character is written as a quote, as an escape or as itself. -/
theorem escapeBasic_cons (lines : Bool) (quotes : Nat) (c : Char) (cs : List Char) :
    (c = '"' ∧ lines = true ∧ quotes < 2 ∧
      escapeBasic lines quotes (c :: cs) = c :: escapeBasic lines (quotes + 1) cs) ∨
    (∃ letters, (basic lines).steps .backslash letters = some (.plain, [c]) ∧
      escapeBasic lines quotes (c :: cs) = '\\' :: (letters ++ escapeBasic lines 0 cs)) ∨
    (c ≠ '"' ∧ c ≠ '\\' ∧ (isPlain c = true ∨ c = '\n' ∧ lines = true) ∧
      escapeBasic lines quotes (c :: cs) = c :: escapeBasic lines 0 cs) := by
  rw [escapeBasic]
  by_cases hquote : c = '"'
  · rw [if_pos hquote]
    by_cases hlt : quotes < if lines then 2 else 0
    · rw [if_pos hlt]
      cases lines with
      | true => exact .inl ⟨hquote, rfl, hlt, rfl⟩
      | false => exact absurd hlt (Nat.not_lt_zero _)
    · rw [if_neg hlt, hquote]
      exact .inr (.inl ⟨['"'], steps_escaped rfl lines, rfl⟩)
  · rw [if_neg hquote]
    by_cases hbreak : c = '\n' ∧ (!lines) = true
    · rw [if_pos hbreak, hbreak.1]
      exact .inr (.inl ⟨['n'], steps_escaped rfl lines, rfl⟩)
    · rw [if_neg hbreak]
      split
      · rename_i escape hescape
        obtain ⟨letters, rfl, hletters⟩ := steps_escapeControl hescape lines
        exact .inr (.inl ⟨letters, hletters, rfl⟩)
      · rename_i hself
        obtain ⟨hbackslash, hplain⟩ := self_of_escapeControl?_eq_none hself
        refine .inr (.inr ⟨hquote, hbackslash, hplain.imp_right fun hc => ⟨hc, ?_⟩, rfl⟩)
        simpa [hc] using hbreak

theorem body_escape {lines : Bool} {quotes : Nat} {letters : List Char} (hquotes : quotes ≤ 2)
    (hletters : (basic lines).steps .backslash letters = some (.plain, [c])) :
    (basic lines).body (StringKind.placeAfter quotes) ('\\' :: (letters ++ rest)) =
      ((basic lines).body .plain rest).map fun r =>
        (List.replicate quotes '"' ++ c :: r.1, r.2) := by
  have hne : '\\' ≠ (basic lines).quote := by
    show '\\' ≠ '"'
    decide
  have hstep : (basic lines).step (StringKind.placeAfter quotes) '\\' =
      some (.more .backslash (List.replicate quotes '"')) := by
    rw [StringKind.step_placeAfter hquotes hne]
    rfl
  rw [StringKind.body_of_step hstep, StringKind.body_append hletters, Option.map_map]
  rfl

/-- A basic string is read to its end, whatever it holds. -/
theorem body_escapeBasic {lines : Bool} {quotes : Nat} (hquotes : quotes ≤ if lines then 2 else 0)
    (hrest : lines = true → rest.head? ≠ some '"') :
    (basic lines).body (StringKind.placeAfter quotes)
      (escapeBasic lines quotes cs ++ (closing lines ++ rest)) =
        some (List.replicate quotes '"' ++ cs, rest) := by
  -- the writer counts the quotes right before that it left unescaped, and the reader the same ones
  induction cs generalizing quotes with
  | nil =>
    rw [escapeBasic, List.nil_append, List.append_nil]
    cases lines with
    | true => exact StringKind.body_closing rfl hquotes (hrest rfl)
    | false =>
      obtain rfl := Nat.le_zero.mp hquotes
      rfl
  | cons c cs ih =>
    have hzero : (basic lines).body .plain (escapeBasic lines 0 cs ++ (closing lines ++ rest)) =
        some (cs, rest) := ih (Nat.zero_le _)
    have hle : quotes ≤ 2 := by
      split at hquotes <;> omega
    obtain ⟨rfl, rfl, hlt, hcons⟩ | ⟨letters, hletters, hcons⟩ |
        ⟨hquote, hbackslash, hplain, hcons⟩ := escapeBasic_cons lines quotes c cs
    · have hstep : (basic true).step (StringKind.placeAfter quotes) '"' =
          some (.more (StringKind.placeAfter (quotes + 1)) []) :=
        StringKind.step_placeAfter_quote rfl (by omega)
      rw [hcons, List.cons_append, StringKind.body_of_step hstep, ih (Nat.succ_le_of_lt hlt)]
      simp [List.replicate_succ']
    · rw [hcons, List.cons_append, List.append_assoc, body_escape hle hletters, hzero]
      rfl
    · have hstep : (basic lines).step (StringKind.placeAfter quotes) c =
          some (.more .plain (List.replicate quotes '"' ++ [c])) := by
        rw [StringKind.step_placeAfter hle hquote]
        exact StringKind.plainStep_self hquote (fun hc => absurd hc hbackslash) hplain
      rw [hcons, List.cons_append, StringKind.body_of_step hstep, hzero]
      simp

/-! ## Strings of any kind -/

theorem readLineString_quote (hq : q = '"' ∨ q = '\'') : readLineString (q :: cs) =
    (StringKind.body ⟨q, false⟩ .plain cs).map fun r => (String.ofList r.1, r.2) := by
  rw [readLineString, if_pos hq]

/-- Quotes that are not tripled open a string of one line. -/
theorem readString_of_line {text : List Char} (htext : text.head? ≠ some q)
    (hrest : rest.head? ≠ some q) :
    readString (q :: (text ++ q :: rest)) = readLineString (q :: (text ++ q :: rest)) := by
  cases text with
  | nil =>
    cases rest with
    | nil => rfl
    | cons c cs =>
      have hc : c ≠ q := fun hc => hrest (congrArg some hc)
      simp [readString, hc]
  | cons d ds =>
    have hd : d ≠ q := fun hd => htext (congrArg some hd)
    cases ds with
    | nil => simp [readString, hd]
    | cons e es => simp [readString, hd]

theorem readString_of_lines (hq : q = '"' ∨ q = '\'') : readString (q :: q :: q :: cs) =
    (StringKind.body ⟨q, true⟩ .plain (dropFirstBreak cs)).map fun r =>
      (String.ofList r.1, r.2) := by
  simp [readString, hq]

theorem readLineString_writeBasic (cs rest : List Char) :
    readLineString (writeBasic cs ++ rest) = some (String.ofList cs, rest) := by
  have hbody : (basic false).body .plain (escapeBasic false 0 cs ++ (closing false ++ rest)) =
      some (cs, rest) := body_escapeBasic (Nat.zero_le _) (fun h => nomatch h)
  rw [writeBasic, List.append_assoc, List.append_assoc]
  change readLineString ('"' :: _) = _
  rw [readLineString_quote (.inl rfl)]
  change ((basic false).body .plain (escapeBasic false 0 cs ++ (closing false ++ rest))).map _ = _
  rw [hbody]
  rfl

theorem readLineString_writeLiteral (hcs : ∀ c ∈ cs, c ≠ '\'' ∧ isPlain c = true) :
    readLineString (writeLiteral cs ++ rest) = some (String.ofList cs, rest) := by
  rw [writeLiteral, List.append_assoc, List.append_assoc]
  change readLineString ('\'' :: (cs ++ '\'' :: rest)) = _
  rw [readLineString_quote (.inr rfl), body_literal (by decide) hcs]
  rfl

theorem readString_writeBasic (hrest : rest.head? ≠ some '"') :
    readString (writeBasic cs ++ rest) = some (String.ofList cs, rest) := by
  have hhead : (escapeBasic false 0 cs).head? ≠ some '"' := by
    cases cs with
    | nil => exact nofun
    | cons c cs =>
      obtain ⟨-, hlines, -⟩ | ⟨letters, -, hcons⟩ | ⟨hquote, -, -, hcons⟩ :=
        escapeBasic_cons false 0 c cs
      · cases hlines
      · rw [hcons]
        simp
      · rw [hcons]
        simpa using hquote
  have hline := readString_of_line hhead hrest
  rw [← readLineString_writeBasic cs rest, writeBasic, List.append_assoc, List.append_assoc]
  exact hline

theorem readString_writeLiteral (hcs : ∀ c ∈ cs, c ≠ '\'' ∧ isPlain c = true)
    (hrest : rest.head? ≠ some '\'') :
    readString (writeLiteral cs ++ rest) = some (String.ofList cs, rest) := by
  have hhead : cs.head? ≠ some '\'' := fun hhead => (hcs _ (List.mem_of_head? hhead)).1 rfl
  have hline := readString_of_line hhead hrest
  rw [← readLineString_writeLiteral hcs, writeLiteral, List.append_assoc, List.append_assoc]
  exact hline

theorem dropFirstBreak_cons (hc : c ≠ '\n' ∧ c ≠ '\r') : dropFirstBreak (c :: cs) = c :: cs := by
  unfold dropFirstBreak
  split
  · rename_i heq
    exact absurd (List.cons.inj heq).1 hc.1
  · rename_i heq
    exact absurd (List.cons.inj heq).1 hc.2
  · rfl

/-- A string in tripled quotes, whose first line is empty when the text has several. -/
theorem readString_writeLines {newline : Bool} {text : List Char} (hq : q = '"' ∨ q = '\'')
    (htext : newline = false → ∀ c ∈ text.head?, c ≠ '\n' ∧ c ≠ '\r')
    (hbody : StringKind.body ⟨q, true⟩ .plain (text ++ q :: q :: q :: rest) = some (cs, rest)) :
    readString (writeLines q newline text ++ rest) = some (String.ofList cs, rest) := by
  have hbreak : dropFirstBreak ((if newline then ['\n'] else []) ++ (text ++ q :: q :: q :: rest)) =
      text ++ q :: q :: q :: rest := by
    cases newline with
    | true => rfl
    | false =>
      cases text with
      | nil =>
        refine dropFirstBreak_cons ?_
        rcases hq with rfl | rfl <;> decide
      | cons c cs => exact dropFirstBreak_cons (htext rfl c rfl)
  have hopen : readString
      (q :: q :: q :: ((if newline then ['\n'] else []) ++ (text ++ q :: q :: q :: rest))) = _ :=
    readString_of_lines hq
  rw [hbreak, hbody] at hopen
  rw [writeLines]
  simpa using hopen

theorem head?_escapeBasic (hcs : '\n' ∉ cs) :
    ∀ c ∈ (escapeBasic true 0 cs).head?, c ≠ '\n' ∧ c ≠ '\r' := by
  cases cs with
  | nil => exact nofun
  | cons c cs =>
    obtain ⟨rfl, -, -, hcons⟩ | ⟨letters, -, hcons⟩ | ⟨-, -, hplain, hcons⟩ :=
        escapeBasic_cons true 0 c cs
    · rw [hcons]
      simp
    · rw [hcons]
      simp
    · have hbreak : c ≠ '\n' := fun hc => hcs (hc ▸ List.mem_cons_self)
      have hplain : isPlain c = true := hplain.resolve_right fun hc => hbreak hc.1
      have hreturn : c ≠ '\r' := by
        rintro rfl
        revert hplain
        decide
      rw [hcons]
      simpa using ⟨hbreak, hreturn⟩

theorem StringTraits.self_of_control (hcs : (StringTraits.of cs).control = false) :
    ∀ c ∈ cs, c = '\n' ∨ isPlain c = true := by
  intro c hc
  have hself : isControl c = false := Bool.eq_false_iff.mpr (List.any_eq_false.mp hcs c hc)
  exact Decidable.or_iff_not_imp_left.mpr (by simpa [isControl] using hself)

theorem StringTraits.not_mem_of_newline (hcs : (StringTraits.of cs).newline = false) :
    '\n' ∉ cs := by
  intro hmem
  rw [StringTraits.of, List.contains_iff_mem.mpr hmem] at hcs
  cases hcs

theorem StringTraits.not_mem_of_singles (hcs : (StringTraits.of cs).singles = 0) : '\'' ∉ cs :=
  not_mem_of_longestRunFrom hcs

theorem plain_of_traits (hcontrol : (StringTraits.of cs).control = false)
    (hsingles : (StringTraits.of cs).singles = 0) (hnewline : (StringTraits.of cs).newline = false) :
    ∀ c ∈ cs, c ≠ '\'' ∧ isPlain c = true := by
  intro c hc
  refine ⟨fun hquote => StringTraits.not_mem_of_singles hsingles (hquote ▸ hc), ?_⟩
  refine (StringTraits.self_of_control hcontrol c hc).resolve_left fun hbreak => ?_
  exact StringTraits.not_mem_of_newline hnewline (hbreak ▸ hc)

theorem readString_basicLines (hrest : rest.head? ≠ some '"') :
    readString (writeLines '"' (StringTraits.of cs).newline (escapeBasic true 0 cs) ++ rest) =
      some (String.ofList cs, rest) := by
  have hbody : (basic true).body .plain (escapeBasic true 0 cs ++ '"' :: '"' :: '"' :: rest) =
      some (cs, rest) := body_escapeBasic (Nat.zero_le _) fun _ => hrest
  exact readString_writeLines (.inl rfl)
    (fun hnewline => head?_escapeBasic (StringTraits.not_mem_of_newline hnewline)) hbody

theorem readString_literalLines (hcontrol : (StringTraits.of cs).control = false)
    (hsingles : (StringTraits.of cs).singles ≤ 2) (hrest : rest.head? ≠ some '\'') :
    readString (writeLines '\'' (StringTraits.of cs).newline cs ++ rest) =
      some (String.ofList cs, rest) := by
  have hself := StringTraits.self_of_control hcontrol
  have hruns : longestRunFrom '\'' 0 0 cs ≤ 2 := hsingles
  have hbody : StringKind.body ⟨'\'', true⟩ (StringKind.placeAfter 0)
      (cs ++ '\'' :: '\'' :: '\'' :: rest) = some (cs, rest) :=
    body_literalLines rfl rfl hself hruns (Nat.le_refl 0) hrest
  refine readString_writeLines (.inr rfl) (fun hnewline c hc => ?_) hbody
  have hmem := List.mem_of_mem_head? hc
  refine ⟨fun hbreak => StringTraits.not_mem_of_newline hnewline (hbreak ▸ hmem), ?_⟩
  rintro rfl
  exact absurd (hself _ hmem) (by decide)

/-- A written string is read back, in whichever quotes it was written. -/
theorem readString_writeString (s : String)
    (hrest : rest.head? ≠ some '"' ∧ rest.head? ≠ some '\'') :
    readString ((writeString s).toList ++ rest) = some (s, rest) := by
  unfold writeString
  extract_lets cs t
  rw [String.toList_ofList]
  have hs : String.ofList cs = s := String.ofList_toList
  split
  · rw [readString_writeBasic hrest.1, hs]
  split
  · rename_i hliteral
    simp only [Bool.and_eq_true, Bool.not_eq_true', beq_iff_eq] at hliteral
    obtain ⟨⟨hcontrol, hsingles⟩, hnewline⟩ := hliteral
    rw [readString_writeLiteral (plain_of_traits hcontrol hsingles hnewline) hrest.2, hs]
  split
  · rw [readString_basicLines hrest.1, hs]
  split
  · rename_i hlines
    simp only [Bool.and_eq_true, Bool.not_eq_true', decide_eq_true_eq] at hlines
    rw [readString_literalLines hlines.1 hlines.2 hrest.2, hs]
  split
  · rw [readString_basicLines hrest.1, hs]
  · rw [readString_writeBasic hrest.1, hs]

/-! ## Keys -/

theorem readName_quote (hq : q = '"' ∨ q = '\'') :
    readName (q :: cs) = readLineString (q :: cs) := by
  simp [readName, hq]

theorem readName_bare (hcs : cs ≠ [] ∧ ∀ c ∈ cs, isBareKeyChar c = true)
    (hrest : ∀ c ∈ rest.head?, isBareKeyChar c = false) :
    readName (cs ++ rest) = some (String.ofList cs, rest) := by
  have htaken : (cs ++ rest).takeWhile isBareKeyChar = cs := by
    rw [List.takeWhile_append_of_pos hcs.2]
    cases rest with
    | nil => simp
    | cons c rest => simp [hrest c rfl]
  obtain ⟨c, tail, rfl⟩ := List.exists_cons_of_ne_nil hcs.1
  have hquote : ¬ (c = '"' ∨ c = '\'') := by
    rintro (rfl | rfl) <;> exact absurd (hcs.2 _ List.mem_cons_self) (by decide)
  rw [List.cons_append] at htaken ⊢
  rw [readName, if_neg hquote]
  simp only [htaken]
  simp

theorem readName_writeBasic : readName (writeBasic cs ++ rest) = some (String.ofList cs, rest) := by
  rw [← readLineString_writeBasic cs rest]
  exact readName_quote (.inl rfl)

theorem readName_writeLiteral (hcs : ∀ c ∈ cs, c ≠ '\'' ∧ isPlain c = true) :
    readName (writeLiteral cs ++ rest) = some (String.ofList cs, rest) := by
  rw [← readLineString_writeLiteral hcs]
  exact readName_quote (.inr rfl)

/-- A written key is read back. -/
theorem readName_writeKey (key : String) (hrest : ∀ c ∈ rest.head?, isBareKeyChar c = false) :
    readName ((writeKey key).toList ++ rest) = some (key, rest) := by
  unfold writeKey
  extract_lets cs t control
  have hkey : String.ofList cs = key := String.ofList_toList
  split
  · rename_i hbare
    simp only [Bool.and_eq_true, Bool.not_eq_true', List.isEmpty_eq_false_iff, List.all_eq_true]
      at hbare
    rw [show key.toList = cs from rfl, readName_bare hbare hrest, hkey]
  rw [String.toList_ofList]
  split
  · rw [readName_writeBasic, hkey]
  split
  · rename_i hliteral
    simp only [control, Bool.and_eq_true, Bool.not_eq_true', Bool.or_eq_false_iff, beq_iff_eq]
      at hliteral
    obtain ⟨⟨hcontrol, hnewline⟩, hsingles⟩ := hliteral
    rw [readName_writeLiteral (plain_of_traits hcontrol hsingles hnewline), hkey]
  · rw [readName_writeBasic, hkey]

end SettingsForm.Toml
