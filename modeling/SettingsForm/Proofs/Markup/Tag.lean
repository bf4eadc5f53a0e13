import SettingsForm.Markup.Document
import Mathlib.Data.List.TakeWhile

/-!
# Written tags

How text, attribute values and the content of a tag are written so that reading gives them back. In
text and values every character that markup uses itself is written as a reference (`escape`), and
`resolve_escape` undoes that. A tag is its name and, after white space each, its attributes
(`TagWritten`); the whole of it is passed over without a token (`TagWritten.passes`) and is then read
as the element with that name and these attributes (`TagWritten.elementOf`).
-/

namespace SettingsForm.Markup

/-! ## References -/

/-- The characters for which a text has a reference. -/
def markupChars : List Char := ['&', '<', '>', '"', '\'']

/-- The reference to a character that markup uses itself, any other character as it is. -/
def escapeChar (c : Char) : List Char :=
  if c = '&' then ['&', 'a', 'm', 'p', ';']
  else if c = '<' then ['&', 'l', 't', ';']
  else if c = '>' then ['&', 'g', 't', ';']
  else if c = '"' then ['&', 'q', 'u', 'o', 't', ';']
  else if c = '\'' then ['&', 'a', 'p', 'o', 's', ';']
  else [c]

/-- The text with a reference for every character that markup uses itself. -/
def escape (cs : List Char) : List Char := cs.flatMap escapeChar

@[simp] theorem escape_nil : escape [] = [] := rfl

@[simp] theorem escape_cons (c : Char) (cs : List Char) :
    escape (c :: cs) = escapeChar c ++ escape cs := rfl

theorem escapeChar_of_not_mem {c : Char} (hc : c ∉ markupChars) : escapeChar c = [c] := by
  simp only [markupChars, List.mem_cons, List.not_mem_nil, or_false, not_or] at hc
  obtain ⟨h₁, h₂, h₃, h₄, h₅⟩ := hc
  rw [escapeChar, if_neg h₁, if_neg h₂, if_neg h₃, if_neg h₄, if_neg h₅]

theorem escape_eq_self {cs : List Char} (hcs : ∀ c ∈ cs, c ∉ markupChars) : escape cs = cs := by
  induction cs with
  | nil => rfl
  | cons c cs ih =>
    rw [escape_cons, escapeChar_of_not_mem (hcs c List.mem_cons_self),
      ih fun d hd => hcs d (List.mem_cons_of_mem _ hd)]
    rfl

theorem escapeChar_ne_nil (c : Char) : escapeChar c ≠ [] := by
  unfold escapeChar
  split_ifs <;> simp

theorem escape_eq_nil {cs : List Char} : escape cs = [] ↔ cs = [] := by
  cases cs with
  | nil => simp
  | cons c cs => simp [escapeChar_ne_nil c]

theorem mem_reference : ∀ d ∈ markupChars, ∀ c ∈ escapeChar d,
    c ≠ '<' ∧ c ≠ '>' ∧ c ≠ '"' ∧ c ≠ '\'' := by
  simp [markupChars, escapeChar]

/-- An escaped text holds no bracket and no quote. -/
theorem mem_escape {c : Char} {cs : List Char} (hc : c ∈ escape cs) :
    c ≠ '<' ∧ c ≠ '>' ∧ c ≠ '"' ∧ c ≠ '\'' := by
  obtain ⟨d, -, hd⟩ := List.mem_flatMap.mp hc
  by_cases hmarkup : d ∈ markupChars
  · exact mem_reference d hmarkup c hd
  · rw [escapeChar_of_not_mem hmarkup] at hd
    obtain rfl := List.mem_singleton.mp hd
    simp only [markupChars, List.mem_cons, List.not_mem_nil, or_false, not_or] at hmarkup
    exact hmarkup.2

/-- A value can be escaped within quotes of either kind. -/
theorem ne_quote_of_mem_escape {quote : Char} (hquote : quote = '"' ∨ quote = '\'')
    (cs : List Char) : ∀ c ∈ escape cs, c ≠ quote := by
  intro c hc
  obtain ⟨-, -, hdouble, hsingle⟩ := mem_escape hc
  rcases hquote with rfl | rfl
  · exact hdouble
  · exact hsingle

theorem resolveFrom_escapeChar (total position : Nat) (c : Char) (rest : List Char) :
    resolveFrom total position none (escapeChar c ++ rest) =
      (resolveFrom total (position + byteLength (escapeChar c)) none rest).map (c :: ·) := by
  unfold escapeChar
  split_ifs with h₁ h₂ h₃ h₄ h₅
  case neg => simp [resolveFrom, byteLength, h₁]
  all_goals
    subst c
    simp [resolveFrom, referent, entity?, byteLength, Nat.add_assoc]

theorem resolveFrom_escape (total position : Nat) (cs : List Char) :
    resolveFrom total position none (escape cs) = .ok cs := by
  induction cs generalizing position with
  | nil => rfl
  | cons c cs ih =>
    rw [escape_cons, resolveFrom_escapeChar, ih]
    rfl

/-- A text is what its escaped form stands for. -/
theorem resolve_escape (cs : List Char) : resolve (escape cs) = .ok cs :=
  resolveFrom_escape _ _ cs

/-! ## Passing over characters -/

/-- Reading the characters leads from one place to another and completes no token. -/
inductive Place.Passes : Place → List Char → Place → Prop where
  | nil (p : Place) : Passes p [] p
  | cons {p q r : Place} {c : Char} {cs : List Char} (hstep : p.step c = .ok (q, none))
      (hrest : Passes q cs r) : Passes p (c :: cs) r

namespace Place

variable {p q r : Place} {cs ds seen : List Char} {closing : Bool}

theorem Passes.append (hcs : p.Passes cs q) (hds : q.Passes ds r) : p.Passes (cs ++ ds) r := by
  induction hcs with
  | nil => exact hds
  | cons hstep _ ih => exact .cons hstep (ih hds)

/-- Characters that are collected one by one are passed over. -/
theorem passes_collected (place : List Char → Place)
    (hcs : ∀ c ∈ cs, ∀ seen, (place seen).step c = .ok (place (c :: seen), none)) :
    (place seen).Passes cs (place (cs.reverse ++ seen)) := by
  induction cs generalizing seen with
  | nil => exact .nil _
  | cons c cs ih =>
    obtain ⟨hc, hcs⟩ := List.forall_mem_cons.mp hcs
    rw [List.reverse_cons, List.append_assoc]
    exact .cons (hc seen) (ih hcs)

theorem passes_text (hcs : ∀ c ∈ cs, c ≠ '<') :
    (inText seen).Passes cs (.inText (cs.reverse ++ seen)) :=
  passes_collected inText fun c hc _ => if_neg (hcs c hc)

theorem passes_tag (hcs : ∀ c ∈ cs, c ≠ '>' ∧ c ≠ '"' ∧ c ≠ '\'') :
    (inTag closing none seen).Passes cs (.inTag closing none (cs.reverse ++ seen)) := by
  refine passes_collected (inTag closing none) fun c hc seen => ?_
  obtain ⟨hend, hdouble, hsingle⟩ := hcs c hc
  simp [step, stepTag, hend, hdouble, hsingle]

theorem passes_quoted {quote : Char} (hcs : ∀ c ∈ cs, c ≠ quote) :
    (inTag closing (some quote) seen).Passes cs
      (.inTag closing (some quote) (cs.reverse ++ seen)) := by
  refine passes_collected (inTag closing (some quote)) fun c hc seen => ?_
  simp [step, stepTag, hcs c hc]

/-- A quoted value is passed over as a whole. -/
theorem passes_value {quote : Char} (hquote : quote = '"' ∨ quote = '\'')
    (hcs : ∀ c ∈ cs, c ≠ quote) : (inTag closing none seen).Passes (quote :: cs ++ [quote])
      (.inTag closing none ((quote :: cs ++ [quote]).reverse ++ seen)) := by
  have hopen : (inTag closing none seen).step quote =
      .ok (.inTag closing (some quote) (quote :: seen), none) := by
    rcases hquote with rfl | rfl <;> simp [step, stepTag]
  have hclose : (inTag closing (some quote) (cs.reverse ++ quote :: seen)).Passes [quote]
      (.inTag closing none (quote :: (cs.reverse ++ quote :: seen))) :=
    .cons (by simp [step, stepTag]) (.nil _)
  have hvalue := Passes.cons hopen ((passes_quoted hcs).append hclose)
  simpa using hvalue

end Place

theorem Reading.run_of_passes {p q : Place} {cs : List Char} (hcs : p.Passes cs q)
    (opened : List String) (t : Tree) (rest : List Char) :
    Reading.run ⟨p, opened, t⟩ (cs ++ rest) = Reading.run ⟨q, opened, t⟩ rest := by
  induction hcs with
  | nil => rfl
  | cons hstep _ ih =>
    rw [List.cons_append, Reading.run, Reading.step, hstep]
    exact ih

/-! ## Names and attributes -/

/-- A character that can stand in a name. -/
def isNameChar (c : Char) : Bool :=
  !isTagSpace c && c ≠ '"' && c ≠ '\'' && c ≠ '<' && c ≠ '>' && c ≠ '/' && c ≠ '='

/-- A text that can be the key of an attribute. -/
structure IsKey (key : String) : Prop where
  ne_empty : key ≠ ""
  plain : ∀ c ∈ key.toList, isNameChar c = true

/-- A text that can be the name of an element: it must not look like a declaration or an
instruction. -/
structure IsName (name : String) : Prop extends IsKey name where
  no_mark : name.toList.head? ≠ some '!'
  no_question : name.toList.head? ≠ some '?'

instance : DecidablePred IsKey := fun key =>
  decidable_of_iff (key ≠ "" ∧ key.toList.all isNameChar = true)
    ⟨fun h => ⟨h.1, List.all_eq_true.mp h.2⟩, fun h => ⟨h.ne_empty, List.all_eq_true.mpr h.plain⟩⟩

instance : DecidablePred IsName := fun name =>
  decidable_of_iff (IsKey name ∧ name.toList.head? ≠ some '!' ∧ name.toList.head? ≠ some '?')
    ⟨fun h => ⟨h.1, h.2.1, h.2.2⟩, fun h => ⟨h.toIsKey, h.no_mark, h.no_question⟩⟩

/-- The text is one way to write the attributes: white space before each, and the value in quotes of
either kind. -/
inductive AttributesWritten : List (String × String) → List Char → Prop where
  | nil : AttributesWritten [] []
  | cons {key value : String} {attributes : List (String × String)} {space rest : List Char}
      {quote : Char} (hne : space ≠ []) (hspace : ∀ c ∈ space, isTagSpace c = true)
      (hquote : quote = '"' ∨ quote = '\'') (hrest : AttributesWritten attributes rest) :
      AttributesWritten ((key, value) :: attributes)
        (space ++ key.toList ++ '=' :: (quote :: escape value.toList ++ [quote]) ++ rest)

/-- The content of a tag with the name and the attributes, without its brackets and slashes. -/
def TagWritten (name : String) (attributes : List (String × String)) (tag : List Char) : Prop :=
  ∃ text, AttributesWritten attributes text ∧ tag = name.toList ++ text

theorem exists_tagWritten (name : String) (attributes : List (String × String)) :
    ∃ tag, TagWritten name attributes tag := by
  suffices ∃ text, AttributesWritten attributes text by
    obtain ⟨text, htext⟩ := this
    exact ⟨_, text, htext, rfl⟩
  induction attributes with
  | nil => exact ⟨[], .nil⟩
  | cons a attributes ih =>
    obtain ⟨rest, hrest⟩ := ih
    exact ⟨_, .cons (List.cons_ne_nil ' ' []) (List.forall_mem_singleton.mpr rfl) (.inl rfl) hrest⟩

theorem isNameChar_iff {c : Char} : isNameChar c = true ↔ isTagSpace c = false ∧
    c ≠ '"' ∧ c ≠ '\'' ∧ c ≠ '<' ∧ c ≠ '>' ∧ c ≠ '/' ∧ c ≠ '=' := by
  simp [isNameChar, and_assoc]

theorem IsKey.toList_ne_nil {key : String} (hkey : IsKey key) : key.toList ≠ [] :=
  fun h => hkey.ne_empty (String.toList_eq_nil_iff.mp h)

/-- A name is passed over inside a tag. -/
theorem IsKey.passes {key : String} (hkey : IsKey key) {closing : Bool} {seen : List Char} :
    (Place.inTag closing none seen).Passes key.toList
      (.inTag closing none (key.toList.reverse ++ seen)) := by
  refine Place.passes_tag fun c hc => ?_
  obtain ⟨-, hdouble, hsingle, -, hend, -⟩ := isNameChar_iff.mp (hkey.plain c hc)
  exact ⟨hend, hdouble, hsingle⟩

theorem isTagSpace_iff {c : Char} :
    isTagSpace c = true ↔ c = ' ' ∨ c = '\t' ∨ c = '\r' ∨ c = '\n' := by
  simp [isTagSpace, or_assoc]

theorem passes_space {space seen : List Char} {closing : Bool}
    (hspace : ∀ c ∈ space, isTagSpace c = true) : (Place.inTag closing none seen).Passes space
      (.inTag closing none (space.reverse ++ seen)) := by
  refine Place.passes_tag fun c hc => ?_
  rcases isTagSpace_iff.mp (hspace c hc) with rfl | rfl | rfl | rfl <;> decide

theorem AttributesWritten.passes {attributes : List (String × String)} {text seen : List Char}
    (htext : AttributesWritten attributes text) (hkeys : ∀ a ∈ attributes, IsKey a.1) :
    (Place.inTag false none seen).Passes text (.inTag false none (text.reverse ++ seen)) := by
  induction htext generalizing seen with
  | nil => exact .nil _
  | @cons key value attributes space rest quote _ hspace hquote _ ih =>
    obtain ⟨hkey, hkeys⟩ := List.forall_mem_cons.mp hkeys
    have hequals : ∀ c ∈ ['='], c ≠ '>' ∧ c ≠ '"' ∧ c ≠ '\'' := by simp
    have hbefore : (Place.inTag false none seen).Passes (space ++ key.toList ++ ['=']) _ :=
      ((passes_space hspace).append hkey.passes).append (Place.passes_tag hequals)
    have hvalue := ne_quote_of_mem_escape hquote value.toList
    have hpasses := (hbefore.append (Place.passes_value hquote hvalue)).append (ih hkeys)
    simpa using hpasses

/-! ## Attributes read -/

namespace AttributeReading

variable {found : List Attribute} {position start : Nat} {cs seen rest : List Char}

theorem run_cons {r next : AttributeReading} {c : Char} (hstep : r.step position c = .ok next) :
    r.run position (c :: rest) = next.run (position + c.utf8Size) rest := by
  rw [run, hstep]

/-- Characters that are collected one by one are read up to what follows. -/
theorem run_collected (reading : List Char → AttributeReading)
    (hcs : ∀ c ∈ cs, ∀ seen position, (reading seen).step position c = .ok (reading (c :: seen)))
    (seen : List Char) :
    (reading seen).run position (cs ++ rest) =
      (reading (cs.reverse ++ seen)).run (position + byteLength cs) rest := by
  induction cs generalizing position seen with
  | nil => rfl
  | cons c cs ih =>
    obtain ⟨hc, hcs⟩ := List.forall_mem_cons.mp hcs
    rw [List.cons_append, run_cons (hc seen position), ih hcs, byteLength, Nat.add_assoc,
      List.reverse_cons, List.append_assoc]
    rfl

theorem run_space (hcs : ∀ c ∈ cs, isTagSpace c = true) :
    run ⟨.between, found⟩ position (cs ++ rest) =
      run ⟨.between, found⟩ (position + byteLength cs) rest :=
  -- nothing is kept of white space
  run_collected (fun _ => ⟨.between, found⟩) (fun c hc _ _ => if_pos (hcs c hc)) []

theorem run_inKey (hcs : ∀ c ∈ cs, isNameChar c = true) :
    run ⟨.inKey start seen, found⟩ position (cs ++ rest) =
      run ⟨.inKey start (cs.reverse ++ seen), found⟩ (position + byteLength cs) rest := by
  refine run_collected (fun seen => ⟨.inKey start seen, found⟩) (fun c hc seen position => ?_) seen
  obtain ⟨hspace, -, -, -, -, -, hequals⟩ := isNameChar_iff.mp (hcs c hc)
  simp [step, hspace, hequals]

theorem run_inValue {key : List Char} {quote : Char} (hcs : ∀ c ∈ cs, c ≠ quote) :
    run ⟨.inValue start key quote seen, found⟩ position (cs ++ rest) =
      run ⟨.inValue start key quote (cs.reverse ++ seen), found⟩ (position + byteLength cs) rest :=
  run_collected (fun seen => ⟨.inValue start key quote seen, found⟩)
    (fun c hc _ _ => if_neg (hcs c hc)) seen

/-- A key that was not given before is read up to its equals sign. -/
theorem run_key (position : Nat) (rest : List Char) {key : String} (hkey : IsKey key)
    (hnew : ∀ a ∈ found, a.key ≠ key.toList) :
    ∃ next, run ⟨.between, found⟩ position (key.toList ++ '=' :: rest) =
      run ⟨.beforeValue position key.toList, found⟩ next rest := by
  obtain ⟨c, cs, hcs⟩ := List.exists_cons_of_ne_nil hkey.toList_ne_nil
  have hplain := hkey.plain
  rw [hcs] at hplain hnew ⊢
  obtain ⟨hc, hplain⟩ := List.forall_mem_cons.mp hplain
  have hfirst : step ⟨.between, found⟩ position c = .ok ⟨.inKey position [c], found⟩ := by
    simp [step, (isNameChar_iff.mp hc).1]
  have haccept : acceptKey ⟨.inKey position (cs.reverse ++ [c]), found⟩ position (c :: cs) =
      .ok ⟨.beforeValue position (c :: cs), found⟩ := by
    have hnone : found.find? (fun a => a.key = c :: cs) = none := by
      simpa using hnew
    simp only [acceptKey, hnone]
  have hequals (p : Nat) : step ⟨.inKey position (cs.reverse ++ [c]), found⟩ p '=' =
      .ok ⟨.beforeValue position (c :: cs), found⟩ := by
    simpa [step] using haccept
  refine ⟨position + c.utf8Size + byteLength cs + '='.utf8Size, ?_⟩
  rw [List.cons_append, run_cons hfirst, run_inKey hplain, run_cons (hequals _)]

/-- An escaped value between quotes of its own is read as it was. -/
theorem run_value (start position : Nat) (found : List Attribute) (key value rest : List Char)
    {quote : Char} (hquote : quote = '"' ∨ quote = '\'') :
    ∃ next, run ⟨.beforeValue start key, found⟩ position
        (quote :: escape value ++ [quote] ++ rest) =
      run ⟨.between, ⟨start, key, value⟩ :: found⟩ next rest := by
  have hopen : step ⟨.beforeValue start key, found⟩ position quote =
      .ok ⟨.inValue start key quote [], found⟩ := by
    rcases hquote with rfl | rfl <;> simp [step, isTagSpace]
  have hclose (p : Nat) : step ⟨.inValue start key quote ((escape value).reverse ++ []), found⟩ p
      quote = .ok ⟨.between, ⟨start, key, value⟩ :: found⟩ := by
    simp [step, resolve_escape]
  refine ⟨position + quote.utf8Size + byteLength (escape value) + quote.utf8Size, ?_⟩
  rw [List.append_assoc, List.cons_append, run_cons hopen,
    run_inValue (ne_quote_of_mem_escape hquote value), List.singleton_append, run_cons (hclose _)]

end AttributeReading

/-- Written attributes are read in their order, after those found before. -/
theorem AttributesWritten.run {attributes : List (String × String)} {text : List Char}
    (htext : AttributesWritten attributes text) (hkeys : ∀ a ∈ attributes, IsKey a.1)
    (hdistinct : (attributes.map Prod.fst).Nodup) (found : List Attribute)
    (hnew : ∀ a ∈ found, ∀ b ∈ attributes, a.key ≠ b.1.toList) (position : Nat) :
    ∃ read, AttributeReading.run ⟨.between, found⟩ position text = .ok (found.reverse ++ read) ∧
      read.map (fun a => (String.ofList a.key, String.ofList a.value)) = attributes := by
  induction htext generalizing found position with
  | nil => exact ⟨[], by rw [List.append_nil]; rfl, rfl⟩
  | @cons key value attributes space rest quote _ hspace hquote _ ih =>
    obtain ⟨hkey, hkeys⟩ := List.forall_mem_cons.mp hkeys
    obtain ⟨hfresh, hdistinct⟩ := List.nodup_cons.mp hdistinct
    let first : Attribute := ⟨position + byteLength space, key.toList, value.toList⟩
    have hkeyNew : ∀ a ∈ found, a.key ≠ key.toList :=
      fun a ha => hnew a ha (key, value) List.mem_cons_self
    have hlaterNew : ∀ a ∈ first :: found, ∀ b ∈ attributes, a.key ≠ b.1.toList := by
      intro a ha b hb
      rcases List.mem_cons.mp ha with rfl | ha
      · exact fun heq => hfresh (List.mem_map.mpr ⟨b, hb, String.toList_inj.mp heq.symm⟩)
      · exact hnew a ha b (List.mem_cons_of_mem _ hb)
    obtain ⟨afterKey, hrunKey⟩ := AttributeReading.run_key first.position
      (quote :: escape value.toList ++ [quote] ++ rest) hkey hkeyNew
    obtain ⟨afterValue, hrunValue⟩ :=
      AttributeReading.run_value first.position afterKey found key.toList value.toList rest hquote
    obtain ⟨read, hrun, hread⟩ := ih hkeys hdistinct (first :: found) hlaterNew afterValue
    refine ⟨first :: read, ?_, by simp [first, hread]⟩
    rw [List.append_assoc, List.append_assoc, AttributeReading.run_space hspace, List.cons_append,
      hrunKey, hrunValue, hrun, List.reverse_cons, List.append_assoc]
    rfl

/-! ## Tags read -/

section TagWritten

variable {name : String} {attributes : List (String × String)} {tag : List Char}

theorem AttributesWritten.eq_nil_or_space {text : List Char}
    (htext : AttributesWritten attributes text) :
    text = [] ∨ ∃ c rest, text = c :: rest ∧ isTagSpace c = true := by
  cases htext with
  | nil => exact .inl rfl
  | @cons _ _ _ space _ _ hne hspace _ _ =>
    obtain ⟨c, cs, rfl⟩ := List.exists_cons_of_ne_nil hne
    exact .inr ⟨c, _, rfl, hspace c List.mem_cons_self⟩

theorem AttributesWritten.eq_nil_or_quote {text : List Char}
    (htext : AttributesWritten attributes text) :
    text = [] ∨ ∃ quote, (quote = '"' ∨ quote = '\'') ∧ text.getLast? = some quote := by
  induction htext with
  | nil => exact .inl rfl
  | @cons _ _ _ _ rest quote _ _ hquote _ ih =>
    right
    rcases ih with rfl | ⟨last, hlast, hrest⟩
    · refine ⟨quote, hquote, ?_⟩
      rw [List.append_nil, ← List.cons_append, ← List.append_assoc]
      exact List.getLast?_concat
    · exact ⟨last, hlast, by rw [List.getLast?_append, hrest]; rfl⟩

theorem TagWritten.tagName (htag : TagWritten name attributes tag) (hname : IsKey name) :
    tagName tag = name.toList := by
  obtain ⟨text, htext, rfl⟩ := htag
  have hplain : ∀ c ∈ name.toList, (!isTagSpace c) = true := fun c hc => by
    rw [(isNameChar_iff.mp (hname.plain c hc)).1]
    rfl
  rw [Markup.tagName, List.takeWhile_append_of_pos hplain]
  rcases htext.eq_nil_or_space with rfl | ⟨c, rest, rfl, hc⟩
  · simp
  · simp [hc]

/-- The content of a tag ends with no slash, so it is not that of an empty tag. -/
theorem TagWritten.tagToken (htag : TagWritten name attributes tag) (hname : IsKey name) :
    tagToken false tag = .openTag tag := by
  have hlast : tag.getLast? ≠ some '/' := by
    obtain ⟨text, htext, rfl⟩ := htag
    rw [List.getLast?_append]
    rcases htext.eq_nil_or_quote with rfl | ⟨quote, hquote, hlast⟩
    · intro hslash
      have hplain := isNameChar_iff.mp (hname.plain '/' (List.mem_of_getLast? hslash))
      exact hplain.2.2.2.2.2.1 rfl
    · rw [hlast]
      rcases hquote with rfl | rfl <;> simp
  unfold Markup.tagToken
  rw [if_neg Bool.false_ne_true]
  split
  · rename_i rest hreverse
    refine absurd ?_ hlast
    rw [← List.head?_reverse, hreverse]
    rfl
  · rfl

theorem IsKey.closeToken (hname : IsKey name) :
    Markup.tagToken true name.toList = .closeTag name.toList := by
  have hkept : name.toList.reverse.dropWhile isTagSpace = name.toList.reverse := by
    rw [List.dropWhile_eq_self_iff]
    intro hne
    have hplain := hname.plain _ (List.mem_reverse.mp (List.getElem_mem hne))
    rw [(isNameChar_iff.mp hplain).1]
    exact Bool.false_ne_true
  have hne : name.toList.isEmpty = false := List.isEmpty_eq_false_iff.mpr hname.toList_ne_nil
  simp [Markup.tagToken, hkept, hne]

/-- A written tag is read as the element with its name and attributes. -/
theorem TagWritten.elementOf (htag : TagWritten name attributes tag) (hname : IsKey name)
    (hkeys : ∀ a ∈ attributes, IsKey a.1) (hdistinct : (attributes.map Prod.fst).Nodup) :
    Tree.elementOf tag = .ok ⟨name, attributes, []⟩ := by
  have htagName := htag.tagName hname
  obtain ⟨text, htext, rfl⟩ := htag
  obtain ⟨read, hrun, hread⟩ := htext.run hkeys hdistinct [] nofun (byteLength name.toList)
  rw [Tree.elementOf, readAttributes]
  simp only [htagName, List.drop_left, AttributeReading.start, hrun, List.reverse_nil,
    List.nil_append, hread, String.ofList_toList]

/-- A written tag is passed over after its opening bracket. -/
theorem TagWritten.passes (htag : TagWritten name attributes tag) (hname : IsName name)
    (hkeys : ∀ a ∈ attributes, IsKey a.1) :
    Place.afterAngle.Passes tag (.inTag false none tag.reverse) := by
  obtain ⟨text, htext, rfl⟩ := htag
  have hpasses : (Place.inTag false none []).Passes (name.toList ++ text) _ :=
    hname.toIsKey.passes.append (htext.passes hkeys)
  obtain ⟨c, cs, hcs⟩ := List.exists_cons_of_ne_nil hname.toIsKey.toList_ne_nil
  have hmark := hname.no_mark
  have hquestion := hname.no_question
  have hplain := isNameChar_iff.mp (hname.plain c (by rw [hcs]; exact List.mem_cons_self))
  rw [hcs] at hpasses hmark hquestion ⊢
  simp only [List.head?_cons, ne_eq, Option.some.injEq] at hmark hquestion
  -- the first character of a name makes the bracket that of a tag
  cases hpasses with
  | cons hstep hrest =>
    refine .cons ?_ (by simpa using hrest)
    rw [← hstep]
    simp [Place.step, hmark, hquestion, hplain.2.2.2.2.2.1]

end TagWritten

end SettingsForm.Markup
