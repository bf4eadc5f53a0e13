import SettingsForm.Proofs.Markup.Content

/-!
# Open tags and open elements

The names of open tags are tracked beside the tree that grows from the same tokens. Both go up and
down together, so the elements that are open have the names of the open tags (`Mirrors.run`), and a
closing tag that is accepted always finds an element of its name (`frames_of_trackTags`). A document
without a fault is therefore what its tokens say (`result_of_scanned`), and any other one is
malformed (`result_of_not_scanned`). That gives the four ways in which a document is read
(`parse_outcome`): it has a fault, a tag is left open, it has no element, or its root is the first of
the elements at its top.
-/

namespace SettingsForm.Markup

/-! ## Documents without a fault -/

/-- What is wrong with a token in itself: with a reference in its text, or with its attributes. -/
def Token.fault? : Token → Option TextFault
  | .text raw =>
    match resolve raw with
    | .ok _ => none
    | .error fault => some (.reference fault)
  | .openTag content | .emptyTag content =>
    match readAttributes content with
    | .ok _ => none
    | .error fault => some fault
  | _ => none

/-- Every token can be read and every closing tag names the innermost open one. The tokens lead from
some open tags to others. -/
structure Tracked (outer : List String) (ts : List Token) (opened : List String) : Prop where
  tags : ts.foldlM trackTags outer = .ok opened
  readable : ∀ token ∈ ts, token.fault? = none

/-- From a place on and inside some open tags, the characters are these tokens, without a fault. -/
structure ScannedFrom (p : Place) (outer : List String) (cs : List Char) (ts : List Token)
    (opened : List String) : Prop where
  tokens : tokensFrom p cs = .ok ts
  tracked : Tracked outer ts opened

/-- The document is these tokens, without a fault, and at its end these tags are open, innermost
first. -/
def Scanned (document : String) (ts : List Token) (opened : List String) : Prop :=
  ScannedFrom .start [] (withoutByteOrderMark document.toList) ts opened

variable {ts us : List Token} {token : Token} {opened outer : List String} {t : Tree}

theorem Tracked.nil (opened : List String) : Tracked opened [] opened := ⟨rfl, by simp⟩

theorem tracked_append : Tracked outer (ts ++ us) opened ↔
    ∃ between, Tracked outer ts between ∧ Tracked between us opened := by
  constructor
  · rintro ⟨htags, hreadable⟩
    obtain ⟨hts, hus⟩ := List.forall_mem_append.mp hreadable
    rw [List.foldlM_append] at htags
    cases hbetween : ts.foldlM trackTags outer with
    | error fault =>
      rw [hbetween] at htags
      cases htags
    | ok between =>
      rw [hbetween] at htags
      exact ⟨between, ⟨hbetween, hts⟩, htags, hus⟩
  · rintro ⟨between, ⟨hbetween, hts⟩, htags, hus⟩
    refine ⟨?_, List.forall_mem_append.mpr ⟨hts, hus⟩⟩
    rw [List.foldlM_append, hbetween]
    exact htags

theorem tracked_singleton : Tracked outer [token] opened ↔
    trackTags outer token = .ok opened ∧ token.fault? = none := by
  have hfold : [token].foldlM trackTags outer = trackTags outer token := by
    rw [List.foldlM_cons]
    cases trackTags outer token <;> rfl
  constructor
  · rintro ⟨htags, hreadable⟩
    exact ⟨hfold ▸ htags, hreadable token List.mem_cons_self⟩
  · rintro ⟨htags, hfault⟩
    exact ⟨hfold.trans htags, by simpa using hfault⟩

/-! ## The tree and the tags -/

namespace Tree

/-- The names of the elements that are open, innermost first. -/
def names (t : Tree) : List String := t.frames.map Frame.name

@[simp] theorem names_addChild (t : Tree) (n : Node) : (t.addChild n).names = t.names := by
  obtain ⟨frames, root⟩ := t
  cases frames <;> rfl

@[simp] theorem names_attach (t : Tree) (e : Element) : (t.attach e).names = t.names := by
  rw [attach_eq_push]
  obtain ⟨frames, root⟩ := t
  cases frames <;> rfl

/-- A closing tag of the innermost open element takes that element away. -/
theorem frames_of_trackTags {name : List Char}
    (htags : trackTags t.names (.closeTag name) = .ok opened) : ∃ frame rest,
      t.frames = frame :: rest ∧ frame.name = String.ofList name ∧ opened = rest.map Frame.name := by
  obtain ⟨frames, root⟩ := t
  cases frames with
  | nil => cases htags
  | cons frame rest =>
    simp only [names, List.map_cons, trackTags] at htags
    split at htags
    · rename_i hname
      exact ⟨frame, rest, rfl, hname, (Except.ok.inj htags).symm⟩
    · cases htags

/-- A token whose tags fit is added, unless something is wrong in it. -/
theorem add_of_tags (htags : trackTags t.names token = .ok opened) :
    (token.fault? = none ∧ ∃ next, t.add token = .ok next ∧ next.names = opened) ∨
      ∃ fault, token.fault? = some fault ∧ t.add token = .error (.malformed fault) := by
  cases token with
  | text raw =>
    obtain rfl := Except.ok.inj htags
    cases hraw : resolve raw with
    | ok content =>
      refine .inl ⟨by simp only [Token.fault?, hraw], t.addChild (.text (.ofList content)), ?_, ?_⟩
      · simp only [add, hraw]
      · exact names_addChild ..
    | error fault =>
      exact .inr ⟨.reference fault, by simp only [Token.fault?, hraw], by simp only [add, hraw]⟩
  | characterData content =>
    obtain rfl := Except.ok.inj htags
    exact .inl ⟨rfl, _, rfl, names_addChild ..⟩
  | openTag content =>
    obtain rfl := Except.ok.inj htags
    cases hread : readAttributes content with
    | ok attributes =>
      let frame : Frame := ⟨.ofList (tagName content), attributes, []⟩
      let next : Tree := { t with frames := frame :: t.frames }
      refine .inl ⟨by simp only [Token.fault?, hread], next, ?_, rfl⟩
      simp only [add, elementOf, hread, next, frame]
    | error fault =>
      exact .inr ⟨fault, by simp only [Token.fault?, hread], by simp only [add, elementOf, hread]⟩
  | emptyTag content =>
    obtain rfl := Except.ok.inj htags
    cases hread : readAttributes content with
    | ok attributes =>
      let e : Element := ⟨.ofList (tagName content), attributes, []⟩
      refine .inl ⟨by simp only [Token.fault?, hread], t.attach e, ?_, names_attach ..⟩
      simp only [add, elementOf, hread, e]
    | error fault =>
      exact .inr ⟨fault, by simp only [Token.fault?, hread], by simp only [add, elementOf, hread]⟩
  | closeTag name =>
    obtain ⟨frame, rest, hframes, -, rfl⟩ := frames_of_trackTags htags
    let e : Element := ⟨frame.name, frame.attributes, dropIndentation frame.children.reverse⟩
    refine .inl ⟨rfl, attach { t with frames := rest } e, ?_, names_attach ..⟩
    simp only [add, hframes, e]

theorem finish_of_open {name : String} (hnames : t.names = name :: outer) :
    t.finish = .error (.unterminated name) := by
  obtain ⟨frames, root⟩ := t
  obtain ⟨frame, rest, rfl, rfl, -⟩ := List.map_eq_cons_iff.mp hnames
  rfl

theorem finish_of_closed (hnames : t.names = []) :
    t.finish = t.root.elim (.error .noRoot) .ok := by
  obtain ⟨frames, root⟩ := t
  obtain rfl := List.map_eq_nil_iff.mp hnames
  cases root <;> rfl

end Tree

/-! ## Reading on -/

namespace Reading

variable {r reached : Reading} {cs : List Char}

/-- The elements that are open have the names of the open tags. -/
def Mirrors (r : Reading) : Prop := r.tree.names = r.opened

/-- A token that fits the open tags is accepted, and then its own tags are open. -/
theorem Mirrors.accept_of_tracked (hr : r.Mirrors) (htoken : Tracked r.opened [token] opened) :
    ∃ next, r.accept token = .ok next ∧ next.Mirrors ∧ next.opened = opened := by
  obtain ⟨htags, hfault⟩ := tracked_singleton.mp htoken
  have hnames : trackTags r.tree.names token = .ok opened := by rw [hr, htags]
  rcases Tree.add_of_tags hnames with ⟨-, tree, hadd, hopened⟩ | ⟨fault, hsome, -⟩
  · exact ⟨{ r with opened, tree }, by simp only [accept, htags, hadd], hopened, rfl⟩
  · rw [hfault] at hsome
    cases hsome

/-- Any other token is a fault of the document. -/
theorem Mirrors.accept_of_not_tracked (hr : r.Mirrors)
    (htoken : ∀ opened, ¬ Tracked r.opened [token] opened) :
    ∃ fault, r.accept token = .error (.malformed fault) := by
  cases htags : trackTags r.opened token with
  | error fault => exact ⟨fault, by simp only [accept, htags]⟩
  | ok opened =>
    have hnames : trackTags r.tree.names token = .ok opened := by rw [hr, htags]
    rcases Tree.add_of_tags hnames with ⟨hfault, -⟩ | ⟨fault, -, hadd⟩
    · exact absurd (tracked_singleton.mpr ⟨htags, hfault⟩) (htoken opened)
    · exact ⟨fault, by simp only [accept, htags, hadd]⟩

/-- What is accepted fits the open tags, and elements and tags stay alike. -/
theorem Mirrors.accept (hr : r.Mirrors) (haccept : r.accept token = .ok reached) :
    Tracked r.opened [token] reached.opened ∧ reached.Mirrors := by
  by_cases htoken : ∃ opened, Tracked r.opened [token] opened
  · obtain ⟨opened, htoken⟩ := htoken
    obtain ⟨_, hsame, hmirrors, rfl⟩ := hr.accept_of_tracked htoken
    obtain rfl := Except.ok.inj (hsame.symm.trans haccept)
    exact ⟨htoken, hmirrors⟩
  · obtain ⟨fault, herror⟩ := hr.accept_of_not_tracked (not_exists.mp htoken)
    rw [herror] at haccept
    cases haccept

/-! ### To the end -/

theorem Mirrors.accept?_of_tracked {token : Option Token} (hr : r.Mirrors)
    (htoken : Tracked r.opened token.toList opened) : ∃ next, r.accept? token = .ok next ∧
      next.place = r.place ∧ next.Mirrors ∧ next.opened = opened ∧
      token.toList.foldlM Tree.add r.tree = .ok next.tree := by
  cases token with
  | none =>
    obtain rfl := Except.ok.inj htoken.tags
    exact ⟨r, rfl, rfl, hr, rfl, rfl⟩
  | some token =>
    obtain ⟨next, haccept, hmirrors, hopened⟩ := hr.accept_of_tracked htoken
    have hnext : r.accept? (some token) = .ok next := haccept
    obtain ⟨hplace, hadd⟩ := accept?_tree hnext
    exact ⟨next, hnext, hplace, hmirrors, hopened, hadd⟩

theorem Mirrors.accept?_of_not_tracked {token : Option Token} (hr : r.Mirrors)
    (htoken : ∀ opened, ¬ Tracked r.opened token.toList opened) :
    ∃ fault, r.accept? token = .error (.malformed fault) := by
  cases token with
  | none => exact absurd (Tracked.nil r.opened) (htoken r.opened)
  | some token => exact hr.accept_of_not_tracked htoken

theorem Mirrors.step_of_tracked {c : Char} {p : Place} {token : Option Token} (hr : r.Mirrors)
    (hplace : r.place.step c = .ok (p, token)) (htoken : Tracked r.opened token.toList opened) :
    ∃ next, r.step c = .ok next ∧ next.place = p ∧ next.Mirrors ∧ next.opened = opened ∧
      token.toList.foldlM Tree.add r.tree = .ok next.tree := by
  have hmoved : Mirrors { r with place := p } := hr
  obtain ⟨next, haccept, hnext⟩ := hmoved.accept?_of_tracked htoken
  exact ⟨next, by simp only [step, hplace, haccept], hnext⟩

theorem Mirrors.step {c : Char} (hr : r.Mirrors) (hstep : r.step c = .ok reached) :
    reached.Mirrors := by
  unfold Reading.step at hstep
  split at hstep
  · rename_i p token _
    have hmoved : Mirrors { r with place := p } := hr
    cases token with
    | none => rwa [← Except.ok.inj hstep]
    | some token => exact (hmoved.accept hstep).2
  · cases hstep

theorem Mirrors.run (hr : r.Mirrors) (hrun : r.run cs = .ok reached) : reached.Mirrors := by
  induction cs generalizing r with
  | nil => rwa [← Except.ok.inj hrun]
  | cons c cs ih =>
    unfold Reading.run at hrun
    split at hrun
    · rename_i next hstep
      exact ih (hr.step hstep) hrun
    · cases hrun

/-- What comes of reading on to the end of the document. -/
def result (r : Reading) (cs : List Char) : Except DocumentFault Element :=
  match r.run cs with
  | .ok last => last.finish
  | .error fault => .error fault

theorem result_cons {c : Char} (hstep : r.step c = .ok reached) :
    r.result (c :: cs) = reached.result cs := by
  simp only [result, run, hstep]

/-- Reading what has no fault builds the tree of its tokens. -/
theorem result_of_scanned (hr : r.Mirrors) (hcs : ScannedFrom r.place r.opened cs ts opened) :
    ∃ tree, ts.foldlM Tree.add r.tree = .ok tree ∧ tree.names = opened ∧
      r.result cs = tree.finish := by
  induction cs generalizing r ts with
  | nil =>
    obtain ⟨htokens, htracked⟩ := hcs
    unfold tokensFrom at htokens
    cases hplace : r.place.finish with
    | error fault =>
      rw [hplace] at htokens
      cases htokens
    | ok token =>
      rw [hplace] at htokens
      obtain rfl := Except.ok.inj htokens
      obtain ⟨last, haccept, -, hmirrors, rfl, htree⟩ := hr.accept?_of_tracked htracked
      exact ⟨last.tree, htree, hmirrors, by simp only [result, run, finish, hplace, haccept]⟩
  | cons c cs ih =>
    obtain ⟨htokens, htracked⟩ := hcs
    unfold tokensFrom at htokens
    split at htokens
    · cases htokens
    · rename_i p token hplace
      cases hrest : tokensFrom p cs with
      | error fault =>
        rw [hrest] at htokens
        cases htokens
      | ok us =>
        rw [hrest] at htokens
        obtain rfl := Except.ok.inj htokens
        obtain ⟨between, hfirst, hus⟩ := tracked_append.mp htracked
        obtain ⟨next, hstep, rfl, hmirrors, rfl, hadd⟩ := hr.step_of_tracked hplace hfirst
        obtain ⟨tree, htree, hnames, hresult⟩ := ih hmirrors ⟨hrest, hus⟩
        refine ⟨tree, ?_, hnames, (result_cons hstep).trans hresult⟩
        rw [List.foldlM_append, hadd]
        exact htree

/-- Reading anything else comes upon a fault. -/
theorem result_of_not_scanned (hr : r.Mirrors)
    (hcs : ∀ ts opened, ¬ ScannedFrom r.place r.opened cs ts opened) :
    ∃ fault, r.result cs = .error (.malformed fault) := by
  induction cs generalizing r with
  | nil =>
    cases hplace : r.place.finish with
    | error fault => exact ⟨fault, by simp only [result, run, finish, hplace]⟩
    | ok token =>
      have htoken : ∀ opened, ¬ Tracked r.opened token.toList opened := fun opened htracked =>
        hcs _ opened ⟨by rw [tokensFrom, hplace]; rfl, htracked⟩
      obtain ⟨fault, haccept⟩ := hr.accept?_of_not_tracked htoken
      exact ⟨fault, by simp only [result, run, finish, hplace, haccept]⟩
  | cons c cs ih =>
    cases hplace : r.place.step c with
    | error fault => exact ⟨fault, by simp only [result, run, step, hplace]⟩
    | ok next =>
      obtain ⟨p, token⟩ := next
      by_cases htoken : ∃ between, Tracked r.opened token.toList between
      · obtain ⟨between, htoken⟩ := htoken
        obtain ⟨next, hstep, rfl, hmirrors, rfl, -⟩ := hr.step_of_tracked hplace htoken
        rw [result_cons hstep]
        refine ih hmirrors fun us opened hus => hcs (token.toList ++ us) opened ⟨?_, ?_⟩
        · simp only [tokensFrom, hplace, hus.tokens]
          rfl
        · exact tracked_append.mpr ⟨_, htoken, hus.tracked⟩
      · have hmoved : Mirrors { r with place := p } := hr
        obtain ⟨fault, haccept⟩ := hmoved.accept?_of_not_tracked (not_exists.mp htoken)
        exact ⟨fault, by simp only [result, run, step, hplace, haccept]⟩

end Reading

/-! ## Documents -/

theorem mirrors_start : Reading.start.Mirrors := rfl

/-- A document without a fault is what the tree of its tokens says at the end. -/
theorem parse_of_scanned {document : String} (hscanned : Scanned document ts opened) :
    ∃ tree, ts.foldlM Tree.add .empty = .ok tree ∧ tree.names = opened ∧
      parse document = tree.finish :=
  Reading.result_of_scanned mirrors_start hscanned

theorem parse_malformed {document : String} :
    (∃ fault, parse document = .error (.malformed fault)) ↔
      ∀ ts opened, ¬ Scanned document ts opened := by
  constructor
  · rintro ⟨fault, hfault⟩ ts opened hscanned
    obtain ⟨tree, -, -, hresult⟩ := parse_of_scanned hscanned
    rw [hfault] at hresult
    unfold Tree.finish at hresult
    split at hresult <;> cases hresult
  · exact Reading.result_of_not_scanned mirrors_start

theorem parse_of_open {document name : String} (hscanned : Scanned document ts (name :: outer)) :
    parse document = .error (.unterminated name) := by
  obtain ⟨tree, -, hnames, hresult⟩ := parse_of_scanned hscanned
  rw [hresult, Tree.finish_of_open hnames]

/-- With no tag left open, the tokens are the nodes at the top of the document, and it is read as the
first element among these. -/
theorem parse_of_content {document : String} {ns : List Node} (hscanned : Scanned document ts [])
    (hns : Content ts ns) :
    parse document = (ns.filterMap Node.element?).head?.elim (.error .noRoot) .ok := by
  obtain ⟨tree, htree, hnames, hresult⟩ := parse_of_scanned hscanned
  rw [hns.foldlM_add, Tree.empty, Tree.foldl_push_nil] at htree
  obtain rfl := Except.ok.inj htree
  rw [hresult, Tree.finish_of_closed hnames, Option.none_or, List.head?_filterMap]

/-- A document has a fault, or tags of it are left open, or its tokens are the nodes at its top. -/
theorem scanned_cases (document : String) :
    (∃ fault, parse document = .error (.malformed fault)) ∨
    (∃ ts name outer, Scanned document ts (name :: outer)) ∨
    ∃ ts ns, Scanned document ts [] ∧ Content ts ns := by
  by_cases hscanned : ∃ ts opened, Scanned document ts opened
  · obtain ⟨ts, opened, hscanned⟩ := hscanned
    cases opened with
    | cons name outer => exact .inr (.inl ⟨ts, name, outer, hscanned⟩)
    | nil =>
      obtain ⟨tree, htree, hnames, -⟩ := parse_of_scanned hscanned
      obtain ⟨ns, hns, -⟩ := exists_content htree (List.map_eq_nil_iff.mp hnames)
      exact .inr (.inr ⟨ts, ns, hscanned, hns⟩)
  · exact .inl (parse_malformed.mpr fun ts opened h => hscanned ⟨ts, opened, h⟩)

theorem parse_ne_unexpectedClose (document name : String) :
    parse document ≠ .error (.unexpectedClose name) := by
  rcases scanned_cases document with ⟨fault, hfault⟩ | ⟨ts, last, outer, hscanned⟩ |
    ⟨ts, ns, hscanned, hns⟩
  · rw [hfault]
    nofun
  · rw [parse_of_open hscanned]
    nofun
  · rw [parse_of_content hscanned hns]
    cases (ns.filterMap Node.element?).head? <;> nofun

theorem parse_eq_unterminated {document name : String} :
    parse document = .error (.unterminated name) ↔
      ∃ ts outer, Scanned document ts (name :: outer) := by
  constructor
  · intro hresult
    rcases scanned_cases document with ⟨fault, hfault⟩ | ⟨ts, last, outer, hscanned⟩ |
      ⟨ts, ns, hscanned, hns⟩
    · rw [hfault] at hresult
      cases hresult
    · rw [parse_of_open hscanned] at hresult
      cases hresult
      exact ⟨ts, outer, hscanned⟩
    · rw [parse_of_content hscanned hns] at hresult
      cases hhead : (ns.filterMap Node.element?).head? <;> rw [hhead] at hresult <;> cases hresult
  · rintro ⟨ts, outer, hscanned⟩
    exact parse_of_open hscanned

/-- An outcome that is neither a fault nor a tag left open depends on the elements at the top of the
document alone. -/
theorem closed_iff {document : String} {P : List Element → Prop}
    {expected : Except DocumentFault Element}
    (hexpected : ∀ es : List Element, es.head?.elim (.error .noRoot) .ok = expected ↔ P es)
    (hfault : ∀ fault, expected ≠ .error (.malformed fault))
    (hopen : ∀ name, expected ≠ .error (.unterminated name)) :
    parse document = expected ↔ ∃ ts ns, Scanned document ts [] ∧ Content ts ns ∧
      P (ns.filterMap Node.element?) := by
  constructor
  · rintro rfl
    rcases scanned_cases document with ⟨fault, h⟩ | ⟨ts, last, outer, hscanned⟩ |
      ⟨ts, ns, hscanned, hns⟩
    · exact absurd h (hfault fault)
    · exact absurd (parse_of_open hscanned) (hopen last)
    · exact ⟨ts, ns, hscanned, hns, (hexpected _).mp (parse_of_content hscanned hns).symm⟩
  · rintro ⟨ts, ns, hscanned, hns, h⟩
    rw [parse_of_content hscanned hns]
    exact (hexpected _).mpr h

theorem parse_eq_noRoot {document : String} :
    parse document = .error .noRoot ↔ ∃ ts ns, Scanned document ts [] ∧ Content ts ns ∧
      ns.filterMap Node.element? = [] := by
  refine closed_iff (P := (· = [])) (fun es => ?_) nofun nofun
  cases es <;> simp

theorem parse_eq_ok {document : String} {root : Element} :
    parse document = .ok root ↔ ∃ ts ns, Scanned document ts [] ∧ Content ts ns ∧
      ∃ later, ns.filterMap Node.element? = root :: later := by
  refine closed_iff (P := fun es => ∃ later, es = root :: later) (fun es => ?_) nofun nofun
  cases es <;> simp

/-- Whatever has been read of a document, the elements that are open have the names of the open tags,
and so they have after the next token. A closing tag that is accepted takes away the innermost open
element, which has its name, so no closing tag ever comes without an element. A document is read in
one of four ways. Without a fault and with tags left open, it is unterminated in the innermost one.
With none left open, the tokens are the nodes at its top: with no element among these it has no root,
and otherwise the first one is its root and later ones are let go, faultless though they must be.
All other documents have a fault. -/
theorem parse_outcome (document : String) :
    (∀ cs r, Reading.start.run cs = .ok r → r.tree.frames.map Frame.name = r.opened ∧
      ∀ token next, r.accept token = .ok next →
        next.tree.frames.map Frame.name = next.opened ∧
        ∀ name, token = .closeTag name → ∃ frame rest, r.tree.frames = frame :: rest ∧
          frame.name = String.ofList name ∧
          next.tree.frames.map Frame.name = rest.map Frame.name) ∧
    (∀ name, parse document ≠ .error (.unexpectedClose name)) ∧
    (∀ name, parse document = .error (.unterminated name) ↔
      ∃ ts outer, Scanned document ts (name :: outer)) ∧
    (parse document = .error .noRoot ↔ ∃ ts ns, Scanned document ts [] ∧ Content ts ns ∧
      ns.filterMap Node.element? = []) ∧
    (∀ root, parse document = .ok root ↔ ∃ ts ns, Scanned document ts [] ∧ Content ts ns ∧
      ∃ later, ns.filterMap Node.element? = root :: later) ∧
    ((∃ fault, parse document = .error (.malformed fault)) ↔
      ∀ ts opened, ¬ Scanned document ts opened) := by
  refine ⟨fun cs r hrun => ?_, parse_ne_unexpectedClose document, fun name => parse_eq_unterminated,
    parse_eq_noRoot, fun root => parse_eq_ok, parse_malformed⟩
  have hr : r.Mirrors := mirrors_start.run hrun
  refine ⟨hr, fun token next haccept => ?_⟩
  obtain ⟨htracked, hnext⟩ := hr.accept haccept
  refine ⟨hnext, fun name hname => ?_⟩
  subst hname
  have htags := (tracked_singleton.mp htracked).1
  rw [← show r.tree.names = r.opened from hr] at htags
  obtain ⟨frame, rest, hframes, hframe, hopened⟩ := Tree.frames_of_trackTags htags
  exact ⟨frame, rest, hframes, hframe, hnext.trans hopened⟩

/-- A second element at the top is let go when it is closed, and is what the document ends in when it
is not. The closing tag of the first one may have a space after its name. -/
theorem parse_outcome_later_elements :
    let first : Element := ⟨"a", [], [.text "x", .element "b" [] []]⟩
    (∃ r next, Reading.start.run "<a>x<b/>".toList = .ok r ∧ r.accept (.closeTag ['a']) = .ok next ∧
      r.tree.frames.map Frame.name = ["a"] ∧ next.tree.frames.map Frame.name = []) ∧
    parse "<a>x<b/></a ><c></c>" = .ok first ∧
    (∃ ts ns, Scanned "<a>x<b/></a ><c></c>" ts [] ∧ Content ts ns ∧
      ∃ later, ns.filterMap Node.element? = first :: later) ∧
    parse "<a>x<b/></a ><c>" = .error (.unterminated "c") ∧
    ∃ ts outer, Scanned "<a>x<b/></a ><c>" ts ("c" :: outer) := by
  intro first
  have hclosed : parse "<a>x<b/></a ><c></c>" = .ok first := by rfl
  have hopen : parse "<a>x<b/></a ><c>" = .error (.unterminated "c") := by rfl
  obtain ⟨htags, -, -, -, hok, -⟩ := parse_outcome "<a>x<b/></a ><c></c>"
  obtain ⟨-, -, hunterminated, -⟩ := parse_outcome "<a>x<b/></a ><c>"
  obtain ⟨r, next, hrun, haccept, hopened, hleft⟩ : ∃ r next,
      Reading.start.run "<a>x<b/>".toList = .ok r ∧ r.accept (.closeTag ['a']) = .ok next ∧
        r.opened = ["a"] ∧ next.opened = [] := ⟨_, _, rfl, rfl, rfl, rfl⟩
  obtain ⟨hnames, hnext⟩ := htags _ r hrun
  exact ⟨⟨r, next, hrun, haccept, hnames.trans hopened, (hnext _ next haccept).1.trans hleft⟩,
    hclosed, (hok first).mp hclosed, hopen, (hunterminated "c").mp hopen⟩

end SettingsForm.Markup
