import SettingsForm.Markup.Document
import Mathlib.Data.List.Basic

/-!
# Content of a document

A document that can be read is a list of tokens, and `Content` says which nodes such a list stands
for: text and character data are text nodes, and the tokens between an opening and a closing tag are
the content of an element, which drops its indentation. The tree that reading builds holds to this
after every token (`Grown.add`), so every element of a document that is read was read from the tokens
between its tags (`enclosed_root`, `Enclosed.child`, `Enclosed.find?`). The text of an element
without elements in it is all the character data there (`Enclosed.text_eq`).
-/

namespace SettingsForm.Markup

/-! ## Tokens -/

/-- The tokens in the rest of a document, from a place on. -/
def tokensFrom (p : Place) : List Char → Except TextFault (List Token)
  | [] => p.finish.map Option.toList
  | c :: cs =>
    match p.step c with
    | .error fault => .error fault
    | .ok (next, token) => (tokensFrom next cs).map (token.toList ++ ·)

/-- The tokens of a document. -/
def tokens (document : String) : Except TextFault (List Token) :=
  tokensFrom .start (withoutByteOrderMark document.toList)

/-- The characters that a token adds to the text around it, its references resolved. -/
def Token.characters : Token → List Char
  | .text raw =>
    match resolve raw with
    | .ok content => content
    | .error _ => []
  | .characterData content => content
  | _ => []

theorem accept?_tree {r next : Reading} {token : Option Token} (hnext : r.accept? token = .ok next) :
    next.place = r.place ∧ token.toList.foldlM Tree.add r.tree = .ok next.tree := by
  cases token with
  | none =>
    obtain rfl := Except.ok.inj hnext
    exact ⟨rfl, rfl⟩
  | some token =>
    unfold Reading.accept? Reading.accept at hnext
    simp only at hnext
    split at hnext
    · cases hnext
    · split at hnext
      · rename_i tree htree
        obtain rfl := Except.ok.inj hnext
        refine ⟨rfl, ?_⟩
        rw [Option.toList_some, List.foldlM_cons, htree]
        rfl
      · cases hnext

/-- Reading to the end adds the tokens of the rest to the tree one by one. -/
theorem exists_tokensFrom {r last : Reading} {cs : List Char} {root : Element}
    (hrun : r.run cs = .ok last) (hfinish : last.finish = .ok root) :
    ∃ ts tree, tokensFrom r.place cs = .ok ts ∧ ts.foldlM Tree.add r.tree = .ok tree ∧
      tree.finish = .ok root := by
  induction cs generalizing r with
  | nil =>
    obtain rfl := Except.ok.inj hrun
    unfold Reading.finish at hfinish
    split at hfinish
    · cases hfinish
    · rename_i token htoken
      split at hfinish
      · rename_i next hnext
        refine ⟨token.toList, next.tree, ?_, (accept?_tree hnext).2, hfinish⟩
        rw [tokensFrom, htoken]
        rfl
      · cases hfinish
  | cons c cs ih =>
    unfold Reading.run at hrun
    split at hrun
    · rename_i next hstep
      unfold Reading.step at hstep
      split at hstep
      · rename_i place token hplace
        obtain ⟨hnext, hadd⟩ := accept?_tree hstep
        obtain ⟨ts, tree, hts, htree, hroot⟩ := ih hrun
        refine ⟨token.toList ++ ts, tree, ?_, ?_, hroot⟩
        · rw [hnext] at hts
          simp only [tokensFrom, hplace, hts]
          rfl
        · rw [List.foldlM_append, hadd]
          exact htree
      · cases hstep
    · cases hrun

/-! ## What tokens stand for -/

/-- The tokens stand for the nodes, as the content of an element or at the top of a document. -/
inductive Content : List Token → List Node → Prop where
  | nil : Content [] []
  | text {ts : List Token} {ns : List Node} {raw content : List Char} (hts : Content ts ns)
      (hraw : resolve raw = .ok content) :
      Content (ts ++ [.text raw]) (ns ++ [.text (.ofList content)])
  | characterData {ts : List Token} {ns : List Node} (hts : Content ts ns) (content : List Char) :
      Content (ts ++ [.characterData content]) (ns ++ [.text (.ofList content)])
  | emptyTag {ts : List Token} {ns : List Node} {content : List Char} {e : Element}
      (hts : Content ts ns) (he : Tree.elementOf content = .ok e) :
      Content (ts ++ [.emptyTag content]) (ns ++ [e.toNode])
  | element {ts inner : List Token} {ns children : List Node} {content name : List Char}
      {e : Element} (hts : Content ts ns) (he : Tree.elementOf content = .ok e)
      (hinner : Content inner children) :
      Content (ts ++ .openTag content :: (inner ++ [.closeTag name]))
        (ns ++ [Element.toNode { e with children := dropIndentation children }])

/-- The tokens from the tag of the outermost open element on stand for the frames: those of an
element's content so far come after its own tag. -/
inductive Nested : List Token → List Frame → Prop where
  | nil : Nested [] []
  | opened {ts inner : List Token} {frames : List Frame} {content : List Char} {e : Element}
      {children : List Node} (hts : Nested ts frames) (he : Tree.elementOf content = .ok e)
      (hinner : Content inner children) :
      Nested (ts ++ .openTag content :: inner) (⟨e.name, e.attributes, children.reverse⟩ :: frames)

/-- The tree holds what the tokens so far stand for: elements that are still open, and the first
element that was complete with none around it. -/
def Grown (ts : List Token) (t : Tree) : Prop :=
  ∃ top ns rest, ts = top ++ rest ∧ Content top ns ∧ Nested rest t.frames ∧
    t.root = ns.findSome? Node.element?

namespace Tree

/-- Adds a node to the innermost open element; with none open the first element is kept. -/
def push (t : Tree) (n : Node) : Tree :=
  match t.frames with
  | [] => { t with root := t.root.or n.element? }
  | _ => t.addChild n

theorem addChild_text (t : Tree) (content : String) :
    t.addChild (.text content) = t.push (.text content) := by
  obtain ⟨frames, root⟩ := t
  cases frames with
  | cons frame rest => rfl
  | nil => simp [push, addChild, Node.element?]

theorem attach_eq_push (t : Tree) (e : Element) : t.attach e = t.push e.toNode := by
  obtain ⟨frames, root⟩ := t
  cases frames with
  | cons frame rest => rfl
  | nil => cases root <;> rfl

theorem foldl_push (ns : List Node) (frame : Frame) (frames : List Frame)
    (root : Option Element) : ns.foldl Tree.push ⟨frame :: frames, root⟩ =
      ⟨{ frame with children := ns.reverse ++ frame.children } :: frames, root⟩ := by
  induction ns generalizing frame with
  | nil => rfl
  | cons n ns ih =>
    rw [List.foldl_cons, List.reverse_cons, List.append_assoc]
    exact ih _

theorem foldl_push_nil (ns : List Node) (root : Option Element) :
    ns.foldl Tree.push ⟨[], root⟩ = ⟨[], root.or (ns.findSome? Node.element?)⟩ := by
  induction ns generalizing root with
  | nil => simp
  | cons n ns ih =>
    rw [List.foldl_cons, push, ih, Option.or_assoc, List.findSome?_cons]
    cases n.element? <;> rfl

end Tree

/-- Reading content adds its nodes to the tree, whatever the tree is. -/
theorem Content.foldlM_add {ts : List Token} {ns : List Node} (hts : Content ts ns) (t : Tree) :
    ts.foldlM Tree.add t = .ok (ns.foldl Tree.push t) := by
  induction hts generalizing t with
  | nil => rfl
  | text _ hraw ih =>
    rw [List.foldlM_append, ih, List.foldl_append, List.foldl_cons, ← Tree.addChild_text]
    simp only [bind, Except.bind, List.foldlM_cons, Tree.add, hraw]
    rfl
  | characterData _ content ih =>
    rw [List.foldlM_append, ih, List.foldl_append, List.foldl_cons, ← Tree.addChild_text]
    rfl
  | emptyTag _ he ih =>
    rw [List.foldlM_append, ih, List.foldl_append, List.foldl_cons, ← Tree.attach_eq_push]
    simp only [bind, Except.bind, List.foldlM_cons, Tree.add, he]
    rfl
  | @element _ _ ns children _ _ e _ he _ ih ihInner =>
    rw [List.foldlM_append, ih, List.foldl_append, List.foldl_cons, ← Tree.attach_eq_push]
    simp only [bind, Except.bind, List.foldlM_cons, List.foldlM_append, Tree.add, he, ihInner,
      Tree.foldl_push, List.append_nil, List.reverse_reverse]
    rfl

theorem Nested.push {ts added : List Token} {frame : Frame} {frames : List Frame} {n : Node}
    (hts : Nested ts (frame :: frames))
    (hn : ∀ {us ns}, Content us ns → Content (us ++ added) (ns ++ [n])) :
    Nested (ts ++ added) ({ frame with children := n :: frame.children } :: frames) := by
  cases hts with
  | @opened ts inner _ content e children hts he hinner =>
    have hopened := Nested.opened hts he (hn hinner)
    rw [List.reverse_concat] at hopened
    rwa [List.append_assoc, List.cons_append]

/-- Tokens that add a node to any content add it to the tree. -/
theorem Grown.push {ts added : List Token} {t : Tree} {n : Node} (ht : Grown ts t)
    (hn : ∀ {us ns}, Content us ns → Content (us ++ added) (ns ++ [n])) :
    Grown (ts ++ added) (t.push n) := by
  obtain ⟨frames, root⟩ := t
  obtain ⟨top, ns, rest, rfl, htop, hrest, hroot⟩ := ht
  cases frames with
  | nil =>
    cases hrest
    refine ⟨top ++ added, ns ++ [n], [], by simp, hn htop, .nil, ?_⟩
    simp only at hroot
    simp only [Tree.push, hroot, List.findSome?_append, List.findSome?_singleton]
  | cons frame frames =>
    exact ⟨top, ns, rest ++ added, List.append_assoc _ _ _, htop, hrest.push hn, hroot⟩

theorem Grown.add {ts : List Token} {t next : Tree} {token : Token} (ht : Grown ts t)
    (hnext : t.add token = .ok next) : Grown (ts ++ [token]) next := by
  unfold Tree.add at hnext
  split at hnext
  · split at hnext
    · rename_i hraw
      obtain rfl := Except.ok.inj hnext
      rw [Tree.addChild_text]
      exact ht.push fun h => h.text hraw
    · cases hnext
  · rename_i content
    obtain rfl := Except.ok.inj hnext
    rw [Tree.addChild_text]
    exact ht.push fun h => h.characterData content
  · split at hnext
    · rename_i he
      obtain rfl := Except.ok.inj hnext
      rw [Tree.attach_eq_push]
      exact ht.push fun h => h.emptyTag he
    · cases hnext
  · split at hnext
    · rename_i he
      obtain rfl := Except.ok.inj hnext
      obtain ⟨top, ns, rest, rfl, htop, hrest, hroot⟩ := ht
      exact ⟨top, ns, rest ++ [.openTag _], List.append_assoc _ _ _, htop,
        hrest.opened he .nil, hroot⟩
    · cases hnext
  · split at hnext
    · cases hnext
    · rename_i name _ frame frames hframes
      obtain rfl := Except.ok.inj hnext
      obtain ⟨top, ns, rest, rfl, htop, hrest, hroot⟩ := ht
      rw [hframes] at hrest
      cases hrest with
      | @opened outer inner _ content e children houter he hinner =>
        -- the frames around the element stand for the tokens before its tag
        have hbefore : Grown (top ++ outer) { t with frames := frames } :=
          ⟨top, ns, outer, rfl, htop, houter, hroot⟩
        have hclosed : Grown (top ++ outer ++ .openTag content :: (inner ++ [.closeTag name])) _ :=
          hbefore.push fun h => h.element he hinner
        rw [Tree.attach_eq_push, List.reverse_reverse]
        simpa using hclosed

theorem Grown.addAll {ts us : List Token} {t last : Tree} (ht : Grown ts t)
    (hlast : us.foldlM Tree.add t = .ok last) : Grown (ts ++ us) last := by
  induction us generalizing ts t with
  | nil =>
    obtain rfl := Except.ok.inj hlast
    rwa [List.append_nil]
  | cons u us ih =>
    rw [List.foldlM_cons] at hlast
    cases hnext : t.add u with
    | error fault =>
      rw [hnext] at hlast
      cases hlast
    | ok next =>
      rw [hnext] at hlast
      have hrest := ih (ht.add hnext) hlast
      rwa [List.append_assoc] at hrest

/-- Tokens that leave no element open stand for nodes, and the root of the tree that they build is the
first element among these. -/
theorem exists_content {ts : List Token} {t : Tree} (hts : ts.foldlM Tree.add .empty = .ok t)
    (hframes : t.frames = []) : ∃ ns, Content ts ns ∧ t.root = ns.findSome? Node.element? := by
  have hempty : Grown [] Tree.empty := ⟨[], [], [], rfl, .nil, .nil, rfl⟩
  obtain ⟨top, ns, rest, hall, htop, hrest, hroot⟩ := hempty.addAll hts
  rw [hframes] at hrest
  cases hrest
  rw [List.nil_append, List.append_nil] at hall
  exact ⟨ns, hall ▸ htop, hroot⟩

/-- A document that can be read has tokens that stand for nodes, and its root is the first element
among these. -/
theorem content_of_parse {document : String} {root : Element} (hroot : parse document = .ok root) :
    ∃ ts ns, tokens document = .ok ts ∧ Content ts ns ∧ ns.findSome? Node.element? = some root := by
  unfold parse at hroot
  split at hroot
  · rename_i last hrun
    obtain ⟨ts, tree, hts, htree, hfinish⟩ := exists_tokensFrom hrun hroot
    unfold Tree.finish at hfinish
    split at hfinish
    · cases hfinish
    · rename_i first hframes hsome
      obtain rfl := Except.ok.inj hfinish
      obtain ⟨ns, hcontent, hfirst⟩ := exists_content htree hframes
      exact ⟨ts, ns, hts, hcontent, hfirst ▸ hsome⟩
    · cases hfinish
  · cases hroot

/-! ## Tokens between tags -/

/-- Among the tokens are those of the element, and `inner` are the ones between its tags. -/
inductive Enclosed (ts : List Token) : Element → List Token → Prop where
  | emptyTag {content : List Char} {e : Element} (he : Tree.elementOf content = .ok e)
      (hmem : .emptyTag content ∈ ts) : Enclosed ts e []
  | element {before inner after : List Token} {content name : List Char} {e : Element}
      {children : List Node} (hts : ts = before ++ .openTag content :: inner ++ .closeTag name :: after)
      (he : Tree.elementOf content = .ok e) (hinner : Content inner children) :
      Enclosed ts { e with children := dropIndentation children } inner

theorem children_of_elementOf {content : List Char} {e : Element}
    (he : Tree.elementOf content = .ok e) : e.children = [] := by
  unfold Tree.elementOf at he
  split at he
  · obtain rfl := Except.ok.inj he
    rfl
  · cases he

theorem Enclosed.mono {ts us inner : List Token} {e : Element} (he : Enclosed us e inner)
    (before after : List Token) (hts : ts = before ++ us ++ after) : Enclosed ts e inner := by
  subst hts
  cases he with
  | emptyTag he hmem => exact .emptyTag he (by simp [hmem])
  | @element pre _ post content name _ _ hus he hinner =>
    subst hus
    have hts : before ++ (pre ++ .openTag content :: inner ++ .closeTag name :: post) ++ after =
        (before ++ pre) ++ .openTag content :: inner ++ .closeTag name :: (post ++ after) := by
      simp
    exact .element hts he hinner

theorem Node.element?_eq_some {n : Node} {e : Element} :
    n.element? = some e ↔ e.toNode = n := by
  cases n with
  | text content => simp [Node.element?, Element.toNode]
  | element name attributes children =>
    obtain ⟨own, attributes', children'⟩ := e
    simp [Node.element?, Element.toNode, eq_comm]

/-- Every element that tokens stand for was read from some of them. -/
theorem Content.enclosed {ts : List Token} {ns : List Node} (hts : Content ts ns) {e : Element}
    (he : e.toNode ∈ ns) : ∃ inner, Enclosed ts e inner := by
  -- what stands before the last node was read from the tokens before its own
  have hbefore {us added : List Token} {n : Node} {ms : List Node} (he : e.toNode ∈ ms ++ [n])
      (ih : e.toNode ∈ ms → ∃ inner, Enclosed us e inner) :
      (∃ inner, Enclosed (us ++ added) e inner) ∨ e.toNode = n := by
    rcases List.mem_append.mp he with he | he
    · obtain ⟨inner, hinner⟩ := ih he
      exact .inl ⟨inner, hinner.mono [] added (by simp)⟩
    · exact .inr (List.mem_singleton.mp he)
  induction hts with
  | nil => cases he
  | text _ _ ih =>
    rcases hbefore he ih with hfound | heq
    · exact hfound
    · cases heq
  | characterData _ _ ih =>
    rcases hbefore he ih with hfound | heq
    · exact hfound
    · cases heq
  | emptyTag _ helement ih =>
    rcases hbefore he ih with hfound | heq
    · exact hfound
    · obtain rfl := Option.some.inj (Node.element?_eq_some.mpr heq)
      exact ⟨[], .emptyTag helement (by simp)⟩
  | @element us inner _ children content name own _ helement hinner ih =>
    rcases hbefore he ih with hfound | heq
    · exact hfound
    · obtain rfl := Option.some.inj (Node.element?_eq_some.mpr heq)
      have hts : us ++ .openTag content :: (inner ++ [.closeTag name]) =
          us ++ .openTag content :: inner ++ .closeTag name :: [] := by simp
      exact ⟨inner, .element (e := own) hts helement hinner⟩

theorem mem_of_mem_dropIndentation {n : Node} {children : List Node}
    (hn : n ∈ dropIndentation children) : n ∈ children := by
  unfold dropIndentation at hn
  split at hn
  · exact List.mem_of_mem_filter hn
  · exact hn

/-- The elements in an element were read from the tokens between its tags. -/
theorem Enclosed.child {ts inner : List Token} {e child : Element} (he : Enclosed ts e inner)
    (hchild : child ∈ e.elements) : ∃ own, Enclosed ts child own := by
  obtain ⟨n, hn, hnode⟩ := List.mem_filterMap.mp hchild
  obtain rfl := Node.element?_eq_some.mp hnode
  cases he with
  | emptyTag he =>
    rw [children_of_elementOf he] at hn
    cases hn
  | @element before _ after content name _ _ hts he hinner =>
    obtain ⟨own, hown⟩ := hinner.enclosed (mem_of_mem_dropIndentation hn)
    exact ⟨own, hown.mono (before ++ [.openTag content]) (.closeTag name :: after) (by simp [hts])⟩

mutual

/-- What holds of an element and passes on to the elements in it holds of what is found below it. -/
theorem Node.find?_of_child {P : Element → Prop} (hP : ∀ e, P e → ∀ child ∈ e.elements, P child)
    {name : String} {found : Element} :
    (n : Node) → (∀ e, n.element? = some e → P e) → n.find? name = some found → P found
  | .text _, _, hfound => by cases hfound
  | .element own attributes children, hn, hfound => by
    have he := hn _ rfl
    unfold Node.find? at hfound
    split at hfound
    · exact Option.some.inj hfound ▸ he
    · refine Node.findIn?_of_child hP children (fun n hn e hne => ?_) hfound
      exact hP _ he e (List.mem_filterMap.mpr ⟨n, hn, hne⟩)

theorem Node.findIn?_of_child {P : Element → Prop} (hP : ∀ e, P e → ∀ child ∈ e.elements, P child)
    {name : String} {found : Element} :
    (ns : List Node) → (∀ n ∈ ns, ∀ e, n.element? = some e → P e) →
      Node.findIn? name ns = some found → P found
  | [], _, hfound => by cases hfound
  | n :: ns, hns, hfound => by
    unfold Node.findIn? at hfound
    split at hfound
    · rename_i e he
      obtain rfl := Option.some.inj hfound
      exact Node.find?_of_child hP n (hns n List.mem_cons_self) he
    · exact Node.findIn?_of_child hP ns (fun m hm => hns m (List.mem_cons_of_mem _ hm)) hfound

end

/-- What is found below an element was read from the tokens between its tags. -/
theorem Enclosed.find? {ts inner : List Token} {e found : Element} (he : Enclosed ts e inner)
    {name : String} (hfound : e.find? name = some found) : ∃ own, Enclosed ts found own := by
  refine Node.find?_of_child (P := fun e => ∃ inner, Enclosed ts e inner)
    (fun e ⟨_, he⟩ child hchild => he.child hchild) e.toNode (fun d hd => ?_) hfound
  obtain rfl : e = d := Option.some.inj hd
  exact ⟨inner, he⟩

/-- The root of a document was read from its tokens. -/
theorem enclosed_root {document : String} {root : Element} (hroot : parse document = .ok root) :
    ∃ ts inner, tokens document = .ok ts ∧ Enclosed ts root inner := by
  obtain ⟨ts, ns, hts, hcontent, hfirst⟩ := content_of_parse hroot
  obtain ⟨n, hn, hnode⟩ := List.exists_of_findSome?_eq_some hfirst
  obtain rfl := Node.element?_eq_some.mp hnode
  obtain ⟨inner, hinner⟩ := hcontent.enclosed hn
  exact ⟨ts, inner, hts, hinner⟩

/-! ## Text -/

theorem innerTexts_append (ms ns : List Node) :
    Node.innerTexts (ms ++ ns) = Node.innerTexts ms ++ Node.innerTexts ns := by
  induction ms with
  | nil => rw [List.nil_append, Node.innerTexts, String.empty_append]
  | cons m ms ih => rw [List.cons_append, Node.innerTexts, ih, Node.innerTexts, String.append_assoc]

/-- Content without elements has the characters of its tokens. -/
theorem Content.innerTexts_eq {ts : List Token} {ns : List Node} (hts : Content ts ns)
    (hns : ns.any Node.isElement = false) :
    Node.innerTexts ns = .ofList (ts.flatMap Token.characters) := by
  induction hts with
  | nil => rfl
  | @text ts ns raw content _ hraw ih =>
    rw [List.any_append, Bool.or_eq_false_iff] at hns
    rw [innerTexts_append, ih hns.1, List.flatMap_append, String.ofList_append]
    simp [Node.innerTexts, Node.innerText, Token.characters, hraw]
  | characterData _ content ih =>
    rw [List.any_append, Bool.or_eq_false_iff] at hns
    rw [innerTexts_append, ih hns.1, List.flatMap_append, String.ofList_append]
    simp [Node.innerTexts, Node.innerText, Token.characters]
  | emptyTag => simp [Node.isElement, Element.toNode, Node.element?] at hns
  | element => simp [Node.isElement, Element.toNode, Node.element?] at hns

theorem dropIndentation_of_hasElements_eq_false {children : List Node}
    (hchildren : (dropIndentation children).any Node.isElement = false) :
    children.any Node.isElement = false ∧ dropIndentation children = children := by
  cases hany : children.any Node.isElement with
  | false => exact ⟨rfl, by rw [dropIndentation, hany]; rfl⟩
  | true =>
    -- an element would have been kept
    obtain ⟨n, hn, helement⟩ := List.any_eq_true.mp hany
    refine absurd helement (List.any_eq_false.mp hchildren n ?_)
    rw [dropIndentation, if_pos hany]
    refine List.mem_filter.mpr ⟨hn, ?_⟩
    cases n with
    | text content => cases helement
    | element => rfl

theorem Element.elements_ne_nil {e : Element} : e.elements ≠ [] ↔ e.hasElements = true := by
  rw [elements, hasElements, Ne, List.filterMap_eq_nil_iff, List.any_eq_true]
  simp [Node.isElement, Option.isSome_iff_ne_none]

/-- An element without elements in it has all the characters between its tags. -/
theorem Enclosed.text_eq {ts inner : List Token} {e : Element} (he : Enclosed ts e inner)
    (helements : e.hasElements = false) : e.text = .ofList (inner.flatMap Token.characters) := by
  cases he with
  | emptyTag he =>
    rw [Element.text, children_of_elementOf he]
    rfl
  | element _ _ hinner =>
    obtain ⟨hnone, hkept⟩ := dropIndentation_of_hasElements_eq_false helements
    rw [Element.text, hkept, hinner.innerTexts_eq hnone]

end SettingsForm.Markup
