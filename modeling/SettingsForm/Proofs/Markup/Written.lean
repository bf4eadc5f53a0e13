import SettingsForm.Proofs.Markup.Content
import SettingsForm.Proofs.Markup.Tag
import Mathlib.Data.List.Chain

/-!
# Written documents

A tree can be written as a document in several ways: an element without children as one tag or as
two, and an element of elements with blank text around each of them (`Written`). Whichever way a
tree in normal form is written, reading gives it back. Reading a written node adds that node to the
tree that was read before (`Written.run`); the content of an element does the same with all its
children, after which the closing tag drops the blank text (`Verbatim.run`, `Indented.run`).
-/

namespace SettingsForm.Markup

/-! ## Trees in normal form -/

/-- One of two nodes in a row is an element; two texts in a row would be read as one. -/
def Apart (m n : Node) : Prop := m.isElement = true ∨ n.isElement = true

/-- The tree can be told from its text: its names can be written, no text is empty or next to
another, and text beside an element is not blank. -/
inductive Normal : Node → Prop where
  | text (content : String) : Normal (.text content)
  | element {name : String} {attributes : List (String × String)} {children : List Node}
      (hname : IsName name) (hkeys : ∀ a ∈ attributes, IsKey a.1)
      (hdistinct : (attributes.map Prod.fst).Nodup) (hempty : .text "" ∉ children)
      (hapart : children.IsChain Apart)
      (hblank : children.any Node.isElement = true →
        ∀ content, .text content ∈ children → Text.isBlankText content = false)
      (hchildren : ∀ n ∈ children, Normal n) : Normal (.element name attributes children)

/-! ## Ways to write a tree -/

mutual

/-- The characters are one way to write the node. -/
inductive Written : Node → List Char → Prop where
  | text (content : String) : Written (.text content) (escape content.toList)
  | emptyTag {name : String} {attributes : List (String × String)} {tag : List Char}
      (htag : TagWritten name attributes tag) :
      Written (.element name attributes []) ('<' :: tag ++ ['/', '>'])
  | verbatim {name : String} {attributes : List (String × String)} {children : List Node}
      {tag inner : List Char} (htag : TagWritten name attributes tag)
      (hinner : Verbatim children inner) : Written (.element name attributes children)
        ('<' :: tag ++ '>' :: inner ++ '<' :: '/' :: name.toList ++ ['>'])
  | indented {name : String} {attributes : List (String × String)} {children : List Node}
      {tag inner : List Char} (htag : TagWritten name attributes tag)
      (hne : children ≠ []) (helements : ∀ n ∈ children, n.isElement = true)
      (hinner : Indented children inner) : Written (.element name attributes children)
        ('<' :: tag ++ '>' :: inner ++ '<' :: '/' :: name.toList ++ ['>'])

/-- The characters are the nodes, one written right after the other. -/
inductive Verbatim : List Node → List Char → Prop where
  | nil : Verbatim [] []
  | cons {n : Node} {ns : List Node} {text rest : List Char} (hn : Written n text)
      (hns : Verbatim ns rest) : Verbatim (n :: ns) (text ++ rest)

/-- The characters are the nodes with blank text before, between and after them. -/
inductive Indented : List Node → List Char → Prop where
  | nil {space : List Char} (hspace : ∀ c ∈ space, Text.isBlank c = true) : Indented [] space
  | cons {n : Node} {ns : List Node} {space text rest : List Char}
      (hspace : ∀ c ∈ space, Text.isBlank c = true) (hn : Written n text)
      (hns : Indented ns rest) : Indented (n :: ns) (space ++ text ++ rest)

end

mutual

theorem exists_written : (n : Node) → ∃ text, Written n text
  | .text content => ⟨_, .text content⟩
  | .element name attributes children => by
    obtain ⟨tag, htag⟩ := exists_tagWritten name attributes
    obtain ⟨inner, hinner⟩ := exists_verbatim children
    exact ⟨_, .verbatim htag hinner⟩

theorem exists_verbatim : (ns : List Node) → ∃ text, Verbatim ns text
  | [] => ⟨[], .nil⟩
  | n :: ns => by
    obtain ⟨text, hn⟩ := exists_written n
    obtain ⟨rest, hns⟩ := exists_verbatim ns
    exact ⟨_, .cons hn hns⟩

end

/-! ## Indentation -/

/-- The node stays when indentation is dropped. -/
def Node.isKept : Node → Bool
  | .text content => !Text.isBlankText content
  | .element .. => true

theorem Node.isKept_of_isElement {n : Node} (hn : n.isElement = true) : n.isKept = true := by
  cases n with
  | text content => cases hn
  | element => rfl

theorem dropIndentation_eq_filter {children : List Node}
    (hchildren : children.any Node.isElement = true) :
    dropIndentation children = children.filter Node.isKept := by
  rw [dropIndentation, if_pos hchildren]
  refine List.filter_congr fun n _ => ?_
  cases n <;> rfl

theorem dropIndentation_eq_self {children : List Node}
    (hblank : children.any Node.isElement = true →
      ∀ content, .text content ∈ children → Text.isBlankText content = false) :
    dropIndentation children = children := by
  by_cases hany : children.any Node.isElement = true
  · rw [dropIndentation_eq_filter hany, List.filter_eq_self]
    intro n hn
    cases n with
    | text content => rw [Node.isKept, hblank hany content hn, Bool.not_false]
    | element => rfl
  · rw [dropIndentation, if_neg hany]

theorem dropIndentation_of_filter {children read : List Node} (hne : children ≠ [])
    (helements : ∀ n ∈ children, n.isElement = true) (hread : read.filter Node.isKept = children) :
    dropIndentation read = children := by
  obtain ⟨n, ns, rfl⟩ := List.exists_cons_of_ne_nil hne
  have hn : n ∈ read.filter Node.isKept := by rw [hread]; exact List.mem_cons_self
  rw [dropIndentation_eq_filter, hread]
  exact List.any_eq_true.mpr ⟨n, List.mem_of_mem_filter hn, helements n List.mem_cons_self⟩

theorem not_mem_markupChars {c : Char} (hc : Text.isBlank c = true) : c ∉ markupChars := by
  intro hmem
  have hmarkup : markupChars.any Text.isBlank = false := by decide
  exact absurd (List.any_eq_true.mpr ⟨c, hmem, hc⟩) (by simp [hmarkup])

theorem escape_of_blank {space : List Char} (hspace : ∀ c ∈ space, Text.isBlank c = true) :
    escape space = space :=
  escape_eq_self fun c hc => not_mem_markupChars (hspace c hc)

/-! ## Reading what is written -/

/-- The node for text that was read, which is none for no text. -/
def textNode? (cs : List Char) : List Node := if cs.isEmpty then [] else [.text (.ofList cs)]

theorem textNode?_toList {content : String} (hne : content ≠ "") :
    textNode? content.toList = [.text content] := by
  have htoList : content.toList ≠ [] := fun h => hne (String.toList_eq_nil_iff.mp h)
  rw [textNode?, List.isEmpty_eq_false_iff.mpr htoList, String.ofList_toList]
  rfl

theorem eq_nil_of_apart {cs : List Char} {content : String} {ns : List Node}
    (hapart : (textNode? cs ++ .text content :: ns).IsChain Apart) : cs = [] := by
  by_contra hcs
  have hnode : textNode? cs = [.text (.ofList cs)] := by simp [textNode?, hcs]
  rw [hnode, List.singleton_append, List.isChain_cons_cons] at hapart
  rcases hapart.1 with helement | helement <;> cases helement

theorem filter_isKept_textNode? {space : List Char}
    (hspace : ∀ c ∈ space, Text.isBlank c = true) : (textNode? space).filter Node.isKept = [] := by
  have hblank : Text.isBlankText (.ofList space) = true := by
    rw [Text.isBlankText, String.toList_ofList, List.all_eq_true]
    exact hspace
  unfold textNode?
  split
  · rfl
  · simp [Node.isKept, hblank]

theorem Tree.foldl_push_cons (ms ns : List Node) (n : Node) (t : Tree) :
    (ms ++ n :: ns).foldl Tree.push t =
      ns.foldl Tree.push ((ms ++ [n]).foldl Tree.push t) := by
  rw [List.append_cons, List.foldl_append]

section Run

variable {name : String} {attributes : List (String × String)} {tag : List Char}
  {opened : List String} {t : Tree} {rest : List Char}

/-- A bracket ends the text before it. -/
theorem run_angle (cs : List Char) (opened : List String) (t : Tree) (rest : List Char) :
    Reading.run ⟨.inText (escape cs).reverse, opened, t⟩ ('<' :: rest) =
      Reading.run ⟨.afterAngle, opened, (textNode? cs).foldl Tree.push t⟩ rest := by
  rw [Reading.run, Reading.step]
  by_cases hcs : cs = []
  · subst hcs
    rfl
  · have hne : escape cs ≠ [] := fun h => hcs (escape_eq_nil.mp h)
    have htoken : textToken? (escape cs).reverse = some (.text (escape cs)) := by
      simp [textToken?, hne]
    have hnode : textNode? cs = [.text (.ofList cs)] := by simp [textNode?, hcs]
    simp only [Place.step, if_pos, htoken, hnode, Reading.accept?, Reading.accept, trackTags,
      Tree.add, resolve_escape, Tree.addChild_text, List.foldl_cons, List.foldl_nil]

/-- Blank text is read as it stands. -/
theorem run_space {space : List Char} (hspace : ∀ c ∈ space, Text.isBlank c = true) :
    Reading.run ⟨.start, opened, t⟩ (space ++ rest) =
      Reading.run ⟨.inText (escape space).reverse, opened, t⟩ rest := by
  have hpasses : Place.start.Passes space (.inText (space.reverse ++ [])) := by
    refine Place.passes_text fun c hc heq => not_mem_markupChars (hspace c hc) ?_
    rw [heq]
    decide
  rw [Reading.run_of_passes hpasses, escape_of_blank hspace, List.append_nil]

theorem run_openTag (htag : TagWritten name attributes tag) (hname : IsName name)
    (hkeys : ∀ a ∈ attributes, IsKey a.1) (hdistinct : (attributes.map Prod.fst).Nodup) :
    Reading.run ⟨.afterAngle, opened, t⟩ (tag ++ '>' :: rest) = Reading.run
      ⟨.start, name :: opened, { t with frames := ⟨name, attributes, []⟩ :: t.frames }⟩ rest := by
  have htoken : tagToken false tag = .openTag tag := htag.tagToken hname.toIsKey
  rw [Reading.run_of_passes (htag.passes hname hkeys), Reading.run, Reading.step]
  simp only [Place.step, Place.stepTag, if_pos, List.reverse_reverse, htoken, Reading.accept?,
    Reading.accept, trackTags, htag.tagName hname.toIsKey, String.ofList_toList, Tree.add,
    htag.elementOf hname.toIsKey hkeys hdistinct]

theorem run_emptyTag (htag : TagWritten name attributes tag) (hname : IsName name)
    (hkeys : ∀ a ∈ attributes, IsKey a.1) (hdistinct : (attributes.map Prod.fst).Nodup) :
    Reading.run ⟨.afterAngle, opened, t⟩ (tag ++ '/' :: '>' :: rest) =
      Reading.run ⟨.start, opened, t.push (.element name attributes [])⟩ rest := by
  have hslash : (Place.inTag false none tag.reverse).step '/' =
      .ok (.inTag false none ('/' :: tag.reverse), none) := rfl
  have htoken : tagToken false ('/' :: tag.reverse).reverse = .emptyTag tag := by
    simp [tagToken]
  rw [Reading.run_of_passes (htag.passes hname hkeys), Reading.run, Reading.step, hslash]
  simp only [Reading.accept?]
  rw [Reading.run, Reading.step]
  simp only [Place.step, Place.stepTag, if_pos, htoken, Reading.accept?, Reading.accept, trackTags,
    Tree.add, htag.elementOf hname.toIsKey hkeys hdistinct, Tree.attach_eq_push, Element.toNode]

theorem run_closeTag (hname : IsKey name) (children : List Node) (frames : List Frame)
    (root : Option Element) :
    Reading.run ⟨.afterAngle, name :: opened, ⟨⟨name, attributes, children⟩ :: frames, root⟩⟩
        ('/' :: name.toList ++ '>' :: rest) =
      Reading.run ⟨.start, opened, Tree.push ⟨frames, root⟩
        (.element name attributes (dropIndentation children.reverse))⟩ rest := by
  have htoken : tagToken true name.toList = .closeTag name.toList := hname.closeToken
  have hslash : Place.afterAngle.Passes ('/' :: name.toList)
      (.inTag true none (name.toList.reverse ++ [])) := .cons rfl hname.passes
  rw [Reading.run_of_passes hslash, List.append_nil, Reading.run, Reading.step]
  simp only [Place.step, Place.stepTag, if_pos, List.reverse_reverse, htoken, Reading.accept?,
    Reading.accept, trackTags, String.ofList_toList, Tree.add, Tree.attach_eq_push, Element.toNode]

end Run

/-- Reading an element between its tags adds it to the tree with what its content leaves of it. -/
theorem run_element {name : String} {attributes : List (String × String)} {children read : List Node}
    {tag inner : List Char} (cs : List Char) (opened : List String) (t : Tree) (rest : List Char)
    (htag : TagWritten name attributes tag) (hname : IsName name)
    (hkeys : ∀ a ∈ attributes, IsKey a.1) (hdistinct : (attributes.map Prod.fst).Nodup)
    (hinner : ∀ opened t rest, Reading.run ⟨.start, opened, t⟩ (inner ++ '<' :: rest) =
      Reading.run ⟨.afterAngle, opened, read.foldl Tree.push t⟩ rest)
    (hread : dropIndentation read = children) :
    Reading.run ⟨.inText (escape cs).reverse, opened, t⟩
        ('<' :: tag ++ '>' :: inner ++ '<' :: '/' :: name.toList ++ ['>'] ++ rest) =
      Reading.run ⟨.start, opened,
        (textNode? cs ++ [Node.element name attributes children]).foldl Tree.push t⟩ rest := by
  have hchars : '<' :: tag ++ '>' :: inner ++ '<' :: '/' :: name.toList ++ ['>'] ++ rest =
      '<' :: (tag ++ '>' :: (inner ++ '<' :: ('/' :: name.toList ++ '>' :: rest))) := by simp
  rw [hchars, run_angle, run_openTag htag hname hkeys hdistinct, hinner, Tree.foldl_push,
    List.append_nil, run_closeTag hname.toIsKey, List.reverse_reverse, hread, List.foldl_append]
  rfl

mutual

/-- Reading a written element, after text before it, adds the text and the element to the tree. -/
theorem Written.run {n : Node} {text : List Char} (cs : List Char) (opened : List String) (t : Tree)
    (rest : List Char) (hn : Normal n) (helement : n.isElement = true) :
    Written n text → Reading.run ⟨.inText (escape cs).reverse, opened, t⟩ (text ++ rest) =
      Reading.run ⟨.start, opened, (textNode? cs ++ [n]).foldl Tree.push t⟩ rest
  | .text content => by cases helement
  | .emptyTag htag => by
    obtain ⟨⟩ | ⟨hname, hkeys, hdistinct⟩ := hn
    rw [List.foldl_append, List.cons_append, List.cons_append, run_angle, List.append_assoc]
    exact run_emptyTag htag hname hkeys hdistinct
  | .verbatim htag hinner => by
    obtain ⟨⟩ | ⟨hname, hkeys, hdistinct, hempty, hapart, hblank, hchildren⟩ := hn
    exact run_element cs opened t rest htag hname hkeys hdistinct
      (fun opened t rest => Verbatim.run [] opened t rest hchildren hempty hapart hinner)
      (dropIndentation_eq_self hblank)
  | .indented htag hne helements hinner => by
    obtain ⟨⟩ | ⟨hname, hkeys, hdistinct, hempty, hapart, hblank, hchildren⟩ := hn
    obtain ⟨read, hkept, hrun⟩ := Indented.run hchildren helements hinner
    exact run_element cs opened t rest htag hname hkeys hdistinct hrun
      (dropIndentation_of_filter hne helements hkept)

theorem Verbatim.run {ns : List Node} {text : List Char} (cs : List Char) (opened : List String)
    (t : Tree) (rest : List Char) (hns : ∀ n ∈ ns, Normal n) (hempty : .text "" ∉ ns)
    (hapart : (textNode? cs ++ ns).IsChain Apart) :
    Verbatim ns text → Reading.run ⟨.inText (escape cs).reverse, opened, t⟩ (text ++ '<' :: rest) =
      Reading.run ⟨.afterAngle, opened, (textNode? cs ++ ns).foldl Tree.push t⟩ rest
  | .nil => by
    rw [List.append_nil]
    exact run_angle cs opened t rest
  | @Verbatim.cons (.text content) ns _ _ hn hrest => by
    obtain ⟨-, hns⟩ := List.forall_mem_cons.mp hns
    obtain ⟨hne, hempty⟩ := not_or.mp (mt List.mem_cons.mpr hempty)
    have hcontent : content ≠ "" := fun h => hne (by rw [h])
    cases hn
    -- the text is read after that of the nodes before, of which there can be none
    obtain rfl := eq_nil_of_apart hapart
    rw [List.append_assoc, Reading.run_of_passes (Place.passes_text fun c hc => (mem_escape hc).1)]
    have hafter := Verbatim.run content.toList opened t rest hns hempty
      (by rwa [textNode?_toList hcontent]) hrest
    rw [textNode?_toList hcontent] at hafter
    rw [escape_nil, List.reverse_nil, List.append_nil]
    exact hafter
  | @Verbatim.cons (.element name attributes children) ns _ _ hn hrest => by
    obtain ⟨hfirst, hns⟩ := List.forall_mem_cons.mp hns
    obtain ⟨-, hempty⟩ := not_or.mp (mt List.mem_cons.mpr hempty)
    have hafter := Verbatim.run [] opened
      ((textNode? cs ++ [Node.element name attributes children]).foldl Tree.push t) rest hns hempty
      hapart.right_of_append.tail hrest
    rw [← Tree.foldl_push_cons] at hafter
    rw [List.append_assoc, Written.run cs opened t _ hfirst rfl hn]
    exact hafter

theorem Indented.run {ns : List Node} {text : List Char} (hns : ∀ n ∈ ns, Normal n)
    (helements : ∀ n ∈ ns, n.isElement = true) :
    Indented ns text → ∃ read : List Node, read.filter Node.isKept = ns ∧
      ∀ opened t rest, Reading.run ⟨.start, opened, t⟩ (text ++ '<' :: rest) =
        Reading.run ⟨.afterAngle, opened, read.foldl Tree.push t⟩ rest
  | .nil hspace => by
    refine ⟨textNode? text, filter_isKept_textNode? hspace, fun opened t rest => ?_⟩
    rw [run_space hspace, run_angle]
  | @Indented.cons n ns space _ _ hspace hn hrest => by
    obtain ⟨hfirst, hns⟩ := List.forall_mem_cons.mp hns
    obtain ⟨helement, helements⟩ := List.forall_mem_cons.mp helements
    obtain ⟨read, hkept, hrun⟩ := Indented.run hns helements hrest
    refine ⟨textNode? space ++ n :: read, ?_, fun opened t rest => ?_⟩
    · rw [List.filter_append, filter_isKept_textNode? hspace,
        List.filter_cons_of_pos (Node.isKept_of_isElement helement), hkept]
      rfl
    · rw [List.append_assoc, List.append_assoc, run_space hspace,
        Written.run space opened t _ hfirst helement hn, hrun, ← Tree.foldl_push_cons]

end

/-! ## Trees that are read -/

/-- The element itself and every element below it. -/
inductive Element.Below (root : Element) : Element → Prop where
  | root : Below root root
  | child {e child : Element} (he : Below root e) (hchild : child ∈ e.elements) : Below root child

theorem Enclosed.below {ts inner : List Token} {root e : Element} (hroot : Enclosed ts root inner)
    (he : root.Below e) : ∃ own, Enclosed ts e own := by
  induction he with
  | root => exact ⟨inner, hroot⟩
  | child _ hchild ih =>
    obtain ⟨own, hown⟩ := ih
    exact hown.child hchild

/-- An element that was read has no blank text beside an element. -/
theorem Enclosed.not_blank {ts inner : List Token} {e : Element} (he : Enclosed ts e inner)
    (helements : e.hasElements = true) {content : String} (hcontent : .text content ∈ e.children) :
    Text.isBlankText content = false := by
  cases he with
  | emptyTag he =>
    rw [children_of_elementOf he] at hcontent
    cases hcontent
  | @element _ _ _ _ _ e children _ _ _ =>
    simp only [Element.hasElements] at helements hcontent
    by_cases hany : children.any Node.isElement = true
    · rw [dropIndentation_eq_filter hany] at hcontent
      simpa [Node.isKept] using List.of_mem_filter hcontent
    · rw [dropIndentation, if_neg hany] at helements
      exact absurd helements hany

theorem Written.exists_cons {n : Node} {text : List Char} (hn : Written n text)
    (helement : n.isElement = true) : ∃ rest, text = '<' :: rest := by
  cases hn with
  | text => cases helement
  | emptyTag | verbatim | indented => exact ⟨_, rfl⟩

/-- A document that is a written tree is read as that tree. -/
theorem Written.parse {t : Element} {text : List Char} (ht : Normal t.toNode)
    (htext : Written t.toNode text) : parse (.ofList text) = .ok t := by
  obtain ⟨rest, hrest⟩ := htext.exists_cons rfl
  have hmark : withoutByteOrderMark text = text := by
    rw [hrest]
    rfl
  have hrun := Written.run [] [] Tree.empty [] ht rfl htext
  rw [List.append_nil] at hrun
  rw [Markup.parse, String.toList_ofList, hmark, Reading.start]
  simp only [Place.start] at hrun ⊢
  rw [escape_nil, List.reverse_nil] at hrun
  rw [hrun]
  rfl

/-- Every tree in normal form can be written, and whichever way that is done, with empty elements as
one tag or two and with any blank text around the elements of an element, reading gives it back.
And no tree that is read, from whatever document, has blank text beside an element. -/
theorem parse_written :
    (∀ t : Element, Normal t.toNode → (∃ text, Written t.toNode text) ∧
      ∀ text, Written t.toNode text → parse (.ofList text) = .ok t) ∧
    ∀ document root, parse document = .ok root → ∀ e, root.Below e → e.hasElements = true →
      ∀ content, .text content ∈ e.children → Text.isBlankText content = false := by
  constructor
  · exact fun t ht => ⟨exists_written t.toNode, fun text htext => htext.parse ht⟩
  · intro document root hroot e he helements content hcontent
    obtain ⟨ts, inner, -, hinner⟩ := enclosed_root hroot
    obtain ⟨own, hown⟩ := hinner.below he
    exact hown.not_blank helements hcontent

/-- Blank text is kept in an element that holds nothing else and dropped around elements, and what
markup uses itself comes back in a value. -/
theorem parse_written_indented :
    let t : Element := ⟨"a", [("k", "<\"")], [.element "b" [] [.text " "], .element "c" [] []]⟩
    let document := "<a k='&lt;&quot;'>\n<b> </b>\u00a0<c/></a>"
    Normal t.toNode ∧ Written t.toNode document.toList ∧ parse document = .ok t ∧
      ∀ content, .text content ∈ t.children → Text.isBlankText content = false := by
  intro t document
  have hb : Normal (.element "b" [] [.text " "]) := by
    refine .element (by decide) (List.forall_mem_nil _) .nil (by simp) (.singleton _)
      (by simp [Node.isElement, Node.element?]) ?_
    exact List.forall_mem_singleton.mpr (.text " ")
  have hc : Normal (.element "c" [] []) :=
    .element (by decide) (List.forall_mem_nil _) .nil List.not_mem_nil .nil (by simp)
      (List.forall_mem_nil _)
  have ht : Normal t.toNode := by
    refine .element (by decide) ?_ (by decide) (by simp [t])
      (.cons_cons (.inl rfl) (.singleton _)) (by simp [t]) ?_
    · exact List.forall_mem_singleton.mpr (by decide)
    · intro n hn
      rcases List.mem_cons.mp hn with rfl | hn
      · exact hb
      · obtain rfl := List.mem_singleton.mp hn
        exact hc
  obtain ⟨text, hwritten, rfl⟩ : ∃ text, Written t.toNode text ∧ text = document.toList := by
    have hspace : ∀ c ∈ [' '], isTagSpace c = true := List.forall_mem_singleton.mpr rfl
    have hbreak : ∀ c ∈ ['\n'], Text.isBlank c = true := List.forall_mem_singleton.mpr rfl
    have hnoBreak : ∀ c ∈ ['\u00a0'], Text.isBlank c = true := List.forall_mem_singleton.mpr rfl
    refine ⟨_, .indented ⟨_, .cons (List.cons_ne_nil ' ' []) hspace (.inr rfl) .nil, rfl⟩
      (List.cons_ne_nil _ _) (by decide)
      (.cons hbreak (.verbatim ⟨_, .nil, rfl⟩ (.cons (.text " ") .nil))
        (.cons hnoBreak (.emptyTag ⟨_, .nil, rfl⟩) (.nil (List.forall_mem_nil _)))),
      by decide +kernel⟩
  have hparse := (parse_written.1 t ht).2 _ hwritten
  rw [String.ofList_toList] at hparse
  exact ⟨ht, hwritten, hparse, parse_written.2 document t hparse t .root rfl⟩

end SettingsForm.Markup
