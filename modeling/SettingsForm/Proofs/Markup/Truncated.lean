import SettingsForm.Proofs.Markup.Content
import Mathlib.Data.List.Infix

/-!
# Where the root ends

The bracket that closes the root element of a document is told by its tags alone
(`beforeRootEnd?`). Before it no element is complete that has none around it, so the tree has no
root (`exists_rootEnd`), and a document that ends without a root is rejected, whatever the cut has
left of its last token (`Reading.finish_of_no_root`). So a document that was cut off there is none,
while up to and with the bracket it is one already (`rejected_of_cut`).
-/

namespace SettingsForm.Markup

/-! ## Where the root ends -/

/-- How many elements are open after a token. -/
def Token.depthAfter (depth : Nat) : Token → Nat
  | .openTag _ => depth + 1
  | .closeTag _ => depth - 1
  | _ => depth

/-- With so many elements open, the token ends an element with none around it. -/
def Token.endsOutermost (depth : Nat) : Token → Bool
  | .emptyTag _ => depth = 0
  | .closeTag _ => depth = 1
  | _ => false

/-- The characters before the one that completes the first element with none around it, read on from
a place with so many elements open. -/
def beforeEnd? (p : Place) (depth : Nat) : List Char → Option (List Char)
  | [] => none
  | c :: cs =>
    match p.step c with
    | .error _ => none
    | .ok (next, none) => (beforeEnd? next depth cs).map (c :: ·)
    | .ok (next, some token) =>
      if token.endsOutermost depth then some []
      else (beforeEnd? next (token.depthAfter depth) cs).map (c :: ·)

/-- The characters of a document before the bracket that closes its root element. -/
def beforeRootEnd? (document : String) : Option (List Char) :=
  match document.toList with
  | '\ufeff' :: cs => (beforeEnd? .start 0 cs).map ('\ufeff' :: ·)
  | cs => beforeEnd? .start 0 cs

theorem textToken?_eq_some {seen : List Char} {token : Token} (htoken : textToken? seen = some token) :
    token = .text seen.reverse := by
  unfold textToken? at htoken
  split at htoken
  · cases htoken
  · exact (Option.some.inj htoken).symm

/-- A token that ends an element is complete with a closing bracket. -/
theorem step_of_endsOutermost {p next : Place} {c : Char} {token : Token} {depth : Nat}
    (hstep : p.step c = .ok (next, some token)) (hends : token.endsOutermost depth = true) :
    c = '>' ∧ next = .start := by
  have htag {closing : Bool} {quote : Option Char} {seen : List Char}
      (hstep : Place.stepTag closing quote seen c = (next, some token)) :
      c = '>' ∧ next = .start := by
    unfold Place.stepTag at hstep
    split at hstep
    · cases hstep
    · split at hstep
      · rename_i hc
        exact ⟨hc, (congrArg Prod.fst hstep).symm⟩
      · split at hstep <;> cases hstep
  cases p with
  | inText seen =>
    simp only [Place.step] at hstep
    split at hstep
    · have htext := textToken?_eq_some (congrArg Prod.snd (Except.ok.inj hstep))
      rw [htext] at hends
      cases hends
    · cases hstep
  | afterAngle =>
    simp only [Place.step] at hstep
    split_ifs at hstep
    · cases hstep
    · cases hstep
    · cases hstep
    · exact htag (Except.ok.inj hstep)
  | afterMark =>
    simp only [Place.step] at hstep
    split_ifs at hstep <;> cases hstep
  | inOpening kind left =>
    cases left with
    | nil => cases hstep
    | cons expected left =>
      simp only [Place.step] at hstep
      split_ifs at hstep <;> cases hstep
  | inComment seen =>
    simp only [Place.step] at hstep
    split at hstep <;> cases hstep
  | inCharacterData seen =>
    simp only [Place.step] at hstep
    split at hstep
    · have hdata := congrArg Prod.snd (Except.ok.inj hstep)
      rw [← Option.some.inj hdata] at hends
      cases hends
    · cases hstep
  | inDoctype depth seen =>
    simp only [Place.step] at hstep
    split at hstep
    · cases hstep
    · split at hstep
      · split at hstep
        · split at hstep <;> cases hstep
        · cases hstep
      · cases hstep
  | inInstruction seen =>
    simp only [Place.step] at hstep
    split at hstep
    · split at hstep
      · cases hstep
      · split at hstep <;> cases hstep
    · cases hstep
  | inTag closing quote seen => exact htag (Except.ok.inj hstep)

/-! ## Trees without a root -/

namespace Tree

variable {t next : Tree} {token : Token}

@[simp] theorem addChild_root (t : Tree) (n : Node) : (t.addChild n).root = t.root := by
  obtain ⟨frames, root⟩ := t
  cases frames <;> rfl

@[simp] theorem length_frames_addChild (t : Tree) (n : Node) :
    (t.addChild n).frames.length = t.frames.length := by
  obtain ⟨frames, root⟩ := t
  cases frames <;> rfl

theorem attach_of_no_frames (hframes : t.frames = []) (hroot : t.root = none) (e : Element) :
    t.attach e = ⟨[], some e⟩ := by
  obtain ⟨frames, root⟩ := t
  subst hframes hroot
  rfl

theorem attach_of_frames (hframes : t.frames ≠ []) (e : Element) :
    t.attach e = t.addChild e.toNode := by
  obtain ⟨frames, root⟩ := t
  cases frames with
  | nil => exact absurd rfl hframes
  | cons => rfl

theorem attach_root {root : Element} (hroot : t.root = some root) (e : Element) :
    (t.attach e).root = some root := by
  obtain ⟨frames, _⟩ := t
  subst hroot
  cases frames <;> rfl

/-- What adding a token can do to a tree. -/
theorem add_cases (hadd : t.add token = .ok next) :
    (∃ n, next = t.addChild n ∧ ∀ depth, token.depthAfter depth = depth ∧
      token.endsOutermost depth = false) ∨
    (∃ content e, token = .emptyTag content ∧ next = t.attach e) ∨
    (∃ content frame, token = .openTag content ∧ next = { t with frames := frame :: t.frames }) ∨
    ∃ name frame rest e, token = .closeTag name ∧ t.frames = frame :: rest ∧
      next = attach { t with frames := rest } e := by
  unfold add at hadd
  split at hadd
  · split at hadd
    · exact .inl ⟨_, (Except.ok.inj hadd).symm, fun depth => ⟨rfl, rfl⟩⟩
    · cases hadd
  · exact .inl ⟨_, (Except.ok.inj hadd).symm, fun depth => ⟨rfl, rfl⟩⟩
  · split at hadd
    · exact .inr (.inl ⟨_, _, rfl, (Except.ok.inj hadd).symm⟩)
    · cases hadd
  · split at hadd
    · exact .inr (.inr (.inl ⟨_, _, rfl, (Except.ok.inj hadd).symm⟩))
    · cases hadd
  · split at hadd
    · cases hadd
    · rename_i hframes
      exact .inr (.inr (.inr ⟨_, _, _, _, rfl, hframes, (Except.ok.inj hadd).symm⟩))

/-- A tree keeps its root. -/
theorem add_root {root : Element} (hroot : t.root = some root) (hadd : t.add token = .ok next) :
    next.root = some root := by
  obtain ⟨n, rfl, -⟩ | ⟨content, e, -, rfl⟩ | ⟨content, frame, -, rfl⟩ |
    ⟨name, frame, rest, e, -, -, rfl⟩ := add_cases hadd
  · rw [addChild_root, hroot]
  · exact attach_root hroot e
  · exact hroot
  · exact attach_root (t := { t with frames := rest }) hroot e

/-- A token that ends an element with none around it gives the tree its root. -/
theorem add_last (hroot : t.root = none) (hends : token.endsOutermost t.frames.length = true)
    (hadd : t.add token = .ok next) : ∃ root, next = ⟨[], some root⟩ := by
  obtain ⟨n, rfl, hinside⟩ | ⟨content, e, rfl, rfl⟩ | ⟨content, frame, rfl, rfl⟩ |
    ⟨name, frame, rest, e, rfl, hframes, rfl⟩ := add_cases hadd
  · rw [(hinside _).2] at hends
    cases hends
  · have hframes : t.frames = [] := by simpa [Token.endsOutermost] using hends
    exact ⟨e, attach_of_no_frames hframes hroot e⟩
  · cases hends
  · have hrest : rest = [] := by simpa [Token.endsOutermost, hframes] using hends
    exact ⟨e, attach_of_no_frames (t := { t with frames := rest }) hrest hroot e⟩

/-- Any other token gives it none. -/
theorem add_inside (hroot : t.root = none) (hends : token.endsOutermost t.frames.length = false)
    (hadd : t.add token = .ok next) :
    next.root = none ∧ next.frames.length = token.depthAfter t.frames.length := by
  obtain ⟨n, rfl, hinside⟩ | ⟨content, e, rfl, rfl⟩ | ⟨content, frame, rfl, rfl⟩ |
    ⟨name, frame, rest, e, rfl, hframes, rfl⟩ := add_cases hadd
  · rw [addChild_root, length_frames_addChild, (hinside _).1]
    exact ⟨hroot, rfl⟩
  · have hframes : t.frames ≠ [] := by simpa [Token.endsOutermost] using hends
    rw [attach_of_frames hframes, addChild_root, length_frames_addChild]
    exact ⟨hroot, rfl⟩
  · exact ⟨hroot, rfl⟩
  · have hrest : rest ≠ [] := by simpa [Token.endsOutermost, hframes] using hends
    have hattach : attach { t with frames := rest } e =
        addChild { t with frames := rest } e.toNode := attach_of_frames hrest e
    rw [hattach, addChild_root, length_frames_addChild, hframes]
    exact ⟨hroot, rfl⟩

theorem root_of_finish {root : Element} (hfinish : t.finish = .ok root) : t.root = some root := by
  unfold finish at hfinish
  split at hfinish
  · cases hfinish
  · rename_i found _ hroot
    rw [hroot, Except.ok.inj hfinish]
  · cases hfinish

end Tree

namespace Reading

variable {r next : Reading}

/-- Reading a character leads to the next place, and to the tree with what was completed. -/
theorem step_cases {c : Char} (hstep : r.step c = .ok next) :
    (r.place.step c = .ok (next.place, none) ∧ next.tree = r.tree) ∨
      ∃ token, r.place.step c = .ok (next.place, some token) ∧
        r.tree.add token = .ok next.tree := by
  unfold step at hstep
  split at hstep
  · rename_i place token hplace
    obtain ⟨rfl, hadd⟩ := accept?_tree hstep
    cases token with
    | none => exact .inl ⟨hplace, (Except.ok.inj hadd).symm⟩
    | some token =>
      refine .inr ⟨token, hplace, ?_⟩
      simpa using hadd
  · cases hstep

/-- Reading on keeps the root. -/
theorem run_root {cs : List Char} {root : Element} (hroot : r.tree.root = some root)
    (hrun : r.run cs = .ok next) : next.tree.root = some root := by
  induction cs generalizing r with
  | nil => rwa [← Except.ok.inj hrun]
  | cons c cs ih =>
    unfold run at hrun
    split at hrun
    · rename_i middle hstep
      refine ih ?_ hrun
      rcases step_cases hstep with ⟨-, htree⟩ | ⟨token, -, hadd⟩
      · rw [htree, hroot]
      · exact Tree.add_root hroot hadd
    · cases hrun

theorem text_of_finish {p : Place} {token : Token} (hfinish : p.finish = .ok (some token)) :
    ∃ raw, token = .text raw := by
  cases p with
  | inText seen => exact ⟨_, textToken?_eq_some (Except.ok.inj hfinish)⟩
  | _ => cases hfinish

/-- The end of a document can complete text only. -/
theorem finish_cases {root : Element} (hfinish : r.finish = .ok root) :
    ∃ t : Tree, t.root = some root ∧ (t = r.tree ∨ ∃ raw, r.tree.add (.text raw) = .ok t) := by
  unfold finish at hfinish
  split at hfinish
  · cases hfinish
  · rename_i token htoken
    split at hfinish
    · rename_i last hlast
      refine ⟨last.tree, Tree.root_of_finish hfinish, ?_⟩
      have hadd := (accept?_tree hlast).2
      cases token with
      | none => exact .inl (Except.ok.inj hadd).symm
      | some token =>
        obtain ⟨raw, rfl⟩ := text_of_finish htoken
        exact .inr ⟨raw, by simpa using hadd⟩
    · cases hfinish

/-- A document that has a root when it ends is that root. -/
theorem finish_of_root {root result : Element} (hroot : r.tree.root = some root)
    (hfinish : r.finish = .ok result) : result = root := by
  obtain ⟨t, hresult, rfl | ⟨raw, hadd⟩⟩ := finish_cases hfinish
  · exact Option.some.inj (hresult.symm.trans hroot)
  · exact Option.some.inj (hresult.symm.trans (Tree.add_root hroot hadd))

/-- A document that has no root when it ends is none. -/
theorem finish_of_no_root (hroot : r.tree.root = none) : ∃ fault, r.finish = .error fault := by
  cases hfinish : r.finish with
  | error fault => exact ⟨fault, rfl⟩
  | ok root =>
    obtain ⟨t, hresult, rfl | ⟨raw, hadd⟩⟩ := finish_cases hfinish
    · rw [hroot] at hresult
      cases hresult
    · rw [(Tree.add_inside hroot rfl hadd).1] at hresult
      cases hresult

end Reading

/-! ## The root and what stands before it -/

/-- Read from a place without a root, the characters have a bracket that completes it: cut off before
that they leave no root, and cut off right after it the root is complete. -/
structure RootEnd (r : Reading) (cs : List Char) (root : Element) (before after : List Char) :
    Prop where
  found : beforeEnd? r.place r.tree.frames.length cs = some before
  split : cs = before ++ '>' :: after
  no_root : ∀ cut reached, cut <+: before → r.run cut = .ok reached → reached.tree.root = none
  complete : ∃ done, r.run (before ++ ['>']) = .ok done ∧ done.finish = .ok root

variable {r next : Reading} {cs before after : List Char} {root : Element}

/-- A character that completes no root stands before the bracket that does. -/
theorem RootEnd.cons {c : Char} (hstep : r.step c = .ok next) (hroot : r.tree.root = none)
    (hnext : RootEnd next cs root before after)
    (hfound : beforeEnd? r.place r.tree.frames.length (c :: cs) =
      (beforeEnd? next.place next.tree.frames.length cs).map (c :: ·)) :
    RootEnd r (c :: cs) root (c :: before) after := by
  refine ⟨?_, ?_, fun cut reached hprefix hreached => ?_, ?_⟩
  · rw [hfound, hnext.found]
    rfl
  · rw [hnext.split]
    rfl
  · cases cut with
    | nil => rwa [← Except.ok.inj hreached]
    | cons d cut =>
      obtain ⟨rfl, hrest⟩ := List.cons_prefix_cons.mp hprefix
      rw [Reading.run, hstep] at hreached
      exact hnext.no_root cut reached hrest hreached
  · obtain ⟨done, hdone, hfinish⟩ := hnext.complete
    refine ⟨done, ?_, hfinish⟩
    rw [List.cons_append, Reading.run, hstep]
    exact hdone

/-- A bracket that gives the tree the root that it ends with is the one. -/
theorem RootEnd.here (hstep : r.step '>' = .ok next) (hroot : r.tree.root = none)
    (hplace : next.place = .start) (htree : next.tree = ⟨[], some root⟩)
    (hfound : beforeEnd? r.place r.tree.frames.length ('>' :: cs) = some []) :
    RootEnd r ('>' :: cs) root [] cs := by
  refine ⟨hfound, rfl, fun cut reached hprefix hreached => ?_, next, ?_, ?_⟩
  · obtain rfl := List.prefix_nil.mp hprefix
    rwa [← Except.ok.inj hreached]
  · rw [List.nil_append, Reading.run, hstep]
    rfl
  · rw [Reading.finish, hplace]
    simp only [Place.start, Place.finish, textToken?, List.isEmpty_nil, if_true, Reading.accept?,
      htree]
    rfl

/-- What is read to a root from a place without one has a bracket that completes it. -/
theorem exists_rootEnd {last : Reading} (hrun : r.run cs = .ok last)
    (hfinish : last.finish = .ok root) (hroot : r.tree.root = none) :
    ∃ before after, RootEnd r cs root before after := by
  induction cs generalizing r with
  | nil =>
    obtain rfl := Except.ok.inj hrun
    obtain ⟨fault, herror⟩ := Reading.finish_of_no_root hroot
    rw [herror] at hfinish
    cases hfinish
  | cons c cs ih =>
    unfold Reading.run at hrun
    split at hrun
    case h_2 => cases hrun
    rename_i next hstep
    rcases Reading.step_cases hstep with ⟨hplace, htree⟩ | ⟨token, hplace, hadd⟩
    · obtain ⟨before, after, hnext⟩ := ih hrun (htree ▸ hroot)
      refine ⟨c :: before, after, hnext.cons hstep hroot ?_⟩
      rw [beforeEnd?, hplace, htree]
    · cases hends : token.endsOutermost r.tree.frames.length with
      | false =>
        obtain ⟨hnone, hdepth⟩ := Tree.add_inside hroot hends hadd
        obtain ⟨before, after, hnext⟩ := ih hrun hnone
        refine ⟨c :: before, after, hnext.cons hstep hroot ?_⟩
        rw [beforeEnd?, hplace, hdepth]
        simp only [hends, Bool.false_eq_true, if_false]
      | true =>
        obtain ⟨rfl, hstart⟩ := step_of_endsOutermost hplace hends
        obtain ⟨found, hfound⟩ := Tree.add_last hroot hends hadd
        have hnext : next.tree.root = some found := by rw [hfound]
        obtain rfl := Reading.finish_of_root (Reading.run_root hnext hrun) hfinish
        refine ⟨[], cs, .here hstep hroot hstart hfound ?_⟩
        rw [beforeEnd?, hplace]
        simp only [hends, if_true]

/-! ## Documents -/

theorem withoutByteOrderMark_of_no_mark {xs : List Char} (hxs : xs <+: cs)
    (hcs : ∀ rest, cs ≠ '\ufeff' :: rest) : withoutByteOrderMark xs = xs := by
  unfold withoutByteOrderMark
  split
  · obtain ⟨rest, rfl⟩ := hxs
    exact absurd rfl (hcs _)
  · rfl

/-- A byte order mark belongs to what stands before the bracket. -/
theorem exists_rootEnd_of_parse {document : String} (hroot : parse document = .ok root) :
    ∃ mark before after, document.toList = mark ++ (before ++ '>' :: after) ∧
      beforeRootEnd? document = some (mark ++ before) ∧
      RootEnd .start (before ++ '>' :: after) root before after ∧
      ∀ cut, cut <+: mark ++ (before ++ '>' :: after) → cut = [] ∨
        ∃ rest, cut = mark ++ rest ∧ withoutByteOrderMark cut = rest := by
  unfold parse at hroot
  split at hroot
  case h_2 => cases hroot
  rename_i last hrun
  by_cases hmark : ∃ rest, document.toList = '\ufeff' :: rest
  · obtain ⟨rest, hrest⟩ := hmark
    rw [hrest] at hrun
    obtain ⟨before, after, hend⟩ := exists_rootEnd hrun hroot rfl
    have hsplit := hend.split
    obtain rfl : rest = before ++ '>' :: after := hsplit
    refine ⟨['\ufeff'], before, after, hrest, ?_, hend, fun cut hcut => ?_⟩
    · have hfound : beforeEnd? .start 0 (before ++ '>' :: after) = some before := hend.found
      rw [beforeRootEnd?, hrest]
      simp only [hfound, Option.map_some]
      rfl
    · cases cut with
      | nil => exact .inl rfl
      | cons c cut =>
        obtain ⟨rfl, -⟩ := List.cons_prefix_cons.mp hcut
        exact .inr ⟨cut, rfl, rfl⟩
  · have hnone : ∀ rest, document.toList ≠ '\ufeff' :: rest := fun rest h => hmark ⟨rest, h⟩
    rw [withoutByteOrderMark_of_no_mark (List.prefix_refl _) hnone] at hrun
    obtain ⟨before, after, hend⟩ := exists_rootEnd hrun hroot rfl
    have hsplit := hend.split
    refine ⟨[], before, after, hsplit, ?_, hsplit ▸ hend, fun cut hcut => .inr ⟨cut, rfl, ?_⟩⟩
    · rw [beforeRootEnd?]
      split
      · rename_i rest hrest
        exact absurd hrest (hnone rest)
      · exact hend.found
    · rw [List.nil_append, ← hsplit] at hcut
      exact withoutByteOrderMark_of_no_mark hcut hnone

/-- A document has a bracket that closes its root, and cut off before it, it is rejected. -/
theorem rejected_of_cut {document : String} (hroot : parse document = .ok root) :
    ∃ before after, beforeRootEnd? document = some before ∧
      document.toList = before ++ '>' :: after ∧
      parse (.ofList (before ++ ['>'])) = .ok root ∧
      ∀ cut : String, cut.toList <+: before → ∃ fault, parse cut = .error fault := by
  obtain ⟨mark, before, after, hsplit, hfound, hend, hmark⟩ := exists_rootEnd_of_parse hroot
  refine ⟨mark ++ before, after, hfound, by rw [hsplit, List.append_assoc], ?_, fun cut hcut => ?_⟩
  · obtain ⟨done, hdone, hfinish⟩ := hend.complete
    have hprefix : mark ++ before ++ ['>'] <+: mark ++ (before ++ '>' :: after) := ⟨after, by simp⟩
    have hread : withoutByteOrderMark (mark ++ before ++ ['>']) = before ++ ['>'] := by
      rcases hmark _ hprefix with hnil | ⟨rest, hcut, hrest⟩
      · simp at hnil
      · rw [List.append_assoc] at hcut
        rw [hrest, List.append_cancel_left hcut]
    rw [parse, String.toList_ofList, hread, hdone]
    exact hfinish
  · have hprefix : cut.toList <+: mark ++ (before ++ '>' :: after) :=
      hcut.trans ⟨'>' :: after, List.append_assoc _ _ _⟩
    obtain ⟨rest, hread, hrest⟩ : ∃ rest, withoutByteOrderMark cut.toList = rest ∧
        rest <+: before := by
      rcases hmark _ hprefix with hnil | ⟨rest, hcutRest, hread⟩
      · exact ⟨[], by rw [hnil]; rfl, List.nil_prefix⟩
      · rw [hcutRest, List.prefix_append_right_inj] at hcut
        exact ⟨rest, hread, hcut⟩
    rw [parse, hread]
    split
    · rename_i reached hreached
      exact Reading.finish_of_no_root (hend.no_root rest reached hrest hreached)
    · exact ⟨_, rfl⟩

end SettingsForm.Markup
