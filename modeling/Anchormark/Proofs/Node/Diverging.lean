import Anchormark.Proofs.Node.SideBySide

/-!
# Trees That Stay Apart

A difference between two runs stays whatever comes, unless an image covers it up. It begins in an
item: one of its two forms holds more raw HTML among its blocks than the other. Since the same is
appended to both, this does not change. Once the item is closed, two nodes of the same kind stand at
the same place of two frames that are otherwise the same. Nothing that comes behind them can merge
with them, so they are carried down to the root, one level at a time.

## Main definitions

* `htmlCount`: how many of the nodes are raw HTML.
* `Node.Differs`, `Frame.Differs`: the one difference that there is.

## Theorems

* `Node.Differs.ne`: Trees that differ are not equal.
* `Frame.Differs.append`: A difference stays when the same is appended.
* `Frame.differs_append`: Nodes that differ make a difference when they are appended.
* `Frame.carried_differs`: Events carry the difference along.
-/

namespace Anchormark

/-- The number of nodes that are raw HTML. -/
def htmlCount (cs : List Node) : Nat :=
  cs.countP (·.type = .html)

theorem htmlCount_append (cs ds : List Node) :
    htmlCount (cs ++ ds) = htmlCount cs + htmlCount ds :=
  List.countP_append

/-- Only the type of a node counts. -/
theorem htmlCount_singleton_congr {n n' : Node} (h : n.type = n'.type) :
    htmlCount [n] = htmlCount [n'] := by
  rw [htmlCount, htmlCount, List.countP_singleton, List.countP_singleton, h]

/-- A node counts when it is appended. The text it may join is no raw HTML, and nor is it. -/
theorem htmlCount_appendMerged (cs : List Node) (n : Node) :
    htmlCount (appendMerged cs n) = htmlCount cs + htmlCount [n] := by
  rcases appendMerged_cases cs n with ⟨heq, -⟩ | ⟨front, last, merged, hsplit, hmerge, heq⟩
  · rw [heq, htmlCount_append]
  · rcases Node.types_of_mergeText? hmerge with ⟨hlast, hn⟩
    have hmerged : merged.type = .text := by
      rcases Node.mergeText?_eq_some hmerge with ⟨value, incoming, span, -, -, hmerged⟩
      rw [hmerged]
      rfl
    have hnone : htmlCount [n] = 0 := by
      rw [htmlCount, List.countP_singleton, hn]
      rfl
    rw [heq, hsplit, htmlCount_append, htmlCount_append, hnone, Nat.add_zero,
      htmlCount_singleton_congr (hmerged.trans hlast.symm)]

/-- What goes into the last paragraph does not count. -/
theorem htmlCount_growLast (cs : List Node) (n : Node) :
    htmlCount (Frame.growLast cs n) = htmlCount cs := by
  rcases List.eq_nil_or_concat cs with rfl | ⟨front, paragraph, hcs⟩
  · rfl
  · rcases Frame.growLast_append front paragraph n with ⟨span, hgrow⟩
    rw [hcs, List.concat_eq_append, hgrow, htmlCount_append, htmlCount_append]
    exact congrArg _ (htmlCount_singleton_congr rfl)

/-- Two trees that differ in one place: there, of two items one holds more raw HTML among its blocks
    than the other. -/
inductive Node.Differs : Node → Node → Prop
  | item {n n' : Node} (hkind : n.kind = n'.kind) (hitem : n.type = .listItem)
      (hcount : htmlCount n'.children < htmlCount n.children) : Differs n n'
  | within {n n' m m' : Node} {front back : List Node} (hkind : n.kind = n'.kind)
      (htext : n.type ≠ .text) (hchildren : n.children = front ++ m :: back)
      (hchildren' : n'.children = front ++ m' :: back) (h : Differs m m') : Differs n n'

/-- A node that is no text stays as it is when others are appended behind it. -/
theorem exists_appendMerged_behind (back : List Node) (n : Node) :
    ∃ back', ∀ front m, m.type ≠ .text → appendMerged (front ++ m :: back) n =
      front ++ m :: back' := by
  rcases List.eq_nil_or_concat back with rfl | ⟨inner, last, hback⟩
  · refine ⟨[n], fun front m hm => ?_⟩
    rw [appendMerged_concat, appendMerged_singleton]
    cases hmerge : m.mergeText? n with
    | none => rfl
    | some merged => exact absurd (Node.types_of_mergeText? hmerge).1 hm
  · refine ⟨inner ++ appendMerged [last] n, fun front m _ => ?_⟩
    rw [hback, List.concat_eq_append, ← List.cons_append, ← List.append_assoc,
      appendMerged_concat, List.append_assoc, List.cons_append]

/-- A node that is no text goes to the end. -/
theorem appendMerged_of_type {n : Node} (hn : n.type ≠ .text) (cs : List Node) :
    appendMerged cs n = cs ++ [n] := by
  rcases appendMerged_cases cs n with ⟨heq, -⟩ | ⟨_, _, _, -, hmerge, -⟩
  · exact heq
  · exact absurd (Node.types_of_mergeText? hmerge).2 hn

namespace Node.Differs

variable {n n' : Node} (h : n.Differs n')
include h

theorem kind_eq : n.kind = n'.kind := by
  cases h <;> assumption

theorem type_eq : n.type = n'.type := by
  rw [type, type, h.kind_eq]

theorem type_ne_text : n.type ≠ .text := by
  cases h with
  | item _ hitem _ =>
      rw [hitem]
      exact NodeType.noConfusion
  | within _ htext _ _ _ => exact htext

/-- Trees that differ are not equal. -/
theorem ne : n ≠ n' := by
  induction h with
  | item _ _ hcount =>
      rintro rfl
      exact Nat.lt_irrefl _ hcount
  | within _ _ hchildren hchildren' _ ih =>
      rintro rfl
      rw [hchildren, List.append_cancel_left_eq, List.cons.injEq] at hchildren'
      exact ih hchildren'.1

/-- They differ as well when the same goes to the end of the children of both. -/
theorem grow (m : Node) (span span' : Option Span) :
    Differs { n with span, children := appendMerged n.children m }
      { n' with span := span', children := appendMerged n'.children m } := by
  cases h with
  | item hkind hitem hcount =>
      refine .item hkind hitem ?_
      rw [htmlCount_appendMerged, htmlCount_appendMerged]
      exact Nat.add_lt_add_right hcount _
  | @within _ _ inner inner' front back hkind htext hchildren hchildren' h =>
      rcases exists_appendMerged_behind back m with ⟨back', hbehind⟩
      have hgrown := hbehind front inner h.type_ne_text
      have hgrown' := hbehind front inner' (h.type_eq ▸ h.type_ne_text)
      rw [← hchildren] at hgrown
      rw [← hchildren'] at hgrown'
      exact .within hkind htext hgrown hgrown' h

end Node.Differs

/-- Two forms of a frame that differ in one place: the frame is an item with more raw HTML among its
    blocks, or the place is further in. -/
inductive Frame.Differs (f : Frame) : Frame → Prop
  | item {children : List Node} {tightParagraph : Bool} (hitem : f.isItem = true)
      (hdissolves : f.dissolves = false) (hcount : htmlCount children < htmlCount f.children) :
      Differs f { f with children, tightParagraph }
  | within {front back : List Node} {m m' : Node} (h : m.Differs m')
      (hchildren : f.children = front ++ m :: back) :
      Differs f { f with children := front ++ m' :: back }

namespace Frame

/-- What stands in running text goes into paragraphs of an item, and does not count. -/
theorem htmlCount_append {f : Frame} (hitem : f.isItem = true) (n : Node) (inline : Bool) :
    htmlCount (f.append n inline).children =
      htmlCount f.children + if inline then 0 else htmlCount [n] := by
  cases inline with
  | false =>
      rw [append_among (Bool.false_and _)]
      exact htmlCount_appendMerged f.children n
  | true =>
      cases htight : f.tightParagraph with
      | true =>
          rw [append_tight hitem htight]
          exact htmlCount_growLast f.children n
      | false =>
          rw [append_loose hitem htight]
          exact Anchormark.htmlCount_append _ _

/-- Content that goes into the last paragraph goes behind a node that is no paragraph, or into
    it. -/
theorem exists_growLast_behind (back : List Node) (n : Node) :
    (∃ back', ∀ front m, growLast (front ++ m :: back) n = front ++ m :: back') ∨
      ∀ front (m : Node), ∃ span, growLast (front ++ m :: back) n =
        front ++ [{ m with span, children := appendMerged m.children n }] := by
  rcases List.eq_nil_or_concat back with rfl | ⟨inner, last, hback⟩
  · exact .inr fun front m => growLast_append front m n
  · refine .inl ⟨inner ++ growLast [last] n, fun front m => ?_⟩
    rw [hback, List.concat_eq_append, ← List.cons_append, ← List.append_assoc, growLast_concat,
      List.append_assoc, List.cons_append]

namespace Differs

variable {f f' : Frame} (h : f.Differs f')
include h

theorem form : ∃ children tightParagraph, f' = { f with children, tightParagraph } := by
  cases h <;> exact ⟨_, _, rfl⟩

/-- A difference stays when the same is appended. -/
theorem append (n : Node) (inline : Bool) : (f.append n inline).Differs (f'.append n inline) := by
  cases h with
  | @item children tight hitem hdissolves hcount =>
      -- Both frames get the same number of HTML nodes more.
      have hcount' := Nat.add_lt_add_right hcount (if inline then 0 else htmlCount [n])
      rw [← htmlCount_append hitem,
        ← htmlCount_append (f := { f with children, tightParagraph := tight }) hitem] at hcount'
      rcases f.append_eq n inline with ⟨cs, t, heq⟩
      rcases append_eq { f with children, tightParagraph := tight } n inline with ⟨cs', t', heq'⟩
      rw [heq, heq'] at hcount' ⊢
      exact .item hitem hdissolves hcount'
  -- The nodes that differ are not at the end, or they are no texts, so they stay as they are.
  | @within front back m m' h hchildren =>
      cases hinline : inline && f.isItem with
      | false =>
          rcases exists_appendMerged_behind back n with ⟨back', hbehind⟩
          rw [append_among hinline, append_among (by exact hinline), hchildren,
            hbehind front m h.type_ne_text, hbehind front m' (h.type_eq ▸ h.type_ne_text)]
          exact .within h rfl
      | true =>
          rcases Bool.and_eq_true_iff.mp hinline with ⟨rfl, hitem⟩
          rcases Bool.eq_false_or_eq_true f.tightParagraph with htight | htight
          · rw [append_tight hitem htight, append_tight (by exact hitem) (by exact htight),
              hchildren]
            rcases exists_growLast_behind back n with ⟨back', hgrow⟩ | hgrow
            · rw [hgrow, hgrow]
              exact .within h rfl
            · rcases hgrow front m with ⟨span, hgrown⟩
              rcases hgrow front m' with ⟨span', hgrown'⟩
              rw [hgrown, hgrown']
              exact .within (h.grow n span span') rfl
          · rw [append_loose hitem htight, append_loose (by exact hitem) (by exact htight),
              hchildren, List.append_assoc, List.append_assoc]
            exact .within h rfl

/-- It stays when the kind changes, but not the type. -/
theorem edit {kind : Kind} (htype : kind.type = f.kind.type) (t : Bool → Bool) :
    Differs { f with kind, tightParagraph := t f.tightParagraph }
      { f' with kind, tightParagraph := t f'.tightParagraph } := by
  cases h with
  | item hitem hdissolves hcount =>
      refine .item ?_ hdissolves hcount
      rw [isItem_iff_shape] at hitem ⊢
      exact htype.trans hitem
  | within h hchildren => exact .within h hchildren

/-- Two forms of a frame become nodes that differ, unless it is an image. -/
theorem toNode (himage : f.kind.type ≠ .image) (htext : f.kind.type ≠ .text) :
    f.toNode.Differs f'.toNode := by
  cases h with
  | item hitem _ hcount =>
      rcases f with ⟨kind, span, children, inline, dissolves, tight⟩
      cases kind with
      | listItem spread checked => exact .item rfl rfl hcount
      | _ => exact absurd hitem Bool.false_ne_true
  | @within front back m m' h hchildren =>
      rcases f with ⟨kind, span, children, inline, dissolves, tight⟩
      obtain rfl : children = front ++ m :: back := hchildren
      cases kind with
      | image => exact absurd rfl himage
      | list ordered start spread =>
          refine .within ?_ NodeType.noConfusion rfl rfl h
          -- Whether an item is spread says its kind.
          have hspread : m.isSpreadItem = m'.isSpreadItem := by
            rw [Node.isSpreadItem, Node.isSpreadItem, h.kind_eq]
          simp only [Frame.toNode, List.any_append, List.any_cons, hspread]
      | _ => exact .within rfl htext rfl rfl h

end Differs

/-- Nodes that differ make a difference when they are appended. -/
theorem differs_append {f : Frame} (hf : f.IsFresh) {m m' : Node} (h : m.Differs m')
    (inline : Bool) : (f.append m inline).Differs (f.append m' inline) := by
  have hm : m.type ≠ .text := h.type_ne_text
  have hm' : m'.type ≠ .text := h.type_eq ▸ hm
  cases hinline : inline && f.isItem with
  | false =>
      rw [append_among hinline, append_among hinline, appendMerged_of_type hm,
        appendMerged_of_type hm']
      exact .within h rfl
  | true =>
      rcases Bool.and_eq_true_iff.mp hinline with ⟨rfl, hitem⟩
      rcases Bool.eq_false_or_eq_true f.tightParagraph with htight | htight
      · -- In a tight item the difference is one level deeper, in the paragraph.
        rcases (hf.tight htight).2 with ⟨front, paragraph, hchildren, hkind⟩
        rcases growLast_append front paragraph m with ⟨span, hgrow⟩
        rcases growLast_append front paragraph m' with ⟨span', hgrow'⟩
        have htext : paragraph.type ≠ .text := by
          rw [Node.type, hkind]
          exact NodeType.noConfusion
        rw [append_tight hitem htight, append_tight hitem htight, hchildren, hgrow, hgrow',
          appendMerged_of_type hm, appendMerged_of_type hm']
        refine .within ?_ rfl
        exact .within rfl htext rfl rfl h
      · rw [append_loose hitem htight, append_loose hitem htight]
        refine .within ?_ rfl
        exact @Node.Differs.within _ _ m m' [] [] rfl NodeType.noConfusion rfl rfl h

/-- A difference goes on to the frame below. -/
theorem Differs.absorb {f g g' : Frame} (hf : f.IsFresh) (hg : g.IsFresh) (h : g.Differs g')
    (himage : g.isImage = false) : (f.absorb g).Differs (f.absorb g') := by
  rw [Frame.absorb, Frame.absorb]
  cases hdissolves : g.dissolves with
  | true =>
      -- An item does not dissolve, so two children differ, and the others go the same way.
      cases h with
      | item _ hnot _ => exact absurd (hnot.symm.trans hdissolves) Bool.false_ne_true
      | @within front back m m' h hchildren =>
          have hfresh := hg.children
          rw [hchildren, List.forall_mem_append] at hfresh
          have hfront : (f.appendAll front).IsFresh := by
            rw [appendAll_eq_fill]
            exact isFresh_fill hf (List.forall_mem_map.mpr hfresh.1)
          have hback {f f' : Frame} (h : f.Differs f') :
              (f.appendAll back).Differs (f'.appendAll back) :=
            List.foldl_rel h fun n _ f f' h => h.append n n.kind.isInline
          rw [if_pos hdissolves, if_pos rfl, hchildren, appendAll, appendAll, List.foldl_append,
            List.foldl_append]
          refine hback ?_
          dsimp only
          rw [← h.kind_eq]
          exact differs_append hfront h _
  | false =>
      rw [isImage, hdissolves, Bool.not_false, Bool.and_true, decide_eq_false_iff_not] at himage
      have hnode := h.toNode himage hg.text
      rcases h.form with ⟨children, tight, rfl⟩
      rw [hdissolves, if_neg Bool.false_ne_true]
      exact differs_append hf hnode _

/-- What is appended is raw HTML, and it does not stand in running text. -/
def isHtmlBlock (i : Node × Bool) : Bool :=
  !i.2 && decide (i.1.type = .html)

theorem htmlCount_fill {f : Frame} (hitem : f.isItem = true) (items : List (Node × Bool)) :
    htmlCount (f.fill items).children = htmlCount f.children + items.countP isHtmlBlock := by
  induction items generalizing f with
  | nil => rfl
  | cons i items ih =>
      have hitem' : (f.append i.1 i.2).isItem = true := by
        rw [isItem_iff_shape, shape_append, ← isItem_iff_shape]
        exact hitem
      have hone : (if i.2 then 0 else htmlCount [i.1]) = if isHtmlBlock i = true then 1 else 0 := by
        rw [htmlCount, List.countP_singleton, isHtmlBlock]
        cases i.2 <;> rfl
      rw [fill, List.foldl_cons, ← fill, ih hitem', htmlCount_append hitem, hone, List.countP_cons,
        Nat.add_assoc, Nat.add_comm (items.countP isHtmlBlock)]

/-- Raw HTML in running text is counted by its kind, though it was not announced as a block. -/
theorem htmlCount_fill_lt {f : Frame} (hitem : f.isItem = true) {items : List (Node × Bool)}
    (h : ∃ i ∈ items, i.2 = true ∧ i.1.type = .html) :
    htmlCount (f.fill items).children <
      htmlCount (f.appendAll (items.map Prod.fst)).children := by
  let byKind (i : Node × Bool) : Node × Bool := (i.1, i.1.kind.isInline)
  have hkind {i : Node × Bool} (hi : i.1.type = .html) :
      (isHtmlBlock ∘ byKind) i = true := by
    change (!i.1.kind.isInline && decide (i.1.type = .html)) = true
    rw [Kind.isInline_of_html hi, hi]
    rfl
  have hle (items : List (Node × Bool)) :
      items.countP isHtmlBlock ≤ items.countP (isHtmlBlock ∘ byKind) := by
    refine List.countP_mono_left fun i _ hi => hkind ?_
    rw [isHtmlBlock, Bool.and_eq_true, decide_eq_true_eq] at hi
    exact hi.2
  -- One node at least counts by its kind, but not by what was said of it.
  rcases h with ⟨i, hi, hinline, htype⟩
  rcases List.append_of_mem hi with ⟨front, back, rfl⟩
  have hnot : isHtmlBlock i = false := by
    rw [isHtmlBlock, hinline]
    rfl
  rw [appendAll_eq_fill, List.map_map, htmlCount_fill hitem, htmlCount_fill hitem,
    List.countP_map]
  calc htmlCount f.children + (front ++ i :: back).countP isHtmlBlock
    _ = htmlCount f.children + (front.countP isHtmlBlock + back.countP isHtmlBlock) := by
      rw [List.countP_append, List.countP_cons_of_neg (by rw [hnot]; exact Bool.false_ne_true)]
    _ < htmlCount f.children + (front.countP (isHtmlBlock ∘ byKind) +
        (back.countP (isHtmlBlock ∘ byKind) + 1)) := by
      have hfront := hle front
      have hback := hle back
      omega
    _ = htmlCount f.children + (front ++ i :: back).countP (isHtmlBlock ∘ byKind) := by
      rw [List.countP_append, List.countP_cons_of_pos (hkind htype)]

/-- Filled by the kinds of the nodes, an item gets more raw HTML, if some stands in running
    text. -/
theorem appendAll_differs_fill {f : Frame} (hitem : f.isItem = true)
    (hdissolves : f.dissolves = false) {items : List (Node × Bool)}
    (h : ∃ i ∈ items, i.2 = true ∧ i.1.type = .html) :
    (f.appendAll (items.map Prod.fst)).Differs (f.fill items) := by
  have hcount := htmlCount_fill_lt hitem h
  rcases f.fill_eq items with ⟨children, tight, hfill⟩
  rcases f.appendAll_eq (items.map Prod.fst) with ⟨children', tight', hfill'⟩
  rw [hfill, hfill'] at hcount ⊢
  exact .item hitem hdissolves hcount

/-- Events carry the difference along, where no image is open around it. -/
theorem carried_differs : Carried fun covered f f' => covered = false ∧ f.Differs f' where
  form h := h.2.form
  append _ _ h n _ inline := ⟨h.1, h.2.append n inline⟩
  edit h _ htype t := ⟨h.1, h.2.edit htype t⟩
  absorb hf hg _ h := by
    rw [Bool.or_eq_false_iff] at h
    exact ⟨h.1.2, h.2.absorb hf.fresh hg.fresh h.1.1⟩

end Frame

end Anchormark
