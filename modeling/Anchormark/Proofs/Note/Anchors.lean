import Anchormark.Proofs.Anchor.Placeholders
import Anchormark.Proofs.Note.Trees
import Anchormark.Proofs.Render.Escaping

/-!
# The Anchors of a Note

What a note is read as has its anchors still written out: a link, and behind it a text that begins
with a block. Resolving moves every block to its link, since it stands in the source just there, and
no text is left with a block of its own. Then each of the links stands in for an anchor, and the
tree is that of the note.

## Main definitions

* `Attached`: the nodes behind the first text, when blocks have been moved.
* `Node.settled`: what resolving and placing anchors makes of a node.

## Theorems

* `settle_anchored`: Every block goes to its link.
* `Shows.unplaced_settled`, `Becomes.unplaced_settled`: Running text gets its anchors, and so does
  every block.
* `unplaced_settled_ofMarkdown`: The tree of a note is read back.
-/

namespace Anchormark

/-- What resolving and placing anchors makes of a node. -/
def Node.settled (source : List Char) (n : Node) : Node :=
  (Resolve.node source n).1.placeAnchors.1

namespace Markdown

/-- The texts behind anchors, when their blocks have been moved to the links. -/
inductive Attached : List (String × List Char) → List Node → Prop
  | nil : Attached [] []
  | cons {id : String} {cs : List Char} {ms : List (String × List Char)} {ns : List Node}
      {here span : Span} (h : Attached ms ns) :
      Attached ((id, cs) :: ms)
        ({ kind := .link "" none, span := here, hint := some id } ::
          { kind := .text (String.ofList cs), span := span } :: ns)

section Settle

open Resolve

variable {text : List Char}

/-- Only a text loses a block. -/
theorem moveLeading?_of_type {target next : Node} (h : next.type ≠ .text) :
    target.moveLeading? text next = none := by
  unfold Node.moveLeading?
  split
  · next hkind => exact absurd (by rw [Node.type, hkind]; rfl) h
  · rfl

theorem opened_of_type (before : Option Node) {n : Node} (h : n.type ≠ .text) :
    opened text before n = n := by
  cases before with
  | none => rfl
  | some b =>
      rw [opened, Option.bind_some, moveLeading?_of_type h]
      rfl

/-- The block behind a link is moved, since it stands in the source. -/
theorem moveLeading?_idChars {id : String} (hid : IsAnchorId id) (cs : List Char)
    (here : Option Span) {span : Span} (hstands : StandsAt text span.start (idChars id)) :
    ∃ span' : Span, Node.moveLeading? text { kind := .link "" none, span := here }
        { kind := .text (String.ofList (idChars id ++ cs)), span := span } =
      some ({ kind := .link "" none, span := here, hint := some id },
        { kind := .text (String.ofList cs), span := span' }) := by
  have hread : AttributeBlock.leading? (idChars id ++ cs) =
      some ({ id := some (String.ofList id.toList) }, cs) := by
    have hblock : idChars id ++ cs = '\x7b' :: '#' :: (id.toList ++ '\x7d' :: cs) := by
      rw [idChars, List.cons_append, List.cons_append, List.append_assoc, List.singleton_append]
    rw [hblock]
    exact AttributeBlock.leading?_id hid.2 cs
  rw [String.ofList_toList] at hread
  have husable : ({ id := some id } : Attributes).usableId = some id :=
    usableId_eq_some_iff.mpr ⟨rfl, hid.1⟩
  refine ⟨_, Node.moveLeading?_eq_some_iff.mpr ⟨rfl, _, idChars id, cs, ⟨rfl, hread, ?_⟩, ?_, rfl⟩⟩
  · rintro s ⟨⟩
    exact hstands
  · rw [Node.attach, husable]
    rfl

/-- Every block goes to its link, whatever is before the first of them. -/
theorem settle_anchored {ms : List (String × List Char)} {ns : List Node}
    (h : Anchored text ms ns) (hids : ∀ m ∈ ms, IsAnchorId m.1) (before : Option Node) :
    ∃ ns', Attached ms ns' ∧
      settle text before (ns.map fun n => (n, 0)) = ns'.map fun n => (n, 0) := by
  induction h generalizing before with
  | nil => exact ⟨[], .nil, rfl⟩
  | @cons id cs ms ns here span hstands h ih =>
      rw [List.forall_mem_cons] at hids
      set l : Node := { kind := .link "" none, span := here }
      set t : Node := { kind := .text (String.ofList (idChars id ++ cs)), span := span }
      rcases moveLeading?_idChars hids.1 cs (some here) hstands with ⟨span', hmove⟩
      rcases ih hids.2 (some t) with ⟨ns', hns', hsettle⟩
      set l' : Node := { kind := .link "" none, span := here, hint := some id }
      set t' : Node := { kind := .text (String.ofList cs), span := span' }
      -- The link takes the identifier for its hint, and the text keeps what is behind the block.
      have hmarked : marked text l (some t) = l' := by
        rw [marked, Option.bind_some, hmove]
        rfl
      have hopened : opened text (some l) t = t' := by
        rw [opened, Option.bind_some, hmove]
        rfl
      have hbefore : opened text before l = l :=
        opened_of_type before fun h => NodeType.noConfusion h
      refine ⟨l' :: t' :: ns', .cons hns', ?_⟩
      simp only [List.map_cons, settle, hsettle, hbefore, List.head?_cons, Option.map_some, hmarked,
        hopened]
      rw [(marked_text (show t'.type = .text from rfl) _).1]

/-- The stretches of running text have no block at their ends. -/
def IsFree (n : Node) : Prop :=
  ∀ value, n.kind = .text value → Escape.blockBraces value.toList = []

theorem cutTrailing?_of_isFree {n : Node} (h : IsFree n) : n.cutTrailing? text = none := by
  refine Node.cutTrailing?_eq_none fun a front block hcloses => ?_
  have hmem := Escape.mem_blockBraces_of_trailing? hcloses.read
  have hfree := h _ hcloses.kind
  rw [String.toList_ofList] at hfree
  rw [hfree] at hmem
  exact List.not_mem_nil hmem

theorem Attached.isFree {ms : List (String × List Char)} {ns : List Node} (h : Attached ms ns)
    (hfree : ∀ cs ∈ ms.map Prod.snd, Escape.blockBraces cs = []) : ∀ n ∈ ns, IsFree n := by
  induction h with
  | nil => exact List.forall_mem_nil _
  | cons h ih =>
      rw [List.map_cons, List.forall_mem_cons] at hfree
      refine List.forall_mem_cons.mpr ⟨fun value hkind => ?_, List.forall_mem_cons.mpr ⟨?_, ih hfree.2⟩⟩
      · cases hkind
      · intro value hkind
        cases hkind
        rw [String.toList_ofList]
        exact hfree.1

/-- What running text looks like in the end: without empty texts, with anchors for links, and with
    no regard to places. -/
def finished (ns : List Node) : List Node :=
  ((ns.filter (!·.isEmptyText)).map Node.placed).map Node.unplaced

theorem finished_cons (n : Node) (ns : List Node) :
    finished (n :: ns) = finished [n] ++ finished ns := by
  rw [finished, finished, finished, ← List.map_append, ← List.map_append, ← List.filter_append,
    List.singleton_append]

/-- A text that nothing is left of goes. -/
theorem finished_text (cs : List Char) (span : Option Span) :
    finished [{ kind := .text (String.ofList cs), span }] = Sign.textNodes cs := by
  cases cs with
  | nil => rfl
  | cons c cs =>
      have hfull : (String.ofList (c :: cs)).isEmpty = false := by
        rw [String.isEmpty_eq_false_iff]
        exact fun hempty => List.cons_ne_nil c cs (String.ofList_injective hempty)
      have hkept : (!Node.isEmptyText { kind := .text (String.ofList (c :: cs)), span }) = true :=
        congrArg not hfull
      rw [finished, List.filter_cons_of_pos (p := fun n : Node => !n.isEmptyText) hkept]
      rfl

/-- A link with an identifier becomes an anchor. -/
theorem finished_link {id : String} (hid : IsAnchorId id) (span : Option Span) :
    finished [{ kind := .link "" none, span, hint := some id }] = [Sign.anchorNode id] := by
  have hne : id ≠ "" := by
    rintro rfl
    exact hid.1 rfl
  have hplaceholder : Node.isPlaceholder { kind := .link "" none, span, hint := some id } = true :=
    Node.isPlaceholder_iff.mpr ⟨rfl, rfl, id, rfl, hne⟩
  have hplaced : Node.placed { kind := .link "" none, span, hint := some id } =
      { kind := .anchor { id }, span } := by
    rw [Node.placed, if_pos hplaceholder]
    rfl
  have hkept : finished [{ kind := .link "" none, span, hint := some id }] =
      [(Node.placed { kind := .link "" none, span, hint := some id }).unplaced] := rfl
  rw [hkept, hplaced]
  rfl

theorem Attached.finished {ms : List (String × List Char)} {ns : List Node} (h : Attached ms ns)
    (hids : ∀ m ∈ ms, IsAnchorId m.1) :
    finished ns = ms.flatMap fun (id, cs) => Sign.anchorNode id :: Sign.textNodes cs := by
  induction h with
  | nil => rfl
  | cons h ih =>
      rw [List.forall_mem_cons] at hids
      rw [finished_cons, finished_link hids.1, finished_cons, finished_text, ih hids.2]
      rfl

/-- In running text nothing has children. -/
theorem Shows.children {signs : List Sign} {ns : List Node} (h : Shows text signs ns) :
    ∀ n ∈ ns, n.children = [] := by
  have hanchored {ms : List (String × List Char)} {ns : List Node} (h : Anchored text ms ns) :
      ∀ n ∈ ns, n.children = [] := by
    induction h with
    | nil => exact List.forall_mem_nil _
    | cons _ _ ih => exact List.forall_mem_cons.mpr ⟨rfl, List.forall_mem_cons.mpr ⟨rfl, ih⟩⟩
  cases h with
  | anchors _ h => exact hanchored h
  | lead h => exact List.forall_mem_cons.mpr ⟨rfl, hanchored h⟩

/-- On the leading pass every link of running text takes its block, and no text has one left. -/
theorem Shows.exists_settled {signs : List Sign} {ns : List Node} (h : Shows text signs ns)
    (hrun : IsRun signs) :
    ∃ ns' : List Node, settle text none (ns.map fun n => (n, 0)) = ns'.map (fun n => (n, 0)) ∧
      finished ns' = Sign.nodes signs ∧ ∀ n ∈ ns', IsFree n := by
  have hfree := List.forall_mem_cons.mp hrun.free
  cases h with
  | anchors hlead h =>
      rcases settle_anchored h hrun.ids none with ⟨ns', hattached, hsettle⟩
      refine ⟨ns', hsettle, ?_, hattached.isFree hfree.2⟩
      rw [hattached.finished hrun.ids, Sign.nodes, hlead]
      rfl
  | @lead span ns h =>
      -- The text in front stays as it is, since it is neither behind a link nor a link.
      set t : Node := { kind := .text (String.ofList (Sign.lead signs)), span := span }
      rcases settle_anchored h hrun.ids (some t) with ⟨ns', hattached, hsettle⟩
      refine ⟨t :: ns', ?_, ?_, ?_⟩
      · have hopened : opened text none t = t := rfl
        rw [List.map_cons, settle, hsettle, hopened,
          (marked_text (show t.type = .text from rfl) _).1]
        rfl
      · rw [finished_cons, finished_text, hattached.finished hrun.ids]
        rfl
      · refine List.forall_mem_cons.mpr ⟨?_, hattached.isFree hfree.2⟩
        intro value hkind
        cases hkind
        rw [String.toList_ofList]
        exact hfree.1

/-- Running text gets its anchors. -/
theorem Shows.unplaced_settled {signs : List Sign} {ns : List Node} (h : Shows text signs ns)
    (hrun : IsRun signs) (kind : Kind) (span : Option Span) :
    (Node.settled text { kind, children := ns, span }).unplaced =
      { kind, children := Sign.nodes signs } := by
  rcases h.exists_settled hrun with ⟨ns', hsettle, hfinished, hfrees⟩
  have hleaves : ns.map (node text) = ns.map fun n => (n, 0) :=
    List.map_congr_left fun n hn => node_eq_self (h.children n hn)
  have hsurvive : survivors text (ns.map (node text)) =
      (ns'.filter (!·.isEmptyText)).map fun n => (n, 0) := by
    rw [survivors, hleaves, hsettle, List.filter_map]
    rfl
  -- So there is no block at the end either, whatever the element is.
  have hcut : trailing? text (survivors text (ns.map (node text))) = none := by
    rw [hsurvive]
    refine trailing?_eq_none fun r hr => ?_
    rcases List.mem_map.mp (List.mem_of_getLast? hr) with ⟨n, hn, rfl⟩
    exact cutTrailing?_of_isFree (hfrees n (List.mem_of_mem_filter hn))
  have hchildren : (survivors text (ns.map (node text))).map Prod.fst =
      ns'.filter (!·.isEmptyText) := by
    rw [hsurvive, List.map_map]
    exact List.map_id _
  rw [Node.settled, node_eq_assemble, assemble_eq, hcut, ite_self, Node.placeAnchors_eq,
    Node.unplaced_eq, ← hfinished]
  simp only [hchildren]
  rfl

/-- Among blocks no attribute block moves. -/
theorem settle_blocks {rs : List Resolved} (h : ∀ r ∈ rs, r.1.type ≠ .text)
    (before : Option Node) : settle text before rs = rs := by
  induction rs generalizing before with
  | nil => rfl
  | cons r rest ih =>
      rw [List.forall_mem_cons] at h
      have hmarked : marked text r.1 (rest.head?.map Prod.fst) = r.1 := by
        cases rest with
        | nil => rfl
        | cons next rest =>
            rw [marked, List.head?_cons, Option.map_some, Option.bind_some,
              moveLeading?_of_type (h.2 next List.mem_cons_self)]
            rfl
      rw [settle, ih h.2, opened_of_type before h.1, hmarked]

/-- What is made of an element with blocks in it is made of these. -/
theorem unplaced_settled_of_blocks {n : Node} (hkind : n.kind.takesTrailingBlock = false)
    (hchildren : ∀ c ∈ n.children, c.type ≠ .text ∧ c.type ≠ .link) :
    (n.settled text).unplaced =
      { kind := n.kind
        children := n.children.map fun c => (c.settled text).unplaced
        hint := n.hint } := by
  have htype (c : Node) : (node text c).1.type = c.type := by
    rw [Node.type, Node.type, node_kind]
  have hrs : ∀ r ∈ n.children.map (node text), r.1.type ≠ .text :=
    List.forall_mem_map.mpr fun c hc => (htype c).symm ▸ (hchildren c hc).1
  -- A block takes nothing from its siblings, and it does not vanish.
  have hsurvive : survivors text (n.children.map (node text)) = n.children.map (node text) := by
    rw [survivors, settle_blocks hrs, List.filter_eq_self]
    intro r hr
    rw [Bool.not_eq_true', Bool.eq_false_iff]
    exact fun hempty => hrs r hr (type_of_isEmptyText hempty)
  have hplaced : ((n.children.map (node text)).map Prod.fst).map Node.placed =
      n.children.map (Node.settled text) := by
    rw [List.map_map, List.map_map]
    refine List.map_congr_left fun c hc => ?_
    -- Only a link becomes an anchor.
    have hlink : ¬ (node text c).1.isPlaceholder = true := by
      intro hplaceholder
      have hkind := (Node.isPlaceholder_iff.mp hplaceholder).1
      refine (hchildren c hc).2 ((htype c).symm.trans ?_)
      rw [Node.type, hkind]
      rfl
    exact if_neg hlink
  have hresolved : (node text n).1 =
      { n with children := (n.children.map (node text)).map Prod.fst } := by
    rw [node_eq_assemble, assemble_eq]
    simp only [hkind, Bool.false_eq_true, if_false, hsurvive]
  rw [Node.settled, Node.placeAnchors_eq, Node.unplaced_eq, hresolved]
  simp only [hplaced]
  rw [List.map_map]
  rfl

/-- What two lists become is the same if it is the same for each two of their members. -/
theorem map_of_forall₂ {α β : Type} {R : α → Node → Prop} {f : Node → β} {g : α → β} {xs : List α}
    {ns : List Node} (h : List.Forall₂ R xs ns) (hone : ∀ x ∈ xs, ∀ n, R x n → f n = g x) :
    ns.map f = xs.map g := by
  induction h with
  | nil => rfl
  | cons hfirst _ ih =>
      rw [List.forall_mem_cons] at hone
      rw [List.map_cons, List.map_cons, hone.1 _ hfirst, ih hone.2]

/-- An item gets its anchors. -/
theorem BecomesItem.unplaced_settled {spread : Bool} {lines : List (List Sign)} {n : Node}
    (h : BecomesItem text spread lines n) (hlines : IsPassage lines) :
    (n.settled text).unplaced = NoteBlock.itemNode spread lines := by
  cases h with
  | @item ns span inner h =>
      rw [unplaced_settled_of_blocks rfl]
      · rw [List.map_singleton, h.unplaced_settled hlines.run]
        rfl
      · exact List.forall_mem_singleton.mpr
          ⟨fun h => NodeType.noConfusion h, fun h => NodeType.noConfusion h⟩

/-- A block gets its anchors. -/
theorem Becomes.unplaced_settled {e : NoteBlock} {n : Node} (h : Becomes text e n) (he : e.IsSound) :
    (n.settled text).unplaced = e.node := by
  cases h with
  | paragraph h => exact h.unplaced_settled he.run .paragraph _
  | heading h => exact h.unplaced_settled he.2.2.2 (.heading _) _
  | rule => rfl
  | @list first spread items ns span h =>
      rw [unplaced_settled_of_blocks rfl]
      · rw [map_of_forall₂ (g := NoteBlock.itemNode spread) h fun lines hlines n hn =>
          hn.unplaced_settled (he.2.2.2 lines hlines)]
        rfl
      · refine ((List.forall₂_and_left (p := fun n : Node => n.type ≠ .text ∧ n.type ≠ .link)
          ns items).mp (h.flip.imp fun n lines hitem => ⟨?_, hitem⟩)).1
        cases hitem
        exact ⟨fun h => NodeType.noConfusion h, fun h => NodeType.noConfusion h⟩

end Settle

/-- What a note is read as becomes the tree of the note. -/
theorem unplaced_settled_ofMarkdown {o : RenderOptions} (hvalid : o.validate = .ok ())
    {note : Note} (h : note.IsSound) (options : ParseOptions) {source : String}
    (hsource : source.toList = note.written o) :
    ((Node.ofMarkdown options source).settled source.toList).unplaced = note.tree := by
  rcases becomes_ofMarkdown hvalid h options hsource with ⟨ns, hns, htree⟩
  rw [htree, unplaced_settled_of_blocks rfl]
  · rw [map_of_forall₂ hns fun e he n hn => hn.unplaced_settled (h.entries e he)]
    rfl
  · refine ((List.forall₂_and_left (p := fun n : Node => n.type ≠ .text ∧ n.type ≠ .link)
      ns note).mp (hns.flip.imp fun n e hbecomes => ⟨?_, hbecomes⟩)).1
    cases hbecomes <;>
      exact ⟨fun h => NodeType.noConfusion h, fun h => NodeType.noConfusion h⟩

end Markdown

end Anchormark
