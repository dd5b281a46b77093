import Anchormark.Plugin.Standard
import Anchormark.Proofs.Text.Blank
import Anchormark.Proofs.Text.Lines
import Anchormark.Render.Builtin

/-!
# What a Rendered Paragraph Begins With

The renderers put a paragraph together from its parts, escape the starts of its lines, and take
line feeds off the end. None of this touches the first part when that stays on the first line,
begins with a bracket, and does not end in a line feed: a bracket starts no block, so the line it
opens is left alone.

## Theorems

* `escapeLineStarts_append`: Such a piece is kept when line starts are escaped.
* `renderAllWith_eq_map`, `output_renderWith`: What the renderer of a node is given.
* `render_builtin`, `render_of_kind`: Which renderer that is where none is registered.
* `output_text`: What is written for a text.
* `exists_mapM_eq_ok`: If there is a result for every element, there are results for the list.
* `paragraph_of_outputs`, `root_of_output`: A paragraph begins with its first part, a document
  of one block is that block.
* `toMarkdown_of_render`: A document keeps its front.
-/

namespace Anchormark

namespace Text

/-- Trimming the end does not reach a piece whose characters stay. -/
theorem dropEndWhile_append {p : Char → Bool} {front : List Char} (back : List Char)
    (hfront : ∀ c ∈ front, p c = false) :
    ∃ tail, dropEndWhile p (front ++ back) = front ++ tail := by
  rw [dropEndWhile, List.reverse_append, List.dropWhile_append]
  split
  · -- All of the back goes, and then the front is its own end.
    refine ⟨[], ?_⟩
    have hlast : front.reverse.dropWhile p = front.reverse := by
      cases hrev : front.reverse with
      | nil => rfl
      | cons c cs =>
          have hc : c ∈ front := List.mem_reverse.mp (hrev ▸ List.mem_cons_self)
          rw [List.dropWhile_cons_of_neg (by rw [hfront c hc]; exact Bool.false_ne_true)]
    rw [hlast, List.reverse_reverse, List.append_nil]
  · exact ⟨(back.reverse.dropWhile p).reverse, by rw [List.reverse_append, List.reverse_reverse]⟩

end Text

namespace Escape

/-- A piece that begins with a bracket and stays on one line is kept when line starts are
    escaped. -/
theorem escapeLineStarts_append {front : List Char} (hfront : '\n' ∉ front) (back : List Char) :
    ∃ tail, escapeLineStarts ('[' :: (front ++ back)) = '[' :: (front ++ tail) := by
  cases hlines : Text.lines back with
  | nil => exact absurd hlines (Text.lines_ne_nil back)
  | cons line others =>
      have hbracket : '\n' ∉ '[' :: front := by
        rw [List.mem_cons, not_or]
        exact ⟨by decide, hfront⟩
      rw [escapeLineStarts, ← List.cons_append, Text.lines_append hbracket hlines]
      -- The first line begins with the bracket, so nothing is put before it.
      have hstart : escapeLineStart ('[' :: (front ++ line)) = '[' :: (front ++ line) := rfl
      rw [List.map_cons, List.cons_append, hstart]
      cases others with
      | nil => exact ⟨line, rfl⟩
      | cons next others =>
          refine ⟨line ++ ['\n'] ++ Text.unlines ((next :: others).map escapeLineStart), ?_⟩
          simp only [Text.unlines, List.map_cons, Text.joinWith, List.cons_append,
            List.append_assoc]

end Escape

/-- Rendering several trees is rendering each of them. -/
theorem Node.renderAllWith_eq_map (choose : NodeType → Option Handler) (o : RenderOptions)
    (cs : List Node) : renderAllWith choose o cs = cs.map (renderWith choose o) := by
  induction cs with
  | nil => rfl
  | cons c cs ih => rw [renderAllWith, ih, List.map_cons]

/-- The output of a node is what the handler for its type makes of the rendered children. -/
theorem Node.output_renderWith {choose : NodeType → Option Handler} (o : RenderOptions) {n : Node}
    {handler : Handler} (h : choose n.type = some handler) :
    (n.renderWith choose o).output = handler o n (n.children.map (renderWith choose o)) := by
  rw [← renderAllWith_eq_map]
  rcases n with ⟨kind, children, span, hint⟩
  rw [renderWith, Rendering.output, show choose kind.type = some handler from h]

/-- Without a registered handler for its type a node is written by the built-in one. -/
theorem Node.render_builtin {h : Handlers} (o : RenderOptions) {n : Node} {handler : Handler}
    (hget : h.get? n.type = none) (hhandler : builtin n.type = some handler) :
    n.render h o = handler o n (n.children.map (renderWith h.choose o)) := by
  refine output_renderWith o ?_
  rw [Handlers.choose, hget, hhandler]
  rfl

/-- So it is for a node whose kind is known. -/
theorem Node.render_of_kind {h : Handlers} (o : RenderOptions) {n : Node} {kind : Kind}
    {handler : Handler} (hkind : n.kind = kind) (hget : h.get? kind.type = none)
    (hhandler : builtin kind.type = some handler) :
    n.render h o = handler o n (n.children.map (renderWith h.choose o)) := by
  have htype : n.type = kind.type := congrArg Kind.type hkind
  exact render_builtin o (htype ▸ hget) (htype ▸ hhandler)

/-- If there is a result for every element, there are results for the list. -/
theorem exists_mapM_eq_ok {α β ε : Type} {f : α → Except ε β} {as : List α}
    (h : ∀ a ∈ as, ∃ b, f a = .ok b) : ∃ bs, as.mapM f = .ok bs := by
  induction as with
  | nil => exact ⟨[], rfl⟩
  | cons a as ih =>
      rcases h a List.mem_cons_self with ⟨b, hb⟩
      rcases ih fun c hc => h c (List.mem_cons_of_mem a hc) with ⟨bs, hbs⟩
      refine ⟨b :: bs, ?_⟩
      rw [List.mapM_cons, hb, hbs]
      rfl

namespace Rendering

/-- The outputs of a first part and of others are the outputs of all. -/
theorem outputs_cons {r : Rendering} {rs : List Rendering} {out : String} {outs : List String}
    (hr : r.output = .ok out) (hrs : outputs rs = .ok outs) :
    outputs (r :: rs) = .ok (out :: outs) := by
  rw [outputs] at hrs ⊢
  rw [List.mapM_cons, hr, hrs]
  rfl

/-- Renderings whose outputs are known. -/
theorem outputs_of_forall {α : Type} {f : α → Rendering} {g : α → String} {as : List α}
    (h : ∀ a ∈ as, (f a).output = .ok (g a)) : outputs (as.map f) = .ok (as.map g) := by
  induction as with
  | nil => rfl
  | cons a as ih =>
      rw [List.forall_mem_cons] at h
      exact outputs_cons h.1 (ih h.2)

/-- The output of one part is the output of all. -/
theorem inline_singleton {r : Rendering} {out : String} (h : r.output = .ok out) :
    inline [r] = .ok out := by
  rw [inline, outputs_cons h (show outputs [] = .ok [] from rfl)]
  simp only [Functor.map, Except.map, String.join_cons, String.join_nil, String.append_empty]

/-- If every part has an output, so have all of them. -/
theorem outputs_of_output {rs : List Rendering} (h : ∀ r ∈ rs, ∃ out, r.output = .ok out) :
    ∃ outs, outputs rs = .ok outs :=
  exists_mapM_eq_ok h

end Rendering

/-- A text is written escaped. -/
theorem Node.output_text {h : Handlers} (htext : h.get? .text = none) (o : RenderOptions) {t : Node}
    {value : String} (hvalue : t.kind = .text value) :
    (t.renderWith h.choose o).output = .ok (String.ofList (Escape.escapeText value.toList)) := by
  have hchoose : h.choose t.type = some Builtin.text := by
    rw [Handlers.choose, Node.type, hvalue, show (Kind.text value).type = .text from rfl, htext]
    rfl
  rw [output_renderWith o hchoose, Builtin.text, hvalue]
  rfl

namespace Builtin

/-- A paragraph begins with its first part, when that begins with a bracket and stays on one
    line. -/
theorem paragraph_of_outputs {o : RenderOptions} {n : Node} {parts : List Rendering}
    {front : List Char} {outs : List String} (hfront : '\n' ∉ front)
    (h : Rendering.outputs parts = .ok (String.ofList ('[' :: front) :: outs)) :
    ∃ tail, paragraph o n parts = .ok (String.ofList ('[' :: (front ++ tail))) := by
  rcases Escape.escapeLineStarts_append hfront (String.join outs).toList with ⟨tail, htail⟩
  refine ⟨tail, ?_⟩
  have hinline : Rendering.inline parts =
      .ok (String.join (String.ofList ('[' :: front) :: outs)) := by
    rw [Rendering.inline, h]
    rfl
  have hcontent : (String.join (String.ofList ('[' :: front) :: outs)).toList =
      '[' :: (front ++ (String.join outs).toList) := by
    rw [String.join_cons, String.toList_append, String.toList_ofList, List.cons_append]
  rw [paragraph, hinline]
  simp only [bind, Except.bind, pure, Except.pure, hcontent, htail]

/-- A document of one block that is not empty is that block. -/
theorem root_of_output {o : RenderOptions} {n : Node} {r : Rendering} {out : String}
    (hout : out ≠ "") (h : r.output = .ok out) : root o n [r] = .ok out := by
  have houts : Rendering.outputs [r] = .ok [out] := Rendering.outputs_cons h rfl
  have hkept : [out].filter (!·.isEmpty) = [out] := by
    rw [List.filter_cons, if_pos]
    · rfl
    · rw [Bool.not_eq_true', String.isEmpty_eq_false_iff]
      exact hout
  rw [root, blocks, houts]
  simp only [bind, Except.bind, pure, Except.pure, hkept, String.intercalate_singleton]

end Builtin

/-- A document keeps a front that is not empty and has no line feeds. -/
theorem Node.toMarkdown_of_render {h : Handlers} {o : RenderOptions} {n : Node}
    {front tail : List Char} (hne : front ≠ []) (hfront : '\n' ∉ front)
    (hrender : n.render h o = .ok (String.ofList (front ++ tail))) :
    ∃ tail', n.toMarkdown h o = .ok (String.ofList (front ++ tail')) := by
  have hkeep : ∀ c ∈ front, decide (c = '\n') = false := by
    intro c hc
    rw [decide_eq_false_iff_not]
    rintro rfl
    exact hfront hc
  rcases Text.dropEndWhile_append tail hkeep with ⟨kept, hkept⟩
  refine ⟨kept ++ ['\n'], ?_⟩
  rw [toMarkdown, hrender]
  simp only [bind, Except.bind, String.toList_ofList, hkept]
  split
  · next hnil => exact absurd (List.append_eq_nil_iff.mp hnil).1 hne
  · rw [← List.append_assoc]
    rfl

end Anchormark
