import Anchormark.Proofs.Render.Dispatch
import Anchormark.Proofs.Render.Front
import Anchormark.Proofs.Text.Lines

/-!
# Stripping Containers

A block quote and a list item are written around the lines of their content. Lines stay lines, so
the content comes back when from each line that is taken which was put in front of it.

This takes no look at the content. A line of it may begin with blanks, with a marker or with a
greater-than sign of its own, for only so much is taken as was put there: of an item its width, and
of a block quote the sign and one space. Empty lines are the exception on both sides. Nothing is put
in front of one in an item, and no space behind the sign of one in a block quote, so there is
nothing to take either.

Since no content is special, the containers of any nest come off one by one, from the outside.

## Main definitions

* `IsMarker`: the markers of items.
* `stripItem`, `stripQuote`: a text without what its container has put there.
* `Layer`: a container as far as it is written, with `Layer.wrap` and `Layer.strip`.
* `Node.Holds`: the container that a node is, and its blocks.
* `Node.Nests`: containers one in the other.

## Theorems

* `lines_indentLines`, `strip_indentLines`: What indenting makes of each line can be undone.
* `contentColumn_bounds`: The width of an item.
* `lines_indentItem`, `stripItem_indentItem`, `stripQuote_quoted`: Items and block quotes line by
  line.
* `Layer.strip_wrap`, `stripAll_wrapAll`: Containers come off.
* `Node.render_holds`, `Node.render_nests`: What is written for a container and for a nest.
* `containers_strip`: The content of a nest comes back from its rendering.
-/

namespace Anchormark

namespace Builtin

section Lines

variable {first rest empty : List Char} (hfirst : '\n' ∉ first) (hrest : '\n' ∉ rest)
  (hempty : '\n' ∉ empty)
include hfirst hrest hempty

/-- Lines stay lines. -/
theorem lines_indentLines {content line : List Char} {others : List (List Char)}
    (hcontent : Text.lines content = line :: others) :
    Text.lines (indentLines first rest empty content) =
      (first ++ line) :: others.map fun l => if l.isEmpty then empty else rest ++ l := by
  have hfeed : ∀ l ∈ line :: others, '\n' ∉ l := by
    rw [← hcontent]
    exact fun l hl => Text.feed_not_mem_of_mem_lines hl
  rw [List.forall_mem_cons] at hfeed
  rw [indentLines, hcontent]
  refine Text.lines_unlines (List.cons_ne_nil _ _) (List.forall_mem_cons.mpr ⟨?_, ?_⟩)
  · rw [List.mem_append, not_or]
    exact ⟨hfirst, hfeed.1⟩
  · refine List.forall_mem_map.mpr fun l hl => ?_
    split
    · exact hempty
    · rw [List.mem_append, not_or]
      exact ⟨hrest, hfeed.2 l hl⟩

/-- What takes off each line what was put there gives the content back. -/
theorem strip_indentLines {strip : List Char → List Char} (hstrip : ∀ l, strip (first ++ l) = l)
    (hstrip' : ∀ l, l ≠ [] → strip (rest ++ l) = l) (hnil : strip empty = [])
    (content : List Char) :
    Text.unlines ((Text.lines (indentLines first rest empty content)).map strip) = content := by
  rcases List.exists_cons_of_ne_nil (Text.lines_ne_nil content) with ⟨line, others, hcontent⟩
  have hothers : (others.map fun l => if l.isEmpty then empty else rest ++ l).map strip =
      others := by
    rw [List.map_map]
    refine (List.map_congr_left fun l _ => ?_).trans (List.map_id others)
    rw [Function.comp_apply]
    split
    · next hl => rw [hnil, List.isEmpty_iff.mp hl, id]
    · next hl => exact hstrip' l fun hnil => hl (List.isEmpty_iff.mpr hnil)
  rw [lines_indentLines hfirst hrest hempty hcontent, List.map_cons, hstrip, hothers, ← hcontent,
    Text.unlines_lines]

end Lines

/-- A marker of an item is the bullet, or digits and a dot. -/
def IsMarker (o : RenderOptions) (marker : List Char) : Prop :=
  marker = [o.bullet] ∨
    ∃ digits, digits ≠ [] ∧ (∀ d ∈ digits, d.isDigit = true) ∧ marker = digits ++ ['.']

/-- The bullet makes a marker, and so does the number of an item. -/
theorem isMarker_itemMarker (o : RenderOptions) (ordered : Bool) (start : Option Nat) (i : Nat) :
    IsMarker o (itemMarker o ordered start i).toList := by
  cases ordered with
  | false => exact .inl String.toList_ofList
  | true =>
      refine .inr ⟨Nat.toDigits 10 (start.getD 1 + i), Nat.toDigits_ne_nil, fun d hd => ?_, ?_⟩
      · exact Nat.isDigit_of_mem_toDigits (by decide) (by decide) hd
      · rw [itemMarker, if_pos rfl, String.toList_append]
        exact congrArg (· ++ ['.']) Nat.toList_repr

theorem IsMarker.ne_nil {o : RenderOptions} {marker : List Char} (h : IsMarker o marker) :
    marker ≠ [] := by
  rcases h with rfl | ⟨digits, -, -, rfl⟩
  · exact List.cons_ne_nil _ _
  · exact List.append_ne_nil_of_right_ne_nil _ (List.cons_ne_nil _ _)

/-- A valid bullet is one of three characters. -/
theorem bullet_of_validate {o : RenderOptions} (h : o.validate = .ok ()) :
    o.bullet ∈ ['-', '*', '+'] := by
  unfold RenderOptions.validate at h
  split at h
  · cases h
  · next hbullet => exact Decidable.not_not.mp hbullet

/-- The item is at least one column wider than its marker and at most four. -/
theorem contentColumn_bounds (o : RenderOptions) (spread : Bool) (size : Nat) :
    size + 1 ≤ contentColumn o spread size ∧ contentColumn o spread size ≤ size + 4 := by
  unfold contentColumn
  dsimp only
  split
  · omega
  · omega
  · split <;> omega

section Marker

variable {o : RenderOptions} (hvalid : o.validate = .ok ()) {marker : List Char}
  (hmarker : IsMarker o marker)
include hvalid hmarker

/-- A marker is in ASCII and stays on its line. -/
theorem ascii_of_isMarker : ∀ c ∈ marker, c.utf8Size = 1 ∧ c ≠ '\n' := by
  rcases hmarker with rfl | ⟨digits, -, hdigits, rfl⟩
  · rw [List.forall_mem_singleton]
    have hbullet := bullet_of_validate hvalid
    generalize o.bullet = c at hbullet
    simp only [List.mem_cons, List.not_mem_nil, or_false] at hbullet
    rcases hbullet with rfl | rfl | rfl <;> decide
  · rw [List.forall_mem_append, List.forall_mem_singleton]
    refine ⟨fun d hd => ?_, by decide⟩
    have hdigit := hdigits d hd
    rw [Char.isDigit_iff_toNat] at hdigit
    constructor
    · rw [Char.utf8Size_eq_one_iff, UInt32.le_iff_toNat_le]
      exact Nat.le_trans hdigit.2 (by decide)
    · rintro rfl
      exact absurd hdigit (by decide)

/-- So its size is its length. -/
theorem byteLength_of_isMarker : Text.byteLength marker = marker.length := by
  have hascii := ascii_of_isMarker hvalid hmarker
  clear hmarker
  induction marker with
  | nil => rfl
  | cons c marker ih =>
      rw [List.forall_mem_cons] at hascii
      rw [Text.byteLength_cons, hascii.1.1, ih hascii.2, List.length_cons, Nat.add_comm]

end Marker

/-- An item without what stands in front of its lines. -/
def stripItem (column : Nat) (cs : List Char) : List Char :=
  Text.unlines ((Text.lines cs).map (List.drop column))

theorem feed_not_mem_blanks (n : Nat) : '\n' ∉ Table.blanks n :=
  fun h => absurd (List.eq_of_mem_replicate h) (by decide)

section Item

variable {marker : List Char} (hfeed : '\n' ∉ marker) (column : Nat)
include hfeed

/-- The first line of an item stands behind its marker, and the others below that line. -/
theorem lines_indentItem {content line : List Char} {others : List (List Char)}
    (hcontent : Text.lines content = line :: others) :
    Text.lines (indentItem marker column content) =
      (marker ++ Table.blanks (column - marker.length) ++ line) ::
        others.map fun l => if l.isEmpty then [] else Table.blanks column ++ l := by
  refine lines_indentLines ?_ (feed_not_mem_blanks column) List.not_mem_nil hcontent
  rw [List.mem_append, not_or]
  exact ⟨hfeed, feed_not_mem_blanks _⟩

/-- The content of an item comes back. -/
theorem stripItem_indentItem (hwidth : marker.length ≤ column) (content : List Char) :
    stripItem column (indentItem marker column content) = content := by
  have hfirst : (marker ++ Table.blanks (column - marker.length)).length = column := by
    rw [List.length_append, Table.blanks, List.length_replicate, Nat.add_sub_cancel' hwidth]
  have hrest : (Table.blanks column).length = column := List.length_replicate
  refine strip_indentLines ?_ (feed_not_mem_blanks column) List.not_mem_nil (fun l => ?_)
    (fun l _ => ?_) List.drop_nil content
  · rw [List.mem_append, not_or]
    exact ⟨hfeed, feed_not_mem_blanks _⟩
  · exact List.drop_left' hfirst
  · exact List.drop_left' hrest

end Item

/-- The content of a block quote as it is written. -/
def quoted (content : List Char) : List Char :=
  indentLines ['>', ' '] ['>', ' '] ['>'] content

/-- A line without a greater-than sign in front and one space behind that. -/
def stripSign : List Char → List Char
  | '>' :: ' ' :: line => line
  | '>' :: line => line
  | line => line

/-- A block quote without what stands in front of its lines. -/
def stripQuote (cs : List Char) : List Char :=
  Text.unlines ((Text.lines cs).map stripSign)

/-- Each line of a block quote has its sign. -/
theorem head_of_mem_lines_quoted {content l : List Char} (hl : l ∈ Text.lines (quoted content)) :
    l.head? = some '>' := by
  rcases List.exists_cons_of_ne_nil (Text.lines_ne_nil content) with ⟨line, others, hcontent⟩
  rw [quoted, lines_indentLines (by decide) (by decide) (by decide) hcontent] at hl
  rcases List.mem_cons.mp hl with rfl | hl
  · rfl
  · rcases List.mem_map.mp hl with ⟨m, -, rfl⟩
    split <;> rfl

/-- The content of a block quote comes back. -/
theorem stripQuote_quoted (content : List Char) : stripQuote (quoted content) = content :=
  strip_indentLines (by decide) (by decide) (by decide) (fun _ => rfl) (fun _ _ => rfl) rfl content

/-- The box of a task in front of its content. -/
def taskBox : Option Bool → List Char
  | none => []
  | some true => ['[', 'x', ']', ' ']
  | some false => ['[', ' ', ']', ' ']

end Builtin

open Builtin

/-- A container as far as it is written. -/
inductive Layer
  | quote
  | item (marker : List Char) (spread : Bool) (checked : Option Bool)

namespace Layer

/-- What stands between the blocks of the container. -/
def separator : Layer → String
  | quote => "\n\n"
  | item _ spread _ => if spread then "\n\n" else "\n"

/-- The markers are those of items. -/
def IsValid (o : RenderOptions) : Layer → Prop
  | quote => True
  | item marker _ _ => IsMarker o marker

/-- The container around its content. -/
def wrap (o : RenderOptions) : Layer → List Char → List Char
  | quote, content => quoted content
  | item marker spread checked, content =>
    indentItem marker (contentColumn o spread (Text.byteLength marker)) (taskBox checked ++ content)

/-- The content without its container. -/
def strip (o : RenderOptions) : Layer → List Char → List Char
  | quote, cs => stripQuote cs
  | item marker spread checked, cs =>
    (stripItem (contentColumn o spread (Text.byteLength marker)) cs).drop (taskBox checked).length

/-- Containers one in the other, the first of them outside. -/
def wrapAll (o : RenderOptions) (layers : List Layer) (content : List Char) : List Char :=
  layers.foldr (wrap o) content

/-- Containers come off from the outside. -/
def stripAll (o : RenderOptions) (layers : List Layer) (cs : List Char) : List Char :=
  layers.foldl (fun cs layer => layer.strip o cs) cs

/-- A container is never written as nothing. -/
theorem wrap_ne_nil {o : RenderOptions} {layer : Layer} (h : layer.IsValid o)
    (content : List Char) : layer.wrap o content ≠ [] := by
  have hindent {first rest empty : List Char} (hfirst : first ≠ []) (content : List Char) :
      indentLines first rest empty content ≠ [] := by
    unfold indentLines
    split
    · exact hfirst
    · next line others _ =>
        rcases Text.unlines_cons_append (first ++ line) (others.map fun l =>
          if l.isEmpty then empty else rest ++ l) with ⟨back, hback⟩
        rw [hback]
        exact List.append_ne_nil_of_left_ne_nil (List.append_ne_nil_of_left_ne_nil hfirst _) _
  cases layer with
  | quote => exact hindent (List.cons_ne_nil _ _) content
  | item marker spread checked =>
      exact hindent (List.append_ne_nil_of_left_ne_nil (IsMarker.ne_nil h) _) _

theorem wrapAll_ne_nil {o : RenderOptions} {layers : List Layer} (hne : layers ≠ [])
    (h : ∀ layer ∈ layers, layer.IsValid o) (content : List Char) :
    wrapAll o layers content ≠ [] := by
  rcases List.exists_cons_of_ne_nil hne with ⟨layer, others, rfl⟩
  exact wrap_ne_nil (h layer List.mem_cons_self) _

section Strip

variable {o : RenderOptions} (hvalid : o.validate = .ok ())
include hvalid

/-- A container comes off. -/
theorem strip_wrap {layer : Layer} (h : layer.IsValid o) (content : List Char) :
    layer.strip o (layer.wrap o content) = content := by
  cases layer with
  | quote => exact stripQuote_quoted content
  | item marker spread checked =>
      have hfeed : '\n' ∉ marker := fun hmem => (ascii_of_isMarker hvalid h _ hmem).2 rfl
      have hwidth : marker.length ≤ contentColumn o spread (Text.byteLength marker) := by
        have hbound := (contentColumn_bounds o spread (Text.byteLength marker)).1
        rw [byteLength_of_isMarker hvalid h] at hbound ⊢
        omega
      rw [strip, wrap, stripItem_indentItem hfeed _ hwidth, List.drop_left]

/-- All containers come off. -/
theorem stripAll_wrapAll {layers : List Layer} (h : ∀ layer ∈ layers, layer.IsValid o)
    (content : List Char) : stripAll o layers (wrapAll o layers content) = content := by
  induction layers with
  | nil => rfl
  | cons layer layers ih =>
      rw [List.forall_mem_cons] at h
      have hrest := ih h.2
      rw [stripAll, wrapAll] at hrest ⊢
      rw [List.foldr_cons, List.foldl_cons, strip_wrap hvalid h.1, hrest]

end Strip

end Layer

namespace Node

/-- The container that a node is, and its blocks. An item may stand in a list of its own. -/
inductive Holds (o : RenderOptions) : Node → Layer → List Node → Prop
  | quote {n : Node} (h : n.kind = .blockquote) : Holds o n .quote n.children
  | item {n : Node} {spread : Bool} {checked : Option Bool}
      (h : n.kind = .listItem spread checked) :
      Holds o n (.item [o.bullet] spread checked) n.children
  | listed {n i : Node} {ordered loose spread : Bool} {start : Option Nat} {checked : Option Bool}
      (h : n.kind = .list ordered start loose) (hchildren : n.children = [i])
      (hitem : i.kind = .listItem spread checked) :
      Holds o n (.item (itemMarker o ordered start 0).toList spread checked) i.children

/-- Containers one in the other, each the only block of the one around it. -/
inductive Nests (o : RenderOptions) : Node → List Layer → Node → Prop
  | here (n : Node) : Nests o n [] n
  | inside {n c m : Node} {layer : Layer} {layers : List Layer} (h : n.Holds o layer [c])
      (hc : Nests o c layers m) : Nests o n (layer :: layers) m

/-- Whatever the container is, its marker is that of an item. -/
theorem Holds.isValid {o : RenderOptions} {n : Node} {layer : Layer} {blocks : List Node}
    (h : n.Holds o layer blocks) : layer.IsValid o := by
  cases h with
  | quote => exact trivial
  | item => exact .inl rfl
  | listed => exact isMarker_itemMarker o _ _ 0

theorem Nests.isValid {o : RenderOptions} {n m : Node} {layers : List Layer}
    (h : n.Nests o layers m) : ∀ layer ∈ layers, layer.IsValid o := by
  induction h with
  | here => exact List.forall_mem_nil _
  | inside h _ ih => exact List.forall_mem_cons.mpr ⟨h.isValid, ih⟩

end Node

namespace Builtin

/-- What is written for an item is its content, with the box of a task in front, behind the
    marker. -/
theorem item_eq (o : RenderOptions) (marker : String) {n : Node} (parts : List Rendering)
    {spread : Bool} {checked : Option Bool} (hkind : n.kind = .listItem spread checked) :
    item o marker n parts =
      (fun content : String =>
        String.ofList ((Layer.item marker.toList spread checked).wrap o content.toList)) <$>
          blocks (Layer.item marker.toList spread checked).separator parts := by
  have hbox (box : String) (cs : List Char) (hcs : box.toList = cs) (content : String) :
      (box ++ content).toList = cs ++ content.toList := by
    rw [String.toList_append, hcs]
  rw [item, hkind]
  dsimp only [Layer.separator]
  cases blocks (if spread then "\n\n" else "\n") parts with
  | error e => rfl
  | ok content =>
      simp only [bind, Except.bind, pure, Except.pure, Functor.map, Except.map, Layer.wrap,
        Except.ok.injEq]
      -- No box, an empty one, or one with a mark.
      rcases checked with _ | _ | _
      · rw [hbox "" [] rfl]
        rfl
      · rw [hbox "[ ] " (taskBox (some false)) (by decide)]
        rfl
      · rw [hbox "[x] " (taskBox (some true)) (by decide)]
        rfl

/-- The only item of a list is all there is. -/
theorem list_singleton (o : RenderOptions) {n : Node} {r : Rendering} {ordered loose : Bool}
    {start : Option Nat} (hkind : n.kind = .list ordered start loose) :
    list o n [r] = item o (itemMarker o ordered start 0) r.node r.parts := by
  rw [list, hkind]
  dsimp only
  rw [items, items]
  cases item o (itemMarker o ordered start 0) r.node r.parts with
  | error e => rfl
  | ok out => exact congrArg Except.ok String.intercalate_singleton

/-- One block that is not empty is all there is. -/
theorem blocks_singleton (separator : String) {r : Rendering} (h : r.output ≠ .ok "") :
    blocks separator [r] = r.output := by
  rw [blocks, Rendering.outputs, List.mapM_cons, List.mapM_nil]
  cases hout : r.output with
  | error e => rfl
  | ok out =>
      rw [hout] at h
      have hfull : (!out.isEmpty) = true := by
        rw [Bool.not_eq_true', String.isEmpty_eq_false_iff]
        rintro rfl
        exact h rfl
      simp only [bind, Except.bind, pure, Except.pure, List.filter_cons, hfull, if_true,
        List.filter_nil, String.intercalate_singleton]

end Builtin

section Render

variable {h : Handlers} (hquote : h.get? .blockquote = none) (hlist : h.get? .list = none)
  (hitem : h.get? .listItem = none) (o : RenderOptions) {n : Node} {layer : Layer}
include hquote hlist hitem

/-- What is written for a container is its content within the container. -/
theorem Node.render_holds {blocks : List Node} (hn : n.Holds o layer blocks) :
    n.render h o = (fun content : String => String.ofList (layer.wrap o content.toList)) <$>
      Builtin.blocks layer.separator (blocks.map (renderWith h.choose o)) := by
  cases hn with
  | quote hkind =>
      rw [render_of_kind o hkind hquote rfl, Builtin.blockquote]
      rfl
  | item hkind =>
      rw [render_of_kind o hkind hitem rfl, Builtin.listItem, item_eq o _ _ hkind,
        String.toList_ofList]
  | @listed i ordered loose spread start checked hkind hchildren hi =>
      have hnode : (i.renderWith h.choose o).node = i := by
        cases i
        rfl
      rw [render_of_kind o hkind hlist rfl, hchildren, List.map_singleton,
        Builtin.list_singleton o hkind, hnode, Node.parts_renderWith, item_eq o _ _ hi]

/-- What is written for a nest is the content of the innermost container within all of them. -/
theorem Node.render_nests {m : Node} {layers : List Layer} {blocks : List Node}
    (hn : n.Nests o layers m) (hm : m.Holds o layer blocks) :
    n.render h o =
      (fun content : String =>
        String.ofList (Layer.wrapAll o (layers ++ [layer]) content.toList)) <$>
          Builtin.blocks layer.separator (blocks.map (renderWith h.choose o)) := by
  induction hn with
  | here n => exact render_holds hquote hlist hitem o hm
  | @inside n c m outer layers hn hc ih =>
      have hlayers : ∀ l ∈ layers ++ [layer], l.IsValid o := by
        rw [List.forall_mem_append, List.forall_mem_singleton]
        exact ⟨hc.isValid, hm.isValid⟩
      -- The inner nest is the only child, and it is not empty, so nothing is left out or added.
      have hout : (c.renderWith h.choose o).output = _ := ih hm
      rw [render_holds hquote hlist hitem o hn, List.map_singleton, Builtin.blocks_singleton, hout]
      · cases Builtin.blocks layer.separator (blocks.map (renderWith h.choose o)) with
        | error e => rfl
        | ok content => simp only [Functor.map, Except.map, String.toList_ofList,
            List.cons_append, Layer.wrapAll, List.foldr_cons]
      · rw [hout]
        cases Builtin.blocks layer.separator (blocks.map (renderWith h.choose o)) with
        | error e => exact fun herror => nomatch herror
        | ok content =>
            intro hnil
            have hcontent := congrArg String.toList (Except.ok.inj hnil)
            rw [String.toList_ofList] at hcontent
            exact Layer.wrapAll_ne_nil (List.append_ne_nil_of_right_ne_nil _ (List.cons_ne_nil _ _))
              hlayers _ hcontent

end Render

/-- The content of a container comes back from what is written for the container, and the content
    of the innermost one from what is written for a nest.

    An item is one to four columns wider than its marker. Its content begins behind that, and the
    lines below begin in the same column unless they are empty. In a block quote each line has a
    sign. -/
theorem containers_strip {o : RenderOptions} (hvalid : o.validate = .ok ()) :
    (∀ marker spread, IsMarker o marker →
      let column := contentColumn o spread (Text.byteLength marker)
      marker.length + 1 ≤ column ∧ column ≤ marker.length + 4 ∧
        ∀ content line others, Text.lines content = line :: others →
          Text.lines (indentItem marker column content) =
            (marker ++ Table.blanks (column - marker.length) ++ line) ::
              (others.map fun l => if l.isEmpty then [] else Table.blanks column ++ l) ∧
          stripItem column (indentItem marker column content) = content) ∧
    (∀ content, (∀ l ∈ Text.lines (quoted content), l.head? = some '>') ∧
      stripQuote (quoted content) = content) ∧
    (∀ marker i parts spread checked content, IsMarker o marker.toList →
      i.kind = .listItem spread checked →
      Builtin.blocks (Layer.item marker.toList spread checked).separator parts = .ok content →
      ∃ out, Builtin.item o marker i parts = .ok out ∧
        (Layer.item marker.toList spread checked).strip o out.toList = content.toList) ∧
    ∀ h n layers m layer blocks content, h.get? .blockquote = none → h.get? .list = none →
      h.get? .listItem = none → Node.Nests o n layers m → m.Holds o layer blocks →
      Builtin.blocks layer.separator (blocks.map (Node.renderWith h.choose o)) = .ok content →
      ∃ out, n.render h o = .ok out ∧
        Layer.stripAll o (layers ++ [layer]) out.toList = content.toList := by
  refine ⟨fun marker spread hmarker => ?_, fun content => ?_, ?_, ?_⟩
  · -- The widths, and the lines of one item.
    have hfeed : '\n' ∉ marker := fun hmem => (ascii_of_isMarker hvalid hmarker _ hmem).2 rfl
    have hbounds := contentColumn_bounds o spread (Text.byteLength marker)
    rw [byteLength_of_isMarker hvalid hmarker] at hbounds ⊢
    refine ⟨hbounds.1, hbounds.2, fun content line others hcontent => ⟨?_, ?_⟩⟩
    · exact lines_indentItem hfeed _ hcontent
    · exact stripItem_indentItem hfeed _ (Nat.le_of_succ_le hbounds.1) content
  · exact ⟨fun l hl => head_of_mem_lines_quoted hl, stripQuote_quoted content⟩
  · -- One item with a box, if it is a task.
    intro marker i parts spread checked content hmarker hkind hcontent
    have hlayer : (Layer.item marker.toList spread checked).IsValid o := hmarker
    refine ⟨_, by rw [item_eq o marker parts hkind, hcontent]; rfl, ?_⟩
    rw [String.toList_ofList]
    exact Layer.strip_wrap hvalid hlayer _
  · -- All layers of a nest at once.
    intro h n layers m layer blocks content hquote hlist hitem hn hm hcontent
    refine ⟨_, by rw [Node.render_nests hquote hlist hitem o hn hm, hcontent]; rfl, ?_⟩
    rw [String.toList_ofList]
    refine Layer.stripAll_wrapAll hvalid ?_ _
    rw [List.forall_mem_append, List.forall_mem_singleton]
    exact ⟨hn.isValid, hm.isValid⟩

/-- A block quote in a task in a block quote. What is innermost begins with blanks and holds an
    empty line and a greater-than sign. -/
theorem containers_strip_task :
    let o : RenderOptions := { bullet := '*', listIndent := .mixed }
    let html : Node := { kind := .html " > a\n\n9. b" }
    let quote : Node := { kind := .blockquote, children := [html] }
    let task : Node := { kind := .listItem true (some true), children := [quote] }
    let list : Node := { kind := .list true (some 9) true, children := [task] }
    let n : Node := { kind := .blockquote, children := [list] }
    let layers : List Layer := [.quote, .item "9.".toList true (some true), .quote]
    o.validate = .ok () ∧
      ∃ out, n.render Handlers.empty o = .ok out ∧
        Layer.stripAll o layers out.toList = " > a\n\n9. b".toList := by
  intro o html quote task list n layers
  have hvalid : o.validate = .ok () := rfl
  have hmarker : (itemMarker o true (some 9) 0).toList = "9.".toList := by decide
  -- The three containers from the outside to the inside.
  have htask : list.Holds o (.item (itemMarker o true (some 9) 0).toList true (some true))
      task.children := .listed rfl rfl rfl
  rw [hmarker] at htask
  have hquote : n.Nests o [.quote, .item "9.".toList true (some true)] quote :=
    .inside (.quote rfl) (.inside htask (.here quote))
  have hhtml : (html.renderWith Handlers.empty.choose o).output = .ok " > a\n\n9. b" := rfl
  have hcontent : Builtin.blocks "\n\n" [html.renderWith Handlers.empty.choose o] =
      .ok " > a\n\n9. b" := by
    rw [Builtin.blocks_singleton _ (by rw [hhtml]; simp), hhtml]
  have hinner : quote.Holds o .quote [html] := .quote rfl
  rcases (containers_strip hvalid).2.2.2 Handlers.empty n _ quote .quote [html]
    " > a\n\n9. b" rfl rfl rfl hquote hinner hcontent with ⟨out, hrender, hstrip⟩
  have hlayers : [.quote, .item "9.".toList true (some true)] ++ [.quote] = layers := rfl
  rw [hlayers] at hstrip
  exact ⟨hvalid, out, hrender, hstrip⟩

end Anchormark
