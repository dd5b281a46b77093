import Anchormark.Proofs.Node.SideBySide

/-!
# What Images Cover Up

The description of an image is the text of what is in it. So two runs that give the same text, but
not the same nodes, are told apart up to the end of the image only: its two forms become the same
node.

## Main definitions

* `Frame.SameText`: two forms of a frame whose children have the same text.

## Theorems

* `Frame.plainText_fill`, `Frame.plainText_absorb`: The text of a frame that nodes are appended to.
* `Frame.SameText.toNode`: An image with the same text is the same image.
* `Frame.carried_sameText`: Events keep the text the same, up to the image, and then everything.
-/

namespace Anchormark

namespace Frame

/-- Two forms of a frame whose children have the same text. -/
structure SameText (f f' : Frame) : Prop where
  form : ∃ children tightParagraph, f' = { f with children, tightParagraph }
  text : f'.plainText = f.plainText

/-- Nodes that are appended bring their text. -/
theorem plainText_fill {f : Frame} (hf : f.IsFresh) {items : List (Node × Bool)}
    (h : ∀ i ∈ items, i.1.IsFresh) :
    (f.fill items).plainText =
      f.plainText ++ String.join ((items.map Prod.fst).map Node.plainText) := by
  induction items generalizing f with
  | nil => exact String.append_empty.symm
  | cons i items ih =>
      rw [List.forall_mem_cons] at h
      rw [fill, List.foldl_cons, ← fill, ih (isFresh_append hf h.1 i.2) h.2,
        plainText_append hf h.1, List.map_cons, List.map_cons, String.join_cons,
        String.append_assoc]

theorem plainText_appendAll {f : Frame} (hf : f.IsFresh) {ns : List Node}
    (h : ∀ n ∈ ns, n.IsFresh) :
    (f.appendAll ns).plainText = f.plainText ++ String.join (ns.map Node.plainText) := by
  rw [appendAll_eq_fill, plainText_fill hf (List.forall_mem_map.mpr h), List.map_map, List.map_map]
  rfl

/-- Whatever becomes of a frame, its text goes to the one below. -/
theorem plainText_absorb {f top : Frame} (hf : f.IsFresh) (htop : top.IsSilent) :
    (f.absorb top).plainText = f.plainText ++ top.plainText := by
  rw [absorb]
  split
  · exact plainText_appendAll hf htop.fresh.children
  · rw [plainText_append hf (isFresh_toNode htop.fresh), plainText_toNode htop]

/-- An image with the same text is the same image. -/
theorem SameText.toNode {f f' : Frame} (h : f.SameText f') (himage : f.kind.type = .image) :
    f'.toNode = f.toNode := by
  rcases h with ⟨⟨children, tight, rfl⟩, htext⟩
  rcases f with ⟨kind, span, cs, inline, dissolves, tight'⟩
  cases kind with
  | image url title _ =>
      exact congrArg (fun alt => ({ kind := .image url title alt, span } : Node)) htext
  | _ => cases himage

/-- Events keep the text the same, up to the end of the image that is open. Behind it everything is
    the same. -/
theorem carried_sameText :
    Carried fun covered f f' => f.SameText f' ∧ (covered = false → f' = f) where
  form h := h.1.form
  append {covered f f'} hf hf' h n hn inline := by
    refine ⟨⟨?_, ?_⟩, fun hcovered => by rw [h.2 hcovered]⟩
    · rcases h.1.form with ⟨children, tight, rfl⟩
      rcases f.append_eq n inline with ⟨cs, t, heq⟩
      rcases append_eq { f with children, tightParagraph := tight } n inline with ⟨cs', t', heq'⟩
      exact ⟨cs', t', by rw [heq, heq']⟩
    · rw [plainText_append hf.fresh hn, plainText_append hf'.fresh hn, h.1.text]
  edit h kind _ t := by
    rcases h with ⟨⟨⟨children, tight, rfl⟩, htext⟩, heq⟩
    refine ⟨⟨⟨children, t tight, rfl⟩, htext⟩, fun hcovered => ?_⟩
    have hform := heq hcovered
    rw [Frame.mk.injEq] at hform
    rw [hform.2.2.1, hform.2.2.2.2.2]
  absorb {covered f g g'} hf hg hg' h := by
    refine ⟨⟨?_, ?_⟩, fun hcovered => ?_⟩
    · rcases f.absorb_eq g with ⟨cs, t, heq⟩
      rcases f.absorb_eq g' with ⟨cs', t', heq'⟩
      exact ⟨cs', t', by rw [heq, heq']⟩
    · rw [plainText_absorb hf.fresh hg, plainText_absorb hf.fresh hg', h.1.text]
    · rw [hcovered, Bool.or_false] at h
      cases himage : g.isImage with
      | false => rw [h.2 himage]
      -- The image takes what differs with it: only the text is left of its children.
      | true =>
          rw [isImage, Bool.and_eq_true, decide_eq_true_eq, Bool.not_eq_true'] at himage
          have hform : g'.inline = g.inline ∧ g'.dissolves = false := by
            rcases h.1.form with ⟨children, tight, rfl⟩
            exact ⟨rfl, himage.2⟩
          rw [absorb, absorb, himage.2, hform.2, if_neg Bool.false_ne_true, h.1.toNode himage.1,
            hform.1, if_neg Bool.false_ne_true]

end Frame

end Anchormark
