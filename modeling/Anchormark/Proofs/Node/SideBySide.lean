import Anchormark.Proofs.Node.OpenTags

/-!
# Two Runs Side by Side

Two builders that differ in one frame only take the same events. In front of that frame, and behind
it, they do the same. What they do to the frame itself they do to both of its forms. So a relation
between the two forms holds throughout, if it outlives what an event does to a frame, and if it goes
on to the frame below once the frame is closed. In the end it holds of the two roots.

What closing may do to a difference is settled by images, which keep the text of what is in them and
nothing else. That is why the relation is told whether the frame, or one below it, is an image.

## Main definitions

* `Frame.Carried`: a relation between two forms of a frame that events uphold.
* `Builder.Beside`: two builders that differ in one frame, in whose forms the relation holds.

## Theorems

* `Builder.Beside.push`, `Builder.Beside.feed`: Events keep the builders side by side.
* `Builder.Beside.ofEvents`: In the end the relation holds of the roots.
-/

namespace Anchormark

/-- The frame becomes an image. -/
def Frame.isImage (f : Frame) : Bool :=
  decide (f.kind.type = .image) && !f.dissolves

/-- One of the frames becomes an image. -/
def hasImage (frames : List Frame) : Bool :=
  frames.any Frame.isImage

theorem hasImage_cons (f : Frame) (frames : List Frame) :
    hasImage (f :: frames) = (f.isImage || hasImage frames) :=
  List.any_cons

/-- Only the shapes of the frames count. -/
theorem hasImage_eq (frames : List Frame) :
    hasImage frames =
      (frames.map Frame.shape).any fun shape => decide (shape.1 = .image) && !shape.2.2 := by
  rw [List.any_map]
  rfl

theorem hasImage_congr {frames frames' : List Frame}
    (h : frames.map Frame.shape = frames'.map Frame.shape) :
    hasImage frames = hasImage frames' := by
  rw [hasImage_eq, hasImage_eq, h]

/-- A frame that keeps its shape does not change the answer. -/
theorem hasImage_cons_congr {f f' : Frame} (h : f.shape = f'.shape) (rest : List Frame) :
    hasImage (f :: rest) = hasImage (f' :: rest) :=
  hasImage_congr (congrArg (· :: rest.map Frame.shape) h)

namespace Frame

/-- A relation between two forms of a frame, which have their children apart, given whether it or a
    frame below it is an image. It stays when the same is appended to both, when the kind changes in
    both, but not the type, and when the frame is closed. -/
structure Carried (R : Bool → Frame → Frame → Prop) : Prop where
  form : ∀ {covered : Bool} {f f' : Frame}, R covered f f' →
    ∃ children tightParagraph, f' = { f with children, tightParagraph }
  append : ∀ {covered : Bool} {f f' : Frame}, f.IsSilent → f'.IsSilent → R covered f f' →
    ∀ {n : Node}, n.IsFresh → ∀ inline, R covered (f.append n inline) (f'.append n inline)
  edit : ∀ {covered : Bool} {f f' : Frame}, R covered f f' →
    ∀ {kind : Kind}, kind.type = f.kind.type → ∀ t : Bool → Bool,
      R covered { f with kind, tightParagraph := t f.tightParagraph }
        { f' with kind, tightParagraph := t f'.tightParagraph }
  absorb : ∀ {covered : Bool} {f g g' : Frame}, f.IsSilent → g.IsSilent → g'.IsSilent →
    R (g.isImage || covered) g g' → R covered (f.absorb g) (f.absorb g')

namespace Carried

variable {R : Bool → Frame → Frame → Prop} (hR : Carried R) {covered : Bool} {f f' : Frame}
include hR

theorem shape_eq (h : R covered f f') : f'.shape = f.shape := by
  rcases hR.form h with ⟨children, tight, rfl⟩
  rfl

variable (hf : f.IsSilent) (hf' : f'.IsSilent) (h : R covered f f')
include hf hf' h

theorem appendAll {ns : List Node} (hns : ∀ n ∈ ns, n.IsFresh) :
    R covered (f.appendAll ns) (f'.appendAll ns) := by
  induction ns generalizing f f' with
  | nil => exact h
  | cons n ns ih =>
      rw [List.forall_mem_cons] at hns
      have hedit {g : Frame} (hg : g.IsSilent) : (g.append n n.kind.isInline).IsSilent :=
        Builder.invariant_isSilent.edit hg (.append hns.1)
      exact ih (hedit hf) (hedit hf') (hR.append hf hf' h hns.1 _) hns.2

/-- What an event does to a frame that stays open keeps the relation. -/
theorem touch {k : Frame → Frame} (hk : Touch k) : R covered (k f) (k f') := by
  have hkind : f'.kind = f.kind := by
    rcases hR.form h with ⟨children, tight, rfl⟩
    rfl
  rcases hk.cases f with ⟨ns, hns, hsame⟩ | ⟨n, inline, hn, hsame⟩ | ⟨kind, t, htype, hsame⟩
  · rw [hsame f rfl, hsame f' hkind]
    exact hR.appendAll hf hf' h hns
  · rw [hsame f rfl, hsame f' hkind]
    exact hR.append hf hf' h hn inline
  · rw [hsame f rfl, hsame f' hkind]
    exact hR.edit h htype t

end Carried

end Frame

namespace Builder

/-- The builder with one frame more. -/
def under (b : Builder) (f : Frame) : Builder :=
  { b with frames := f :: b.frames }

theorem All.of_under {F : Frame → Prop} {b : Builder} {f : Frame} (h : (b.under f).All F) :
    F f ∧ b.All F :=
  ⟨h.frames f List.mem_cons_self, h.root_kind, h.root,
    fun g hg => h.frames g (List.mem_cons_of_mem f hg)⟩

theorem closeTop_under (b : Builder) (f : Frame) : (b.under f).closeTop = b.mapTop (·.absorb f) :=
  closeTop_cons b.source f b.frames b.root

/-- Two builders that differ in one frame, and that frame has two forms of which the relation
    holds. -/
inductive Beside (R : Bool → Frame → Frame → Prop) : Builder → Builder → Prop
  | root {source : String} {root root' : Frame} (h : R false root root') :
      Beside R ⟨source, [], root⟩ ⟨source, [], root'⟩
  | here {source : String} {f f' root : Frame} {rest : List Frame}
      (h : R (hasImage (f :: rest)) f f') :
      Beside R ⟨source, f :: rest, root⟩ ⟨source, f' :: rest, root⟩
  | above {b b' : Builder} (f : Frame) (h : Beside R b b') : Beside R (b.under f) (b'.under f)

namespace Beside

variable {R : Bool → Frame → Frame → Prop} {b b' : Builder}

/-- Two forms of the innermost frame put two builders side by side. -/
theorem of_mapTop {k k' : Frame → Frame} (hk : ∀ f, (k f).shape = f.shape)
    (h : R (hasImage b.frames) (k b.top) (k' b.top)) : Beside R (b.mapTop k) (b.mapTop k') := by
  rcases b with ⟨source, frames, root⟩
  cases frames with
  | nil => exact .root h
  | cons first rest =>
      refine .here ?_
      rw [hasImage_cons_congr (hk first)]
      exact h

theorem source_eq (h : Beside R b b') : b.source = b'.source := by
  induction h with
  | root | here => rfl
  | above _ _ ih => exact ih

theorem length_frames (h : Beside R b b') : b.frames.length = b'.frames.length := by
  induction h with
  | root | here => rfl
  | above _ _ ih => exact congrArg Nat.succ ih

variable (hR : Frame.Carried R) (hb : b.All Frame.IsSilent) (hb' : b'.All Frame.IsSilent)
  (h : Beside R b b')
include hR hb hb' h

theorem mapTop {k : Frame → Frame} (hk : Frame.Touch k) : Beside R (b.mapTop k) (b'.mapTop k) := by
  cases h with
  | root h => exact .root (hR.touch hb.root hb'.root h hk)
  | @here source f f' root rest h =>
      refine .here ?_
      rw [hasImage_cons_congr (hk.shape f)]
      exact hR.touch (hb.frames f List.mem_cons_self) (hb'.frames f' List.mem_cons_self) h hk
  | above f h => exact .above (k f) h

/-- Opening an element puts the same frame in front of both. -/
theorem openTag (tag : Tag) (span : Span) :
    Beside R (b.openTag tag span) (b'.openTag tag span) := by
  rw [openTag_eq, openTag_eq, frameOf_congr h.source_eq]
  exact .above _ (h.mapTop hR hb hb' (touch_openTag tag))

/-- Closing one hands the same on, or else the two forms. -/
theorem closeTop : Beside R b.closeTop b'.closeTop := by
  cases h with
  | root h => exact .root h
  | @here source f f' root rest h =>
      rw [closeTop_cons, closeTop_cons]
      refine of_mapTop (Frame.shape_absorb · f) (hR.absorb ?_ ?_ ?_ h)
      · exact (All.of_under (b := ⟨source, rest, root⟩) hb).2.top
      · exact hb.frames f List.mem_cons_self
      · exact hb'.frames f' List.mem_cons_self
  | above f h =>
      -- The frame that closes is the same in both, and may append to one with two forms.
      rw [closeTop_under, closeTop_under]
      exact h.mapTop hR hb.of_under.2 hb'.of_under.2 (.absorb hb.of_under.1)

/-- The task box belongs to the same item of both. -/
theorem markTask (checked : Bool) :
    Beside R { b with frames := Builder.markTask checked b.frames }
      { b' with frames := Builder.markTask checked b'.frames } := by
  induction h with
  | root h => exact .root h
  | @here source f f' root rest h =>
      have hitem : f'.isItem = f.isItem := by
        rw [Bool.eq_iff_iff, Frame.isItem_iff_shape, Frame.isItem_iff_shape, hR.shape_eq h]
      dsimp only
      rw [markTask_cons, markTask_cons, hitem]
      -- The box goes to the innermost item, which is this frame or one below it.
      split
      · exact mapTop hR hb hb' (.here h) (.task checked)
      · refine .here ?_
        rw [hasImage_cons, hasImage_congr (shapes_markTask checked rest), ← hasImage_cons]
        exact h
  | @above b b' f h ih =>
      unfold under
      dsimp only
      rw [markTask_cons, markTask_cons]
      split
      · exact .above _ h
      · exact .above f (ih hb.of_under.2 hb'.of_under.2)

/-- Events keep the builders side by side. -/
theorem push (event : Event) (span : Span) : Beside R (b.push event span) (b'.push event span) := by
  rcases push_cases event span with ⟨tag, rfl⟩ | rfl | ⟨checked, rfl⟩ | ⟨-, k, hk, hpush⟩
  · exact h.openTag hR hb hb' tag span
  · exact h.closeTop hR hb hb'
  · exact h.markTask hR hb hb' checked
  · rw [hpush, hpush]
    exact h.mapTop hR hb hb' hk

theorem feed (events : List (Event × Span)) : Beside R (b.feed events) (b'.feed events) := by
  induction events generalizing b b' with
  | nil => exact h
  | cons e events ih =>
      exact ih (invariant_isSilent.push hb e.1 e.2) (invariant_isSilent.push hb' e.1 e.2)
        (h.push hR hb hb' e.1 e.2)

end Beside

/-- In the end the relation holds of the roots. -/
theorem Beside.ofEvents {R : Bool → Frame → Frame → Prop} (hR : Frame.Carried R) {source : String}
    {front front' : List (Event × Span)}
    (h : Beside R ((new source).feed front) ((new source).feed front'))
    (back : List (Event × Span)) :
    ∃ f f', f.kind = .root ∧ R false f f' ∧ Node.ofEvents source (front ++ back) = f.toNode ∧
      Node.ofEvents source (front' ++ back) = f'.toNode := by
  -- The two have equally many frames open, so finishing closes both equally often.
  let closes := List.replicate ((new source).feed (front ++ back)).frames.length
    (Event.close, (default : Span))
  have hfed := h.feed hR (invariant_isSilent.feed source front)
    (invariant_isSilent.feed source front') back
  rw [← feed_append, ← feed_append] at hfed
  have hclosed := hfed.feed hR (invariant_isSilent.feed source (front ++ back))
    (invariant_isSilent.feed source (front' ++ back)) closes
  have hkind : (((new source).feed (front ++ back)).feed closes).root.kind = .root := by
    rw [← feed_append]
    exact (invariant_isSilent.feed source _).root_kind
  rcases finish_eq_feed (le_refl _) default with ⟨hframes, hfinish⟩
  rcases finish_eq_feed (le_of_eq hfed.length_frames.symm) default with ⟨hframes', hfinish'⟩
  rw [ofEvents_eq, ofEvents_eq, hfinish, hfinish']
  generalize ((new source).feed (front ++ back)).feed closes = c at *
  generalize ((new source).feed (front' ++ back)).feed closes = c' at *
  -- No frame is left, so it is the roots that have two forms.
  cases hclosed with
  | root hroot => exact ⟨_, _, hkind, hroot, rfl, rfl⟩
  | here => exact absurd hframes (List.cons_ne_nil _ _)
  | above => exact absurd hframes (List.cons_ne_nil _ _)

end Builder

end Anchormark
