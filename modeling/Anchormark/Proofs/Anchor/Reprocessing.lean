import Anchormark.Proofs.Note.Anchors
import Anchormark.Proofs.Pipeline.Processing

/-!
# Processing Twice

A document that has been processed can be processed again, and one would like to have the same
document and the same anchors then. What stands in the way is that the renderers do not escape
everything that can be read as markup. The ampersand of a character reference is not escaped, so a
text that says what a reference says is written as that reference, and read as the character. A code
block is written between backticks whatever it was fenced with, and its language may hold a backtick
when the fence was made of tildes: the line that is written then opens no block, and what stood
inside is read as text.

Notes are documents in which nothing of the kind happens. What counts is what a document says, not
how it is laid out: other markers, underlined titles, references for characters and identifiers that
are attached to something do not show in what is written. So the results here are about every source
that says what a sound note says. It is written as the note is, whatever it looked like, and the note
is read back from that.

## Main definitions

* `ReadsNote`: A source that says what a note says.

## Theorems

* `Node.anchorIds_content`, `Note.anchorIds_tree`: The anchors of a note are those of its tree.
* `readsNote_written`: What is written for a note says what the note says, in every style.
* `process_of_readsNote`: A source is processed into the note it says.
* `anchorIds_process_of_readsNote`: The anchors of a note survive.
* `process_process_of_readsNote`: The output of a note is its own output.
-/

namespace Anchormark

/-- The anchors of a tree are part of its content. -/
theorem Node.anchorIds_content (n : Node) : n.content.anchorIds = n.anchorIds := by
  induction n using Node.induct with
  | h n ih =>
      have hown : n.contentKind.anchor?.map Anchor.id = n.kind.anchor?.map Anchor.id := by
        unfold Node.contentKind
        cases n.kind <;> rfl
      rw [content_eq, anchorIds_eq, anchorIds_eq n, hown, List.flatMap_map]
      exact congrArg _ (List.flatMap_congr ih)

namespace Sign

/-- The anchors of several lines are those of each. -/
theorem ids_joined (lines : List (List Sign)) : ids (joined lines) = lines.flatMap ids := by
  have happend (line rest : List Sign) : ids (line ++ .char '\n' :: rest) = ids line ++ ids rest := by
    induction line with
    | nil => rfl
    | cons sign line ih =>
        cases sign with
        | char c => exact ih
        | anchor id => exact congrArg (id :: ·) ih
  induction lines with
  | nil => rfl
  | cons line rest ih =>
      cases rest with
      | nil => exact (List.append_nil _).symm
      | cons next rest =>
          rw [joined, happend, ih]
          exact List.flatMap_cons.symm

/-- The anchors of running text are those of its nodes. -/
theorem anchorIds_nodes (signs : List Sign) : (nodes signs).flatMap Node.anchorIds = ids signs := by
  have htext (cs : List Char) : (textNodes cs).flatMap Node.anchorIds = [] := by
    cases cs <;> rfl
  rw [nodes, List.flatMap_append, htext, List.nil_append, ids]
  generalize marked signs = ms
  induction ms with
  | nil => rfl
  | cons m ms ih =>
      rw [List.flatMap_cons, List.flatMap_append, ih, List.flatMap_cons, htext]
      rfl

end Sign

/-- The anchors of a block are those of its lines. -/
theorem NoteBlock.anchorIds_node (e : NoteBlock) : e.node.anchorIds = e.lines.flatMap Sign.ids := by
  have hpassage (lines : List (List Sign)) :
      (paragraphNode lines).anchorIds = lines.flatMap Sign.ids := by
    rw [Node.anchorIds_eq, ← Sign.ids_joined, ← Sign.anchorIds_nodes]
    rfl
  cases e with
  | paragraph lines => exact hpassage lines
  | heading depth line =>
      rw [Node.anchorIds_eq, lines, List.flatMap_singleton, ← Sign.anchorIds_nodes]
      rfl
  | rule => rfl
  | list first spread items =>
      have hitem (lines : List (List Sign)) :
          (itemNode spread lines).anchorIds = lines.flatMap Sign.ids := by
        rw [Node.anchorIds_eq, ← hpassage]
        exact List.append_nil _
      rw [Node.anchorIds_eq, lines, ← List.flatMap_id, List.flatMap_assoc, node, List.flatMap_map]
      exact List.flatMap_congr fun lines _ => hitem lines

/-- The anchors of a note are those of its tree. -/
theorem Note.anchorIds_tree (note : Note) : note.tree.anchorIds = note.anchorIds := by
  rw [Node.anchorIds_eq, Note.tree, List.flatMap_map, Note.anchorIds]
  exact List.flatMap_congr fun e _ => e.anchorIds_node

/-- The characters of a line. -/
def Sign.ofString (s : String) : List Sign :=
  s.toList.map char

namespace Pipeline

/-- The source says what the note says: that is the content of its tree after a run. Where a node
    came from and which identifier was attached to it is no part of the content. -/
def ReadsNote (p : Pipeline) (source : String) (note : Note) : Prop :=
  (p.run (p.parse source) source).content = note.tree.content

instance (p : Pipeline) (source : String) (note : Note) : Decidable (p.ReadsNote source note) :=
  inferInstanceAs (Decidable (_ = _))

variable {options : PipelineOptions} {note : Note} {source : String}

/-- The anchors of the note are the anchors of the source. -/
theorem ReadsNote.anchorIds {p : Pipeline} (h : p.ReadsNote source note) :
    (p.run (p.parse source) source).anchorIds = note.anchorIds := by
  rw [← Node.anchorIds_content, h, Node.anchorIds_content, Note.anchorIds_tree]

/-- What is written for a note says what the note says. The style in which it is written need not be
    the one of the pipeline. -/
theorem readsNote_written (options : PipelineOptions) (hnote : note.IsSound) {o : RenderOptions}
    (ho : o.validate = .ok ()) :
    (installStandard { options }).ReadsNote (String.ofList (note.written o)) note := by
  set source := String.ofList (note.written o) with hsource
  have hwritten : source.toList = note.written o := String.toList_ofList
  have hread := Markdown.unplaced_settled_ofMarkdown ho hnote options.parse hwritten
  rw [ReadsNote, run_installStandard, ← hread, Node.content_unplaced]
  rfl

/-- A source is processed into the note that it says. -/
theorem process_of_readsNote (hvalid : options.render.validate = .ok ()) (hnote : note.IsSound)
    (h : (installStandard { options }).ReadsNote source note) :
    (installStandard { options }).process source =
      .ok (String.ofList (note.written options.render)) := by
  set p := installStandard { options } with hp
  have hwritten : (p.run (p.parse source) source).toMarkdown anchorHandlers options.render =
      .ok (String.ofList (note.written options.render)) :=
    (Node.toMarkdown_congr _ h).trans (note.toMarkdown_tree hvalid hnote)
  have hhandlers : p.handlers = anchorHandlers := handlers_installStandard options
  have hrender : p.options.render = options.render := rfl
  rw [process, stringify, hhandlers, hrender, hwritten]

/-- A note with all there can be in it: a title, a list whose items stand close, one whose numbers
    begin with three, a rule, and a paragraph that starts with an anchor and goes on with what looks
    like a heading. -/
def sampleNote : Note :=
  [.heading 1 (Sign.ofString "Title"),
    .list none false
      [[Sign.ofString "a_b " ++ .anchor "x" :: Sign.ofString " 2*3"], [Sign.ofString "©"]],
    .list (some 3) true [[Sign.ofString "c", Sign.ofString "- d"], [Sign.ofString "e"]],
    .rule,
    .paragraph [.anchor "y" :: Sign.ofString "f & g", Sign.ofString "# h"]]

/-- The same note, laid out in another way. -/
def sample : String :=
  "Title \x7b#t\x7d\n=\n* a_b [](<>)\x7b#x\x7d 2\\*3\n* &#169;\n\n" ++
    "3) c\n\\- d\n\n4) e\n- - -\n[]()\x7b#y\x7df & g\n\\# h\n"

theorem readsNote_sample : standard.ReadsNote sample sampleNote := by
  decide +kernel

theorem isSound_sampleNote : sampleNote.IsSound := by
  decide +kernel

/-- The anchors of a note survive. Every source that says what a sound note says has the anchors of
    the note, and what it is processed into has them too. What is written for the note is such a
    source, in every style. -/
theorem anchorIds_process_of_readsNote (hvalid : options.render.validate = .ok ())
    (hnote : note.IsSound) :
    let p := installStandard { options }
    (∀ source, p.ReadsNote source note →
        (p.run (p.parse source) source).anchorIds = note.anchorIds ∧
          ∃ out, p.process source = .ok out ∧
            (p.run (p.parse out) out).anchorIds = note.anchorIds) ∧
      ∀ o : RenderOptions, o.validate = .ok () →
        p.ReadsNote (String.ofList (note.written o)) note := by
  intro p
  refine ⟨fun source h => ?_, fun o ho => readsNote_written options hnote ho⟩
  have hout : p.ReadsNote (String.ofList (note.written options.render)) note :=
    readsNote_written options hnote hvalid
  exact ⟨h.anchorIds, _, process_of_readsNote hvalid hnote h, hout.anchorIds⟩

/-- The two anchors of the sample survive. -/
theorem anchorIds_process_sample :
    RenderOptions.validate {} = .ok () ∧ sampleNote.IsSound ∧ standard.ReadsNote sample sampleNote ∧
      (standard.run (standard.parse sample) sample).anchorIds = ["x", "y"] ∧
      ∃ out, standard.process sample = .ok out ∧
        (standard.run (standard.parse out) out).anchorIds = ["x", "y"] := by
  have hvalid : RenderOptions.validate {} = .ok () := by decide
  have hsurvive := (@anchorIds_process_of_readsNote {} _ hvalid isSound_sampleNote).1 sample
    readsNote_sample
  exact ⟨hvalid, isSound_sampleNote, readsNote_sample, hsurvive⟩

/-- A fence of tildes whose language holds a backtick becomes a fence of backticks that opens
    nothing, and the code behind it is read as an anchor. -/
theorem anchorIds_process_tilde_fence :
    let source := "~~~ a\x60\n[]()\x7b#x\x7d\n~~~\n"
    let out := "\x60\x60\x60a\x60\n[]()\x7b#x\x7d\n\x60\x60\x60\n"
    standard.process source = .ok out ∧
      (standard.run (standard.parse source) source).anchorIds = [] ∧
      (standard.run (standard.parse out) out).anchorIds = ["x"] := by
  refine ⟨?_, ?_, ?_⟩
  · decide +kernel
  · decide +kernel
  · decide +kernel

/-- The output of a note is its own output. Every source that says what a sound note says is
    processed into the note as it is written in the style of the pipeline, and that is processed into
    itself. What is written for the note in any other style is such a source. -/
theorem process_process_of_readsNote (hvalid : options.render.validate = .ok ())
    (hnote : note.IsSound) :
    let p := installStandard { options }
    let out := String.ofList (note.written options.render)
    (∀ source, p.ReadsNote source note → p.process source = .ok out ∧ p.process out = .ok out) ∧
      ∀ o : RenderOptions, o.validate = .ok () →
        p.ReadsNote (String.ofList (note.written o)) note := by
  intro p out
  refine ⟨fun source h => ?_, fun o ho => readsNote_written options hnote ho⟩
  have hout : p.ReadsNote out note := readsNote_written options hnote hvalid
  exact ⟨process_of_readsNote hvalid hnote h, process_of_readsNote hvalid hnote hout⟩

/-- The sample becomes its note, and stays. -/
theorem process_process_sample :
    let out := String.ofList (sampleNote.written {})
    RenderOptions.validate {} = .ok () ∧ sampleNote.IsSound ∧ standard.ReadsNote sample sampleNote ∧
      standard.process sample = .ok out ∧ standard.process out = .ok out := by
  intro out
  have hvalid : RenderOptions.validate {} = .ok () := by decide
  have hstable := (@process_process_of_readsNote {} _ hvalid isSound_sampleNote).1 sample
    readsNote_sample
  exact ⟨hvalid, isSound_sampleNote, readsNote_sample, hstable⟩

/-- A text that says what a character reference says is written as that reference, and the next
    time the character is all that is left. -/
theorem process_process_reference :
    standard.process "&amp;amp;\n" = .ok "&amp;\n" ∧ standard.process "&amp;\n" = .ok "&\n" := by
  refine ⟨?_, ?_⟩
  · decide +kernel
  · decide +kernel

end Pipeline

end Anchormark
