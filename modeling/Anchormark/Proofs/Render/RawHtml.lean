import Anchormark.Markdown.Events
import Anchormark.Proofs.Render.Front
import Anchormark.Proofs.Render.LineMarks

/-!
# Raw HTML in a Paragraph

The children of a paragraph are written one behind the other, and then the starts of the lines are
made safe. By then it cannot be seen any more what was text and what was raw HTML. Raw HTML may hold
line feeds, in a comment or between attributes, and a line of it may begin like a heading. Then it
gets a backslash like any other line, and is not what it was.

So raw HTML passes through a paragraph as it is, except where it holds a mark. One mark does no
harm: the first character of raw HTML that a text stands in front of. Its backslash is the last
character of what is written for the text.

## Main definitions

* `Slashed`: a text with backslashes put in.
* `Node.IsRun`: a text or raw HTML, as children of a paragraph.
* `Node.PassesThrough`: raw HTML is written as it is, and backslashes are added to texts only.
* `Node.MarksInText`: the marks that get a backslash are in texts, or right behind one.

## Theorems

* `slashed_withSlashes`: Escaping line starts does nothing but put in backslashes.
* `passesThrough_of_marksInText`, `marksInText_of_passesThrough`: Where the marks are decides.
* `paragraph_html_passes`: When raw HTML passes through a paragraph.
* `paragraph_comment_changed`: A comment that does not.
-/

namespace Anchormark

open Escape

/-- The second text is the first one with backslashes put in. -/
inductive Slashed : List Char → List Char → Prop
  | nil : Slashed [] []
  | keep (c : Char) {cs ds : List Char} (h : Slashed cs ds) : Slashed (c :: cs) (c :: ds)
  | slash {cs ds : List Char} (h : Slashed cs ds) : Slashed cs ('\\' :: ds)

namespace Slashed

theorem refl (cs : List Char) : Slashed cs cs := by
  induction cs with
  | nil => exact .nil
  | cons c cs ih => exact .keep c ih

theorem append {cs cs' ds ds' : List Char} (h : Slashed cs ds) (h' : Slashed cs' ds') :
    Slashed (cs ++ cs') (ds ++ ds') := by
  induction h with
  | nil => exact h'
  | keep c _ ih => exact .keep c ih
  | slash _ ih => exact .slash ih

/-- The characters other than backslashes stay. -/
theorem countP_eq {cs ds : List Char} (h : Slashed cs ds) :
    ds.countP (· ≠ '\\') = cs.countP (· ≠ '\\') := by
  induction h with
  | nil => rfl
  | keep c _ ih => rw [List.countP_cons, List.countP_cons, ih]
  | slash _ ih =>
      rw [List.countP_cons, ih]
      rfl

end Slashed

/-- Escaping line starts does nothing but put in backslashes. -/
theorem slashed_withSlashes (before cs after : List Char) :
    Slashed cs (withSlashes before cs after) := by
  induction cs generalizing before with
  | nil => exact .nil
  | cons c cs ih =>
      rw [withSlashes]
      split
      · exact .slash (.keep c (ih _))
      · exact .keep c (ih _)

/-- A character that is no backslash is found by the number of those in front of it. -/
theorem eq_of_countP_eq {us vs us' vs' : List Char} {c c' : Char} (hc : c ≠ '\\') (hc' : c' ≠ '\\')
    (heq : us ++ c :: vs = us' ++ c' :: vs')
    (hcount : us.countP (· ≠ '\\') = us'.countP (· ≠ '\\')) : us = us' := by
  have hmore {us us' vs : List Char} {c : Char} (hc : c ≠ '\\')
      (h : us' = us ++ c :: vs) (hcount : us.countP (· ≠ '\\') = us'.countP (· ≠ '\\')) :
      False := by
    rw [h, List.countP_append, List.countP_cons, if_pos (decide_eq_true hc)] at hcount
    omega
  -- If one front were longer, it would have one such character more.
  rcases List.append_eq_append_iff.mp heq with ⟨between, hus, hvs⟩ | ⟨between, hus, hvs⟩
  · cases between with
    | nil => rw [hus, List.append_nil]
    | cons d between =>
        rw [List.cons_append, List.cons.injEq] at hvs
        rw [← hvs.1] at hus
        exact (hmore hc hus hcount).elim
  · cases between with
    | nil => rw [hus, List.append_nil]
    | cons d between =>
        rw [List.cons_append, List.cons.injEq] at hvs
        rw [← hvs.1] at hus
        exact (hmore hc' hus hcount.symm).elim

namespace Node

/-- A text, or raw HTML that does not end in a line feed. -/
inductive IsRun (n : Node) : Prop
  | text {value : String} (h : n.kind = .text value)
  | html {value : String} (h : n.kind = .html value) (hlast : value.toList.getLast? ≠ some '\n')

/-- What is written for a text or raw HTML that stands alone. -/
def written (n : Node) : List Char :=
  match n.kind with
  | .text value => escapeText value.toList
  | .html value => value.toList
  | _ => []

/-- What is written for the children of a paragraph, before the starts of the lines are escaped. -/
def writtenAll (ns : List Node) : List Char :=
  ns.flatMap written

/-- What a child may become in the paragraph. Texts get more backslashes, and raw HTML is as it
    was. -/
inductive Becomes (n : Node) : List Char → Prop
  | text {value : String} {part : List Char} (h : n.kind = .text value)
      (hpart : Slashed n.written part) : Becomes n part
  | html {value : String} (h : n.kind = .html value) : Becomes n n.written

/-- The output is made of what the children may become. -/
inductive PassesThrough : List Node → List Char → Prop
  | nil : PassesThrough [] []
  | cons {n : Node} {ns : List Node} {part out : List Char} (h : n.Becomes part)
      (hrest : PassesThrough ns out) : PassesThrough (n :: ns) (part ++ out)

/-- A character of raw HTML that opens a block is the first one, and between it and a text in front
    of it there is nothing. -/
def MarksInText (ns : List Node) : Prop :=
  ∀ front n back value, ns = front ++ n :: back → n.kind = .html value →
    ∀ u c w, value.toList = u ++ c :: w →
      isLineMark (writtenAll front ++ u) c (w ++ writtenAll back) = true →
      u = [] ∧ ∃ outer t gap text, front = outer ++ t :: gap ∧ t.kind = .text text ∧
        writtenAll gap = []

theorem written_html {n : Node} {value : String} (h : n.kind = .html value) :
    n.written = value.toList := by
  rw [written, h]

theorem writtenAll_cons (n : Node) (ns : List Node) :
    writtenAll (n :: ns) = n.written ++ writtenAll ns :=
  List.flatMap_cons

theorem writtenAll_append (ns ms : List Node) :
    writtenAll (ns ++ ms) = writtenAll ns ++ writtenAll ms :=
  List.flatMap_append

namespace PassesThrough

theorem slashed {ns : List Node} {out : List Char} (h : PassesThrough ns out) :
    Slashed (writtenAll ns) out := by
  induction h with
  | nil => exact .nil
  | cons h _ ih =>
      rw [writtenAll_cons]
      refine .append ?_ ih
      cases h with
      | text _ hpart => exact hpart
      | html _ => exact .refl _

theorem split {ns ms : List Node} {out : List Char} (h : PassesThrough (ns ++ ms) out) :
    ∃ front back, out = front ++ back ∧ PassesThrough ns front ∧ PassesThrough ms back := by
  induction ns generalizing out with
  | nil => exact ⟨[], out, rfl, .nil, h⟩
  | cons n ns ih =>
      cases h with
      | cons h hrest =>
          rcases ih hrest with ⟨front, back, rfl, hfront, hback⟩
          exact ⟨_, back, (List.append_assoc _ _ _).symm, .cons h hfront, hback⟩

/-- A backslash at the end that is in none of the children was added to a text. -/
theorem exists_text_of_last {ns : List Node} {out : List Char} (h : PassesThrough ns out)
    (hout : out.getLast? = some '\\') (hns : (writtenAll ns).getLast? ≠ some '\\') :
    ∃ outer t gap text, ns = outer ++ t :: gap ∧ t.kind = .text text ∧ writtenAll gap = [] := by
  induction ns using List.reverseRecOn generalizing out with
  | nil =>
      cases h
      exact absurd hout (Option.some_ne_none _).symm
  | append_singleton ns n ih =>
      rcases h.split with ⟨front, back, rfl, hfront, hback⟩
      rw [writtenAll_append, writtenAll_cons, show writtenAll [] = [] from rfl,
        List.append_nil] at hns
      cases hback with
      | cons hn hnil =>
          cases hnil
          rw [List.append_nil] at hout
          cases hn with
          | text hkind _ => exact ⟨ns, n, [], _, rfl, hkind, rfl⟩
          | html hkind =>
              -- Empty HTML is passed over. Any other would end with the backslash itself.
              rcases eq_or_ne n.written [] with hempty | hne
              · rw [hempty, List.append_nil] at hout hns
                rcases ih hfront hout hns with ⟨outer, t, gap, text, rfl, htext, hgap⟩
                refine ⟨outer, t, gap ++ [n], text, by simp, htext, ?_⟩
                rw [writtenAll_append, hgap, writtenAll_cons, hempty]
                rfl
              · rw [List.getLast?_append_of_ne_nil _ hne] at hout hns
                exact absurd hout hns

end PassesThrough

/-- If raw HTML passes through, there are no marks but in texts and right behind them. -/
theorem marksInText_of_passesThrough {ns : List Node}
    (h : PassesThrough ns (withSlashes [] (writtenAll ns) [])) : MarksInText ns := by
  rintro front n back value rfl hkind u c w hvalue hmark
  rcases h.split with ⟨lead, rest, hout, hlead, hrest⟩
  rcases hrest with _ | @⟨_, _, part, rest, hn, -⟩
  have hpart : part = u ++ c :: w := by
    cases hn with
    | text htext _ => exact Kind.noConfusion (hkind.symm.trans htext)
    | html _ => rw [written_html hkind, hvalue]
  have hc : c ≠ '\\' := by
    rintro rfl
    exact absurd (mem_of_isLineMark hmark) (by decide)
  -- What is written up to the mark, once mark by mark and once child by child.
  have hslash : withSlashes [] (writtenAll front ++ u) (c :: (w ++ writtenAll back)) ++ ['\\'] =
      lead ++ u := by
    have hwritten : writtenAll (front ++ n :: back) =
        (writtenAll front ++ u) ++ c :: (w ++ writtenAll back) := by
      rw [writtenAll_append, writtenAll_cons, written_html hkind, hvalue]
      simp
    rw [hwritten, withSlashes_append, List.append_nil, List.nil_append, withSlashes,
      List.append_nil, hmark, if_pos rfl, hpart] at hout
    have heq : (withSlashes [] (writtenAll front ++ u) (c :: (w ++ writtenAll back)) ++ ['\\']) ++
        c :: withSlashes (writtenAll front ++ u ++ [c]) (w ++ writtenAll back) [] =
        (lead ++ u) ++ c :: (w ++ rest) := by
      simpa using hout
    refine eq_of_countP_eq hc hc heq ?_
    rw [List.countP_append, (slashed_withSlashes _ _ _).countP_eq, List.countP_append,
      List.countP_append, hlead.slashed.countP_eq]
    rfl
  have hlast : (lead ++ u).getLast? = some '\\' := by
    rw [← hslash, List.getLast?_concat]
  have hbefore : (writtenAll front ++ u).getLast? ≠ some '\\' := fun hmem => by
    rcases last_of_isLineMark hmark '\\' hmem with h | h <;> exact absurd h (by decide)
  rcases eq_or_ne u [] with rfl | hu
  · rw [List.append_nil] at hlast hbefore
    exact ⟨rfl, hlead.exists_text_of_last hlast hbefore⟩
  · rw [List.getLast?_append_of_ne_nil _ hu] at hlast hbefore
    exact absurd hlast hbefore

/-- As `MarksInText`, for children behind other characters, which may be a text. -/
def MarksInTextFrom (behindText : Prop) (before : List Char) (ns : List Node) : Prop :=
  ∀ front n back value, ns = front ++ n :: back → n.kind = .html value →
    ∀ u c w, value.toList = u ++ c :: w →
      isLineMark (before ++ (writtenAll front ++ u)) c (w ++ writtenAll back) = true →
      u = [] ∧ ((∃ outer t gap text, front = outer ++ t :: gap ∧ t.kind = .text text ∧
        writtenAll gap = []) ∨ behindText ∧ writtenAll front = [])

section From

variable {behindText : Prop} {before : List Char} {n : Node} {ns : List Node} {value : String}
  (h : MarksInTextFrom behindText before (n :: ns))
include h

/-- Behind a text marks may be the first characters. -/
theorem MarksInTextFrom.behind_text :
    MarksInTextFrom True (before ++ n.written) ns := by
  intro front m back html hns hm u c w hhtml hmark
  rw [List.append_assoc, ← List.append_assoc n.written, ← writtenAll_cons] at hmark
  rcases h (n :: front) m back html (congrArg (n :: ·) hns) hm u c w hhtml hmark with
    ⟨hu, ⟨outer, t, gap, text, hfront, ht, hgap⟩ | ⟨-, hnil⟩⟩
  · rcases List.cons_eq_append_iff.mp hfront with ⟨rfl, hcons⟩ | ⟨outer', rfl, hfront'⟩
    · rw [List.cons.injEq] at hcons
      rw [hcons.2] at hgap
      exact ⟨hu, .inr ⟨trivial, hgap⟩⟩
    · exact ⟨hu, .inl ⟨outer', t, gap, text, hfront', ht, hgap⟩⟩
  · rw [writtenAll_cons, List.append_eq_nil_iff] at hnil
    exact ⟨hu, .inr ⟨trivial, hnil.2⟩⟩

/-- Behind raw HTML they may not, unless it is empty. -/
theorem MarksInTextFrom.behind_html (hkind : n.kind = .html value) :
    MarksInTextFrom (behindText ∧ n.written = []) (before ++ n.written) ns := by
  intro front m back html hns hm u c w hhtml hmark
  rw [List.append_assoc, ← List.append_assoc n.written, ← writtenAll_cons] at hmark
  rcases h (n :: front) m back html (congrArg (n :: ·) hns) hm u c w hhtml hmark with
    ⟨hu, ⟨outer, t, gap, text, hfront, ht, hgap⟩ | ⟨htext, hnil⟩⟩
  · rcases List.cons_eq_append_iff.mp hfront with ⟨rfl, hcons⟩ | ⟨outer', rfl, hfront'⟩
    · rw [List.cons.injEq] at hcons
      rw [hcons.1, hkind] at ht
      exact Kind.noConfusion ht
    · exact ⟨hu, .inl ⟨outer', t, gap, text, hfront', ht, hgap⟩⟩
  · rw [writtenAll_cons, List.append_eq_nil_iff] at hnil
    exact ⟨hu, .inr ⟨⟨htext, hnil.1⟩, hnil.2⟩⟩

/-- Raw HTML stays as it is but for a mark at its start. -/
theorem MarksInTextFrom.withSlashes_html (hkind : n.kind = .html value) :
    withSlashes before n.written (writtenAll ns) = n.written ∨
      withSlashes before n.written (writtenAll ns) = '\\' :: n.written ∧ behindText := by
  have hmarks (u : List Char) (c : Char) (w : List Char) (hwritten : n.written = u ++ c :: w)
      (hmark : isLineMark (before ++ u) c (w ++ writtenAll ns) = true) : u = [] ∧ behindText := by
    rw [written_html hkind] at hwritten
    rcases h [] n ns value rfl hkind u c w hwritten hmark with
      ⟨hu, ⟨outer, t, gap, text, hnil, -⟩ | ⟨htext, -⟩⟩
    · exact absurd hnil (List.append_ne_nil_of_right_ne_nil _ (List.cons_ne_nil _ _)).symm
    · exact ⟨hu, htext⟩
  cases hwritten : n.written with
  | nil => exact .inl rfl
  | cons c w =>
      -- Behind the first character there is no mark in raw HTML.
      have hrest : withSlashes (before ++ [c]) w (writtenAll ns) = w := by
        refine withSlashes_eq_self fun u d v hw => Bool.eq_false_iff.mpr fun hmark => ?_
        rw [List.append_assoc] at hmark
        have hcons : n.written = (c :: u) ++ d :: v := by rw [hwritten, hw, List.cons_append]
        exact absurd (hmarks _ d v hcons hmark).1 (List.cons_ne_nil _ _)
      rw [withSlashes, hrest]
      split
      · next hmark =>
          refine .inr ⟨rfl, (hmarks [] c w hwritten ?_).2⟩
          rwa [List.append_nil]
      · exact .inl rfl

end From

/-- If all marks are in texts or right behind them, raw HTML passes through. The backslash of a mark
    at the start goes to the text in front, if there is one. -/
theorem MarksInTextFrom.exists_passesThrough {ns : List Node} (hns : ∀ n ∈ ns, n.IsRun)
    {behindText : Prop} {before : List Char} (h : MarksInTextFrom behindText before ns) :
    ∃ lead rest, withSlashes before (writtenAll ns) [] = lead ++ rest ∧ PassesThrough ns rest ∧
      (lead = [] ∨ lead = ['\\'] ∧ behindText) := by
  induction ns generalizing before behindText with
  | nil => exact ⟨[], [], rfl, .nil, .inl rfl⟩
  | cons n ns ih =>
      rw [List.forall_mem_cons] at hns
      have hwritten : withSlashes before (writtenAll (n :: ns)) [] =
          withSlashes before n.written (writtenAll ns) ++
            withSlashes (before ++ n.written) (writtenAll ns) [] := by
        rw [writtenAll_cons, withSlashes_append, List.append_nil]
      rcases hns.1 with ⟨hkind⟩ | ⟨hkind, -⟩
      · rcases ih hns.2 h.behind_text with ⟨lead, rest, hrest, hpass, hlead⟩
        -- A text may have backslashes anywhere, so one for the child behind it does no harm.
        have hslashed : Slashed [] lead := by
          rcases hlead with rfl | ⟨rfl, -⟩
          · exact .nil
          · exact .slash .nil
        have hpart := (slashed_withSlashes before n.written (writtenAll ns)).append hslashed
        rw [List.append_nil] at hpart
        refine ⟨[], _, ?_, .cons (.text hkind hpart) hpass, .inl rfl⟩
        rw [hwritten, hrest, List.nil_append, List.append_assoc]
      · rcases ih hns.2 (h.behind_html hkind) with
          ⟨lead, rest, hrest, hpass, rfl | ⟨rfl, htext, hnil⟩⟩
        · rcases h.withSlashes_html hkind with hself | ⟨hslash, htext⟩
          · exact ⟨[], _, by rw [hwritten, hself, hrest]; rfl, .cons (.html hkind) hpass, .inl rfl⟩
          · exact ⟨['\\'], _, by rw [hwritten, hslash, hrest]; rfl, .cons (.html hkind) hpass,
              .inr ⟨rfl, htext⟩⟩
        · -- The HTML is empty, so the backslash is handed on to the text in front of it.
          refine ⟨['\\'], _, ?_, .cons (.html hkind) hpass, .inr ⟨rfl, htext⟩⟩
          rw [hwritten, hrest, hnil]
          rfl

/-- A text is written escaped, and raw HTML as it is. -/
theorem IsRun.output {h : Handlers} (htext : h.get? .text = none) (hhtml : h.get? .html = none)
    (o : RenderOptions) {n : Node} (hn : n.IsRun) :
    (n.renderWith h.choose o).output = .ok (String.ofList n.written) := by
  cases hn with
  | text hkind => rw [output_text htext o hkind, written, hkind]
  | @html value hkind hlast =>
      have hself : Text.dropEndWhile (· = '\n') value.toList = value.toList := by
        refine List.rdropWhile_eq_self_iff.mpr fun hne hfeed => hlast ?_
        rw [List.getLast?_eq_getLast_of_ne_nil hne, of_decide_eq_true hfeed]
      have hrender : n.render h o = Builtin.html o n _ := render_of_kind o hkind hhtml rfl
      change n.render h o = _
      rw [hrender, Builtin.html, hkind, written_html hkind]
      dsimp only
      rw [hself]
      rfl

/-- The children are written one behind the other. -/
theorem inline_of_isRun {h : Handlers} (htext : h.get? .text = none) (hhtml : h.get? .html = none)
    (o : RenderOptions) {ns : List Node} (hns : ∀ n ∈ ns, n.IsRun) :
    Rendering.inline (ns.map (renderWith h.choose o)) = .ok (String.ofList (writtenAll ns)) := by
  have houtputs : ∃ outs, Rendering.outputs (ns.map (renderWith h.choose o)) = .ok outs ∧
      (String.join outs).toList = writtenAll ns := by
    induction ns with
    | nil => exact ⟨[], rfl, rfl⟩
    | cons n ns ih =>
        rw [List.forall_mem_cons] at hns
        rcases ih hns.2 with ⟨outs, houts, hjoin⟩
        refine ⟨_, Rendering.outputs_cons (hns.1.output htext hhtml o) houts, ?_⟩
        rw [String.join_cons, String.toList_append, String.toList_ofList, hjoin, writtenAll_cons]
  rcases houtputs with ⟨outs, houts, hjoin⟩
  rw [Rendering.inline, houts, ← hjoin, String.ofList_toList]
  rfl

end Node

/-- What is written for a paragraph of texts and raw HTML is what is written for its children, with
    a backslash in front of each mark. Raw HTML passes through as it is, with backslashes added to
    texts only, exactly if all marks are in texts or right behind them. -/
theorem paragraph_html_passes {h : Handlers} (hparagraph : h.get? .paragraph = none)
    (htext : h.get? .text = none) (hhtml : h.get? .html = none) (o : RenderOptions) {n : Node}
    (hkind : n.kind = .paragraph) (hchildren : ∀ c ∈ n.children, c.IsRun) :
    ∃ out, n.render h o = .ok out ∧
      out.toList = withSlashes [] (Node.writtenAll n.children) [] ∧
      Slashed (Node.writtenAll n.children) out.toList ∧
      (Node.PassesThrough n.children out.toList ↔ Node.MarksInText n.children) := by
  have hout : n.render h o =
      .ok (String.ofList (withSlashes [] (Node.writtenAll n.children) [])) := by
    rw [Node.render_of_kind o hkind hparagraph rfl, Builtin.paragraph,
      Node.inline_of_isRun htext hhtml o hchildren, ← escapeLineStarts_eq_withSlashes]
    simp only [bind, Except.bind, String.toList_ofList]
    rfl
  refine ⟨_, hout, String.toList_ofList, ?_, ?_⟩
  · rw [String.toList_ofList]
    exact slashed_withSlashes _ _ _
  · rw [String.toList_ofList]
    refine ⟨Node.marksInText_of_passesThrough, fun hmarks => ?_⟩
    -- Nothing is in front of the first child, so no backslash can be handed on from there.
    have hfrom : Node.MarksInTextFrom False [] n.children :=
      fun front m back value hns hm u c w hvalue hmark =>
        (hmarks front m back value hns hm u c w hvalue hmark).imp_right .inl
    rcases hfrom.exists_passesThrough hchildren with ⟨lead, rest, hrest, hpass, rfl | ⟨-, hfalse⟩⟩
    · rw [hrest]
      exact hpass
    · exact hfalse.elim

/-- A comment of two lines, and raw HTML that begins with a greater-than sign right behind a text.
    There are marks in the text and at the start of the second one only. -/
theorem paragraph_html_passes_quote :
    let comment : Node := { kind := .html "<!--\n 1. -->" }
    let text : Node := { kind := .text "\n- a\n" }
    let rest : Node := { kind := .html "> b" }
    let n : Node := { kind := .paragraph, children := [comment, text, rest] }
    let out := "<!--\n 1. -->\n\\- a\n\\> b"
    Handlers.empty.get? .paragraph = none ∧ Handlers.empty.get? .text = none ∧
      Handlers.empty.get? .html = none ∧ (∀ c ∈ n.children, c.IsRun) ∧
      n.render Handlers.empty {} = .ok out ∧ Node.PassesThrough n.children out.toList ∧
      Node.MarksInText n.children := by
  intro comment text rest n out
  have hchildren : ∀ c ∈ n.children, c.IsRun := by
    simp only [n, List.forall_mem_cons]
    exact ⟨.html rfl (by decide), .text rfl, .html rfl (by decide), List.forall_mem_nil _⟩
  have hout : n.render Handlers.empty {} = .ok out := rfl
  -- The second backslash stands at the end of the text and belongs to the HTML behind it.
  have hslashed : Slashed text.written "\n\\- a\n\\".toList :=
    .keep '\n' (.slash (.keep '-' (.keep ' ' (.keep 'a' (.keep '\n' (.slash .nil))))))
  have hparts : out.toList =
      comment.written ++ ("\n\\- a\n\\".toList ++ (rest.written ++ [])) := by decide
  have hpass : Node.PassesThrough n.children out.toList := by
    rw [hparts]
    exact .cons (.html rfl) (.cons (.text rfl hslashed) (.cons (.html rfl) .nil))
  rcases paragraph_html_passes (h := Handlers.empty) rfl rfl rfl {} (n := n) rfl hchildren with
    ⟨out', hrender, -, -, hpasses⟩
  rw [hout, Except.ok.injEq] at hrender
  rw [← hrender] at hpasses
  exact ⟨rfl, rfl, rfl, hchildren, hout, hpass, hpasses.mp hpass⟩

/-- A line of a comment begins with a number sign and gets a backslash. -/
theorem paragraph_comment_changed :
    let text : Node := { kind := .text "a " }
    let comment : Node := { kind := .html "<!--\n#b -->" }
    let n : Node := { kind := .paragraph, children := [text, comment] }
    let out := "a <!--\n\\#b -->"
    (∀ c ∈ n.children, c.IsRun) ∧ n.render Handlers.empty {} = .ok out ∧
      ¬ Node.PassesThrough n.children out.toList ∧
      ((Node.ofMarkdown {} "a <!--\n#b -->\n").children.flatMap Node.children).map Node.kind =
        [.text "a ", .html "<!--\n#b -->"] := by
  intro text comment n out
  have hchildren : ∀ c ∈ n.children, c.IsRun := by
    simp only [n, List.forall_mem_cons]
    exact ⟨.text rfl, .html rfl (by decide), List.forall_mem_nil _⟩
  refine ⟨hchildren, rfl, fun hpass => ?_, by decide +kernel⟩
  -- The comment is the last child, so it would have to be at the end as it is.
  have hsuffix : comment.written <:+ out.toList := by
    rcases Node.PassesThrough.split (show Node.PassesThrough ([text] ++ [comment]) _ from hpass)
      with ⟨front, back, hout, -, hback⟩
    rw [hout]
    rcases hback with _ | @⟨_, _, part, _, hcomment, hnil⟩
    cases hnil
    rw [List.append_nil]
    cases hcomment with
    | text hkind _ => exact Kind.noConfusion hkind
    | html _ => exact List.suffix_append _ _
  exact absurd hsuffix (by decide)

end Anchormark
