import Anchormark.Proofs.Attribute.Siblings
import Anchormark.Proofs.Render.Escaping
import Mathlib.Data.List.Chain

/-!
# Escaped Blocks Stay Text

Where a text begins or ends with an attribute block, the renderer puts a backslash before the
opening brace, so that reading the output back does not take the block for markup. The renderer
decides this on the value of the text, the resolver on the source, and the two count bytes in
different strings: other characters of the block may be escaped as well.

At the start the two agree because a span begins at the backslash or right behind it. At the
backslash there is no brace, and behind it the brace is escaped.

At the end the resolver counts the bytes of the unescaped block back from the end of the span.
Whatever place that leads to, the block has one opening brace and so has what was written for it,
so if the block stood there its brace would be the one behind the backslash. That one is escaped,
because the backslashes of the text before it come in pairs.

## Theorems

* `not_standsAt_start`: No block stands at the start of an escaped text.
* `not_standsAt_end`: No block stands at the end of an escaped text.
* `not_opensWith_of_written`, `not_closesWith_of_written`: So a text node has no block to give.
* `resolve_written`: A paragraph, heading or cell around an escaped text is left as it is.
-/

namespace Anchormark

namespace Escape

/-- No block stands at the start of an escaped text, nor one byte behind it. -/
theorem not_standsAt_start {before after : List Char} (hbefore : Text.Unescaped before)
    {start : Nat} (hstart : start = Text.byteLength before ∨ start = Text.byteLength before + 1)
    (tail : List Char) : ¬ StandsAt (before ++ ('\\' :: '{' :: after)) start ('{' :: tail) := by
  rintro ⟨front, back, hsource, hlen, hfront⟩
  rcases hstart with rfl | rfl
  · -- The source has a backslash here, and the block begins with a brace.
    have hback := (Text.append_inj_of_byteLength hsource hlen.symm).2
    simp only [List.cons_append, List.cons.injEq, Char.reduceEq, false_and] at hback
  · -- The source has the brace here, behind one backslash more than the even run before it.
    have hlen' : Text.byteLength (before ++ ['\\']) = Text.byteLength front := by
      rw [Text.byteLength_append, hlen]
      rfl
    rw [List.append_cons] at hsource
    rw [← (Text.append_inj_of_byteLength hsource hlen').1] at hfront
    exact (Text.unescaped_append_backslash before).mp hfront hbefore

/-- No block stands at the end of an escaped text. The block is counted back from the end, in
    bytes of the block as it reads, not as it was written. -/
theorem not_standsAt_end {before after front tail written written' : List Char}
    (hbefore : Text.Unescaped before) (hfront : Escaped front written)
    (htail : Escaped tail written') (hbrace : '{' ∉ tail) {start : Nat}
    (hstart : start + Text.byteLength ('{' :: tail) =
      Text.byteLength (before ++ (written ++ '\\' :: '{' :: written'))) :
    ¬ StandsAt (before ++ (written ++ '\\' :: '{' :: written') ++ after) start ('{' :: tail) := by
  rintro ⟨place, back, hsource, hlen, hplace⟩
  -- The block ends where the written text ends, so both sides have the same last brace.
  rw [← List.append_assoc place] at hsource
  have hends : Text.byteLength (before ++ (written ++ '\\' :: '{' :: written')) =
      Text.byteLength (place ++ '{' :: tail) := by
    rw [Text.byteLength_append place, hlen, hstart]
  have hsame := (Text.append_inj_of_byteLength hsource hends).1
  have hbrace' : '{' ∉ written' := htail.not_mem (by decide) hbrace
  rw [List.append_cons written, ← List.append_assoc before] at hsame
  have hplace' := (AttributeBlock.append_brace_inj hbrace' hbrace hsame).1
  -- Before that brace stands one backslash more than the pairs before it.
  rw [← hplace', ← List.append_assoc, Text.unescaped_append_backslash] at hplace
  exact hplace (hfront.unescaped hbefore)

/-- A text node over what was written for its value opens with no block, whether its span takes
    in a backslash at the very start or begins behind it. -/
theorem not_opensWith_of_written {value : String} {before after : List Char} {n : Node} {s : Span}
    (hkind : n.kind = .text value) (hspan : n.span = some s) (hbefore : Text.Unescaped before)
    (hstart : s.start = Text.byteLength before ∨ s.start = Text.byteLength before + 1)
    (a : Attributes) (block rest : List Char) :
    ¬ n.OpensWith (before ++ escapeText value.toList ++ after) a block rest := by
  intro hopens
  have hvalue : value.toList = block ++ rest := by
    have h := hopens.kind
    rw [hkind, Kind.text.injEq] at h
    rw [h, String.toList_ofList]
  have hread := hopens.read
  rcases AttributeBlock.leading?_eq_some hread with ⟨body, hbody⟩
  have hchosen : ([] : List Char).length ∈ blockBraces ([] ++ '{' :: (body ++ '}' :: rest)) := by
    rw [List.nil_append, ← hbody]
    exact mem_blockBraces_of_leading? hread
  rcases escapeText_split hchosen with ⟨written, written', hwritten, hempty, -⟩
  -- Nothing stands before the first brace, so nothing was written for it.
  cases hempty
  rw [List.nil_append, ← hbody, List.nil_append] at hwritten
  have hstands := hopens.literal s hspan
  rw [hvalue, hwritten] at hstands
  -- The block is not empty, so it begins with the first character of the value.
  cases block with
  | nil =>
      have hlen := congrArg List.length hbody
      simp only [List.nil_append, List.length_cons, List.length_append] at hlen
      omega
  | cons c block =>
      rw [List.cons_append, List.cons.injEq] at hbody
      rw [hbody.1, List.append_assoc] at hstands
      exact not_standsAt_start hbefore hstart block hstands

/-- A text node over what was written for its value closes with no block. -/
theorem not_closesWith_of_written {value : String} {before after : List Char} {n : Node}
    {s : Span} (hkind : n.kind = .text value) (hspan : n.span = some s)
    (hbefore : Text.Unescaped before)
    (hstop : s.stop = Text.byteLength (before ++ escapeText value.toList))
    (a : Attributes) (front block : List Char) :
    ¬ n.ClosesWith (before ++ escapeText value.toList ++ after) a front block := by
  intro hcloses
  have hvalue : value.toList = front ++ block := by
    have h := hcloses.kind
    rw [hkind, Kind.text.injEq] at h
    rw [h, String.toList_ofList]
  rcases AttributeBlock.trailing?_eq_some hcloses.read with ⟨tail, hblock, hbrace, -⟩
  rw [List.append_cancel_left_eq] at hblock
  subst hblock
  rcases escapeText_split (mem_blockBraces_of_trailing? hcloses.read) with
    ⟨written, written', hwritten, hfront, htail⟩
  rcases hcloses.literal s hspan with ⟨hle, hstands⟩
  rw [hvalue, hwritten] at hstands hstop
  refine not_standsAt_end hbefore hfront htail hbrace ?_ hstands
  rw [Nat.sub_add_cancel hle, hstop]

end Escape

/-- An element over an escaped text, alone or behind an empty link, is left as it is: no block is
    found, the value stays, and nothing gets an identifier. The element is any at all, those that
    take a block at their end included. The span of the text may begin where it was written or
    one byte later, behind a backslash. -/
theorem resolve_written {value before : String} (hvalue : value ≠ "")
    (hbefore : Text.Unescaped before.toList) {start : Nat}
    (hstart : start = Text.size before ∨ start = Text.size before + 1) {links : List Node}
    (hlinks : links = [] ∨ ∃ span hint, links = [⟨.link "" none, [], span, hint⟩])
    (kind : Kind) (after : String) (span : Option Span) (hint hint' : Option String) :
    let written := String.ofList (Escape.escapeText value.toList)
    let text : Node := ⟨.text value, [], some ⟨start, Text.size (before ++ written)⟩, hint'⟩
    let n : Node := ⟨kind, links ++ [text], span, hint⟩
    n.resolve (before ++ written ++ after) = (n, 0) := by
  intro written text n
  have hsource : (before ++ written ++ after).toList =
      before.toList ++ Escape.escapeText value.toList ++ after.toList := by
    rw [String.toList_append, String.toList_append, String.toList_ofList]
  -- Neither end of the text is a block: every brace that would make one is escaped in the source.
  have hlead (target : Node) :
      target.moveLeading? (before ++ written ++ after).toList text = none := by
    rw [hsource]
    exact Node.moveLeading?_eq_none
      (Escape.not_opensWith_of_written rfl rfl hbefore hstart)
  have htrail : text.cutTrailing? (before ++ written ++ after).toList = none := by
    rw [hsource]
    refine Node.cutTrailing?_eq_none (Escape.not_closesWith_of_written rfl rfl hbefore ?_)
    simp only [Text.size, written, String.toList_append, String.toList_ofList]
  have hfull : text.isEmptyText = false := by
    simp only [text, Node.isEmptyText, String.isEmpty_eq_false_iff]
    exact hvalue
  refine Resolve.node_eq_self_of_children ?_ ?_ ?_ ?_
  · -- Neither the link nor the text has children.
    intro c hc
    rcases hlinks with rfl | ⟨span', hint'', rfl⟩
    · rw [List.mem_singleton.mp hc]
      exact Resolve.node_eq_self rfl
    · rcases List.mem_pair.mp hc with rfl | rfl <;> exact Resolve.node_eq_self rfl
  · -- A link would take a block at the start of the text, and there is none.
    rcases hlinks with rfl | ⟨span', hint'', rfl⟩
    · exact List.isChain_singleton _
    · exact List.isChain_pair.mpr (hlead _)
  · -- Nothing vanishes, so nothing comes to stand at the end that was not there.
    intro c hc
    rcases hlinks with rfl | ⟨span', hint'', rfl⟩
    · rw [List.mem_singleton.mp hc]
      exact hfull
    · rcases List.mem_pair.mp hc with rfl | rfl
      · rfl
      · exact hfull
  · -- The text is the last child in either case.
    intro last hlast
    rw [List.getLast?_append, List.getLast?_singleton, Option.some_or, Option.mem_some] at hlast
    rw [← hlast]
    exact htrail

/-- A text with a block at either end, behind an empty link. In the second block two more
    characters are escaped than the resolver counts, and a real block comes right behind. -/
theorem resolve_written_two_blocks :
    let value := "\x7b#a\x7d *x* \x7b#*b*\x7d"
    let source := "\\\\[]()\\\x7b#a\x7d \\*x\\* \\\x7b#\\*b\\*\x7d\x7b#d\x7d"
    let n : Node := .paragraph [⟨.link "" none, [], some ⟨2, 6⟩, none⟩,
      ⟨.text value, [], some ⟨7, 27⟩, none⟩]
    (value ≠ "" ∧ Text.Unescaped "\\\\[]()".toList) ∧ n.resolve source = (n, 0) := by
  intro value source n
  have hbefore : Text.Unescaped "\\\\[]()".toList := ⟨0, by decide⟩
  have hwritten : String.ofList (Escape.escapeText value.toList) =
      "\\\x7b#a\x7d \\*x\\* \\\x7b#\\*b\\*\x7d" := by
    decide +kernel
  have hsize : Text.size ("\\\\[]()" ++ "\\\x7b#a\x7d \\*x\\* \\\x7b#\\*b\\*\x7d") = 27 := by
    decide +kernel
  refine ⟨⟨by decide, hbefore⟩, ?_⟩
  have h := @resolve_written value "\\\\[]()" (by decide) hbefore 7 (.inr (by decide +kernel))
    [⟨.link "" none, [], some ⟨2, 6⟩, none⟩] (.inr ⟨_, _, rfl⟩) .paragraph "\x7b#d\x7d" none
    none none
  simp only [hwritten, hsize] at h
  exact h

end Anchormark
