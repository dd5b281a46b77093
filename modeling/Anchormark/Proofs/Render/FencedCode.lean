import Anchormark.Proofs.Markdown.LineReading
import Anchormark.Proofs.Node.Rebuilding
import Anchormark.Proofs.Render.Front

/-!
# Reading a Code Block Back

A code block is written between two fences of backticks. It is read line by line: the first line
opens it, and it goes on up to a line that closes it, one with a run of backticks that is at least
as long as the opening fence. What stands between is the content, each line with a line feed behind
it.

No line of the content can close the block early, because the run that it would need for that is a
run of the value, and the fence is longer than any of these. It is also longer than two backticks,
as a fence has to be.

The renderer writes a line feed behind a value that is not empty, and none behind an empty one. A
builder takes one line feed off again when it closes the block. A value that is not empty has one
more line feed in the block than it has itself, and an empty one has no line there at all, so what
is taken off is in each case what has been put there.

## Main definitions

* `closesFence`: a line that closes a block.
* `FencedBlock`, `fencedBlock?`: a block that is read from the front of some lines.
* `FencedBlock.events`: what a builder gets to see of it.

## Theorems

* `Builtin.countWhile_le_longestRun`: No run is longer than the longest.
* `contentLines?_append`: The content ends with the first line that closes the block.
* `fencedBlock?_written`: The block is read from what is written.
* `Builder.feed_code`: A code block collects its lines.
* `code_reads_back`: The language and the value come back.
-/

namespace Anchormark

open Markdown

namespace Builtin

/-- The longest run so far is never forgotten, and the run that is going on counts. -/
theorem le_longestRun_go (c : Char) (cs : List Char) {longest current : Nat}
    (h : current ≤ longest) :
    longest ≤ longestRun.go c longest current cs ∧
      current + countWhile (· = c) cs ≤ longestRun.go c longest current cs := by
  induction cs generalizing longest current with
  | nil => exact ⟨Nat.le_refl _, h⟩
  | cons d cs ih =>
      by_cases hd : d = c
      · rcases ih (Nat.le_max_right longest (current + 1)) with ⟨hlongest, hcurrent⟩
        simp only [longestRun.go, countWhile, hd, if_true, List.takeWhile_cons, decide_true,
          List.length_cons] at hlongest hcurrent ⊢
        omega
      · rcases ih (Nat.zero_le longest) with ⟨hlongest, -⟩
        simp only [longestRun.go, countWhile, hd, if_false, List.takeWhile_cons, decide_false,
          Bool.false_eq_true, List.length_nil]
        omega

/-- No run is longer than the longest, wherever it begins. -/
theorem countWhile_le_longestRun_go (c : Char) {cs back : List Char} (hback : back <:+ cs)
    {longest current : Nat} (h : current ≤ longest) :
    countWhile (· = c) back ≤ longestRun.go c longest current cs := by
  induction cs generalizing longest current with
  | nil =>
      rw [List.eq_nil_of_suffix_nil hback]
      exact Nat.zero_le _
  | cons d cs ih =>
      rcases List.suffix_cons_iff.mp hback with rfl | hback
      · exact Nat.le_of_add_left_le (le_longestRun_go c (d :: cs) h).2
      · rw [longestRun.go]
        split
        · exact ih hback (Nat.le_max_right longest (current + 1))
        · exact ih hback (Nat.zero_le longest)

/-- The same for a run within a stretch of the text. -/
theorem countWhile_le_longestRun (c : Char) {cs part : List Char} (hpart : part <:+: cs) :
    countWhile (· = c) part ≤ longestRun c cs := by
  rcases hpart with ⟨front, back, rfl⟩
  -- The run may go on behind the stretch, but there it only gets longer.
  have hgrow : countWhile (· = c) part ≤ countWhile (· = c) (part ++ back) := by
    rw [countWhile, countWhile, List.takeWhile_append]
    split
    · next hall => rw [hall, List.length_append]; exact Nat.le_add_right _ _
    · exact Nat.le_refl _
  exact hgrow.trans (countWhile_le_longestRun_go c
    ⟨front, (List.append_assoc front part back).symm⟩ (Nat.le_refl 0))

end Builtin

/-- The line closes a block whose fence has `length` backticks: it holds at least as many behind at
    most three spaces, and nothing but blanks behind them. -/
def closesFence (length : Nat) (line : List Char) : Bool :=
  let indent := countWhile (· = ' ') line
  let marks := line.drop indent
  let run := countWhile (· = '`') marks
  indent ≤ 3 && length ≤ run && (marks.drop run).all fun c => c = ' ' || c = '\t'

/-- The lines up to the first one that closes the block, and those behind it. -/
def contentLines? (length : Nat) :
    List (List Char) → Option (List (List Char) × List (List Char))
  | [] => none
  | line :: rest =>
    if closesFence length line then some ([], rest)
    else (contentLines? length rest).map fun (content, behind) => (line :: content, behind)

/-- A block between two fences: what stands behind the opening one, and the lines up to the closing
    one. -/
structure FencedBlock where
  info : List Char
  content : List (List Char)
  deriving DecidableEq, Repr

/-- The block between two fences of backticks that the lines begin with, and the lines behind it.
    The lines are those between line feeds. A carriage return is a character of its line, unlike in
    the Markdown modules, where it ends one. -/
def fencedBlock? : List (List Char) → Option (FencedBlock × List (List Char))
  | [] => none
  | opening :: rest =>
    (fence? opening).bind fun (mark, length) =>
      if mark = '`' then
        (contentLines? length rest).map fun (content, behind) =>
          (⟨opening.drop length, content⟩, behind)
      else none

/-- A builder gets to see the info string and then line by line the content. -/
def FencedBlock.events (b : FencedBlock) : List Event :=
  Node.wrap (.fencedCode (String.ofList b.info))
    (b.content.map fun line => .text (String.ofList (line ++ ['\n'])))

/-- The content ends with the first line that closes the block. -/
theorem contentLines?_append {length : Nat} {content : List (List Char)}
    (hcontent : ∀ line ∈ content, closesFence length line = false) {closing : List Char}
    (hclosing : closesFence length closing = true) (behind : List (List Char)) :
    contentLines? length (content ++ closing :: behind) = some (content, behind) := by
  induction content with
  | nil => simp [contentLines?, hclosing]
  | cons line content ih =>
      rw [List.forall_mem_cons] at hcontent
      simp [contentLines?, hcontent.1, ih hcontent.2]

/-- As many backticks and then something else. -/
theorem countWhile_replicate_append (n : Nat) {c : Char} {cs : List Char}
    (hcs : cs.head? ≠ some c) : countWhile (· = c) (List.replicate n c ++ cs) = n := by
  have hrest : cs.takeWhile (· = c) = [] := List.length_eq_zero_iff.mp (countWhile_eq_zero hcs)
  rw [countWhile, List.takeWhile_append_of_pos, hrest, List.append_nil, List.length_replicate]
  intro d hd
  exact decide_eq_true (List.eq_of_mem_replicate hd)

/-- As many backticks and nothing else. -/
theorem countWhile_replicate (n : Nat) (c : Char) :
    countWhile (· = c) (List.replicate n c) = n := by
  have hrun : countWhile (· = c) (List.replicate n c ++ []) = n :=
    countWhile_replicate_append n (by simp)
  rwa [List.append_nil] at hrun

/-- A line without a run that is long enough closes nothing. -/
theorem closesFence_of_lt {length : Nat} {line : List Char}
    (h : ∀ part, part <:+ line → countWhile (· = '`') part < length) :
    closesFence length line = false := by
  have hrun := h _ (List.drop_suffix (countWhile (· = ' ') line) line)
  simp only [closesFence, Bool.and_eq_false_iff, decide_eq_false_iff_not]
  exact .inl (.inr (Nat.not_le_of_lt hrun))

/-- A fence closes a block with a fence of its length. -/
theorem closesFence_replicate {length : Nat} (h : 0 < length) :
    closesFence length (List.replicate length '`') = true := by
  have hindent : countWhile (· = ' ') (List.replicate length '`') = 0 := by
    rcases Nat.exists_eq_add_of_lt h with ⟨k, rfl⟩
    rfl
  simp [closesFence, hindent, countWhile_replicate]

/-- A fence and an info string without backticks open a block. -/
theorem fence?_replicate {length : Nat} (h : 3 ≤ length) {info : List Char} (hinfo : '`' ∉ info) :
    fence? (List.replicate length '`' ++ info) = some ('`', length) := by
  have hhead : info.head? ≠ some '`' := fun hhead => hinfo (List.mem_of_mem_head? hhead)
  have hrun := countWhile_replicate_append length hhead
  have hline (p : Char → Bool) : '`' ∉ info.takeWhile p := fun hmem =>
    hinfo ((List.takeWhile_prefix p).subset hmem)
  rcases Nat.exists_eq_add_of_lt (Nat.lt_of_lt_of_le (by decide) h : 0 < length) with ⟨k, hk⟩
  rw [Nat.zero_add] at hk
  have hcons : List.replicate length '`' ++ info = '`' :: (List.replicate k '`' ++ info) := by
    rw [hk, List.replicate_succ, List.cons_append]
  have hdrop : (List.replicate length '`' ++ info).drop length = info := by
    simp
  rw [hcons] at hrun hdrop ⊢
  simp [fence?, hrun, hdrop, h, hline]

namespace Builder

/-- A code block collects the lines that arrive one by one. -/
theorem feed_code {b : Builder} {lang : Option String} {value : String} {span : Option Span}
    (htop : b.top = { kind := .code lang value, span }) {content : List (List Char)}
    {stream : List (Event × Span)}
    (hstream : stream.map Prod.fst =
      content.map fun line => Event.text (String.ofList (line ++ ['\n']))) :
    b.feed stream = b.mapTop fun _ =>
      { kind := .code lang (value ++ String.ofList (content.flatMap (· ++ ['\n']))), span } := by
  induction content generalizing b value stream with
  | nil =>
      rw [List.map_nil, List.map_eq_nil_iff] at hstream
      rw [hstream, feed_nil]
      refine (mapTop_self ?_).symm
      rw [List.flatMap_nil, htop]
      exact congrArg (fun value => ({ kind := .code lang value, span } : Frame))
        String.append_empty
  | cons line content ih =>
      rcases List.map_eq_cons_iff.mp hstream with ⟨⟨_, here⟩, rest, rfl, rfl, hrest⟩
      -- Text in a code block is appended to its value.
      have hpush : b.push (.text (String.ofList (line ++ ['\n']))) here = b.mapTop fun _ =>
          { kind := .code lang (value ++ String.ofList (line ++ ['\n'])), span } := by
        rw [push, addText]
        simp only [htop]
        exact mapTop_congr (by rw [htop])
      have htop' : (b.push (.text (String.ofList (line ++ ['\n']))) here).top =
          { kind := .code lang (value ++ String.ofList (line ++ ['\n'])), span } := by
        rw [hpush, top_mapTop]
      rw [feed_cons, ih htop' hrest, hpush, mapTop_mapTop]
      refine mapTop_congr ?_
      simp only [List.flatMap_cons, String.ofList_append, String.append_assoc]

/-- The tree of a block is one code block. Closing it takes a line feed off the collected lines. -/
theorem ofEvents_code {source : String} {stream : List (Event × Span)} {block : FencedBlock}
    (hstream : stream.map Prod.fst = block.events) :
    ∃ span, Node.ofEvents source stream =
      { kind := .root
        span := some ⟨0, Text.size source⟩
        children := [Frame.toNode
          { kind := .code (language? (String.ofList block.info))
              (String.ofList (block.content.flatMap (· ++ ['\n'])))
            span := some span }] } := by
  rw [FencedBlock.events, Node.wrap] at hstream
  rcases List.map_eq_append_iff.mp hstream with ⟨front, last, rfl, hfront, hlast⟩
  rcases List.map_eq_cons_iff.mp hfront with ⟨⟨_, span⟩, content, rfl, rfl, hcontent⟩
  rcases List.map_eq_singleton_iff.mp hlast with ⟨⟨_, stop⟩, rfl, rfl⟩
  refine ⟨span, ?_⟩
  have hfeed := feed_code (top_openTag (new source) (.fencedCode (String.ofList block.info)) span)
    hcontent
  rw [String.empty_append] at hfeed
  -- The events in between have filled the frame, and closing takes it off.
  have hclose := closeTop_openTag (new source) (.fencedCode (String.ofList block.info)) span
    (f := { kind := .code (language? (String.ofList block.info))
              (String.ofList (block.content.flatMap (· ++ ['\n']))), span := some span }) rfl
  have hrun : (new source).feed ((.start (.fencedCode (String.ofList block.info)), span) ::
      content ++ [(.close, stop)]) =
        (((new source).openTag (.fencedCode (String.ofList block.info)) span).feed
          content).closeTop := by
    rw [List.cons_append, feed_cons, feed_append]
    rfl
  rw [ofEvents_eq, hrun, hfeed, hclose]
  rfl

end Builder

/-- The lines between the fences. -/
def codeLines (value : List Char) : List (List Char) :=
  if value.isEmpty then [] else Text.lines value

/-- The length of the fences. -/
def fenceLength (value : List Char) : Nat :=
  max (Builtin.longestRun '`' value) 2 + 1

/-- The block is read from what is written, and it ends where that ends. -/
theorem fencedBlock?_written {info value : List Char} (hinfo : '`' ∉ info)
    (behind : List (List Char)) :
    let fence := List.replicate (fenceLength value) '`'
    fencedBlock? ((fence ++ info) :: codeLines value ++ [fence] ++ behind) =
      some (⟨info, codeLines value⟩, behind) := by
  intro fence
  have hlength : 3 ≤ fenceLength value := Nat.succ_le_succ (Nat.le_max_right _ 2)
  -- A run in a line of the value is a run of the value.
  have hcontent : ∀ line ∈ codeLines value, closesFence (fenceLength value) line = false := by
    intro line hline
    refine closesFence_of_lt fun part hpart => ?_
    have hmem : line ∈ Text.lines value := by
      rw [codeLines] at hline
      split at hline
      · exact absurd hline List.not_mem_nil
      · exact hline
    have hle := Builtin.countWhile_le_longestRun '`'
      (hpart.isInfix.trans (Text.infix_of_mem_lines hmem))
    rw [fenceLength]
    omega
  have hclosing : closesFence (fenceLength value) fence = true :=
    closesFence_replicate (Nat.lt_of_lt_of_le (by decide) hlength)
  have hdrop : (fence ++ info).drop (fenceLength value) = info := by
    simp [fence]
  have hread := contentLines?_append hcontent hclosing behind
  rw [List.append_assoc, List.cons_append, List.singleton_append, fencedBlock?,
    fence?_replicate hlength hinfo]
  simp [hread, hdrop]

/-- The lines of what is written. -/
theorem lines_code {info value : List Char} (hinfo : '\n' ∉ info) :
    let fence := List.replicate (fenceLength value) '`'
    Text.lines
        (fence ++ info ++ '\n' :: ((if value.isEmpty then [] else value ++ ['\n']) ++ fence)) =
      (fence ++ info) :: codeLines value ++ [fence] := by
  intro fence
  have hfence : '\n' ∉ fence := fun hmem => absurd (List.eq_of_mem_replicate hmem) (by decide)
  have hopening : '\n' ∉ fence ++ info := by
    rw [List.mem_append, not_or]
    exact ⟨hfence, hinfo⟩
  have hcontent : ∀ line ∈ codeLines value, '\n' ∉ line := by
    intro line hline
    rw [codeLines] at hline
    split at hline
    · exact absurd hline List.not_mem_nil
    · exact Text.feed_not_mem_of_mem_lines hline
  have hall : ∀ line ∈ (fence ++ info) :: codeLines value ++ [fence], '\n' ∉ line := by
    rw [List.forall_mem_append, List.forall_mem_cons, List.forall_mem_singleton]
    exact ⟨⟨hopening, hcontent⟩, hfence⟩
  -- What is written is its lines put together, so they are what it is taken apart into.
  have hunlines : Text.unlines ((fence ++ info) :: codeLines value ++ [fence]) =
      fence ++ info ++ '\n' :: ((if value.isEmpty then [] else value ++ ['\n']) ++ fence) := by
    rw [codeLines]
    split
    · exact Text.unlines_cons_cons _ _ []
    · have hlines := Text.lines_ne_nil value
      rw [List.cons_append, ← List.singleton_append, Text.unlines_append (List.cons_ne_nil _ _)
        (List.append_ne_nil_of_left_ne_nil hlines _), Text.unlines_append hlines
        (List.cons_ne_nil _ _), Text.unlines_lines]
      simp [Text.unlines, Text.joinWith]
  rw [← hunlines]
  exact Text.lines_unlines (List.cons_ne_nil _ _) hall

/-- Closing a block of the lines of a value gives the value. -/
theorem toNode_codeLines (lang : Option String) (value : String) (span : Option Span) :
    Frame.toNode
      { kind := .code lang (String.ofList ((codeLines value.toList).flatMap (· ++ ['\n'])))
        span } =
      { kind := .code lang value, span } := by
  by_cases hempty : value = ""
  · rw [hempty]
    rfl
  · -- Each line brings a line feed, so there is one more than in the value.
    have hlines : codeLines value.toList = Text.lines value.toList := by
      rw [codeLines, if_neg]
      rwa [List.isEmpty_iff, String.toList_eq_nil_iff]
    rw [hlines, Text.flatMap_feed (Text.lines_ne_nil _), Text.unlines_lines, String.ofList_append,
      String.ofList_toList]
    exact toNode_code lang value span

/-- A language and a value come back from the block that they are written as. The block ends with
    the last line that is written, whatever stands behind it, and a builder that gets to see it
    makes one code block of it, with that language and that value. Only a line feed ends a line
    here, so a carriage return in the value is read as a character of it. -/
theorem code_reads_back {h : Handlers} (hcode : h.get? .code = none) (o : RenderOptions) {n : Node}
    {lang : Option String} {value : String} (hkind : n.kind = .code lang value)
    (hlang : ∀ word, lang = some word →
      word ≠ "" ∧ ∀ c ∈ word.toList, Text.isBlank c = false ∧ c ≠ '`') :
    ∃ out block, n.render h o = .ok out ∧
      (∀ behind, fencedBlock? (Text.lines out.toList ++ behind) = some (block, behind)) ∧
      ∀ source stream, stream.map Prod.fst = block.events →
        (Node.ofEvents source stream).unplaced =
          { kind := .root, children := [{ kind := .code lang value }] } := by
  set info := (lang.getD "").toList with hinfo
  set fence := List.replicate (fenceLength value.toList) '`' with hfence
  have hclear : ∀ c ∈ info, Text.isBlank c = false ∧ c ≠ '`' := by
    cases lang with
    | none => exact List.forall_mem_nil _
    | some word => exact (hlang word rfl).2
  have hticks : '`' ∉ info := fun hmem => (hclear _ hmem).2 rfl
  have hfeed : '\n' ∉ info := fun hmem => absurd (hclear _ hmem).1 (by decide)
  -- The word has no blank in it, so it is the whole of the language.
  have hsound : (Kind.code lang value).IsSound := by
    cases lang with
    | none => trivial
    | some word =>
        refine ⟨(hlang word rfl).1, ?_⟩
        rw [List.any_eq_false]
        exact fun c hc => Bool.eq_false_iff.mp ((hlang word rfl).2 c hc).1
  have hout : n.render h o = .ok (String.ofList (fence ++ info ++ '\n' ::
      ((if value.toList.isEmpty then [] else value.toList ++ ['\n']) ++ fence))) := by
    rw [Node.render_of_kind o hkind hcode rfl, Builtin.code, hkind]
    refine congrArg Except.ok (String.toList_inj.mp ?_)
    -- An empty value has no line at all, not even an empty one.
    by_cases hempty : value = ""
    · simp [hempty, Builtin.repeated, fenceLength, hinfo, hfence]
    · simp [hempty, Builtin.repeated, fenceLength, hinfo, hfence]
  refine ⟨_, ⟨info, codeLines value.toList⟩, hout, fun behind => ?_,
    fun source stream hstream => ?_⟩
  · rw [String.toList_ofList, lines_code hfeed]
    exact fencedBlock?_written hticks behind
  · rcases Builder.ofEvents_code hstream with ⟨span, htree⟩
    rw [htree, hinfo, String.ofList_toList, language?_word hsound, toNode_codeLines]
    rfl

/-- A value that holds a fence itself and ends with a line feed. -/
theorem code_reads_back_fence_inside :
    let n : Node := { kind := .code (some "md") "```\n" }
    let out := "````md\n```\n\n````"
    Handlers.empty.get? .code = none ∧
      (∀ word, some "md" = some word →
        word ≠ "" ∧ ∀ c ∈ word.toList, Text.isBlank c = false ∧ c ≠ '`') ∧
      ∃ block, n.render Handlers.empty {} = .ok out ∧
        (∀ behind, fencedBlock? (Text.lines out.toList ++ behind) = some (block, behind)) ∧
        ∀ source stream, stream.map Prod.fst = block.events →
          (Node.ofEvents source stream).unplaced = { kind := .root, children := [n] } := by
  intro n out
  have hword : ∀ word, some "md" = some word →
      word ≠ "" ∧ ∀ c ∈ word.toList, Text.isBlank c = false ∧ c ≠ '`' := by
    rintro word ⟨⟩
    simp [Text.isBlank]
  have hout : n.render Handlers.empty {} = .ok out := rfl
  rcases code_reads_back (h := Handlers.empty) (n := n) rfl {} rfl hword with
    ⟨out', block, hrender, hread, hbuild⟩
  rw [hout, Except.ok.injEq] at hrender
  subst hrender
  exact ⟨rfl, hword, block, hout, hread, hbuild⟩

end Anchormark
