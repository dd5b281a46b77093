import Anchormark.Proofs.Node.InlineRuns
import Anchormark.Proofs.Node.Rebuilding
import Anchormark.Proofs.Note.Bits
import Anchormark.Proofs.Text.Bytes
import Anchormark.Proofs.Text.Placement

/-!
# The Nodes of Running Text

The bits of a passage tell its signs: each text bit some characters, a line feed the end of a line,
and a link together with the text behind it an anchor, since that text begins with the block of the
anchor. The builder makes a node of every bit and merges neighbouring texts, so that in the end the
text behind a link reaches up to the next one.

What matters of a place in the source is only where a text begins, because a block is taken only if
it stands there literally. Merging keeps that: the bits follow each other in the source.

## Main definitions

* `Tells`: what the bits of a passage say.
* `Bit.node`: the node that is made of a bit.
* `Anchored`, `Shows`: the nodes of running text, before blocks are resolved.

## Theorems

* `tells_lineBits`: The bits of some lines tell their signs.
* `Tells.feeds`: The builder makes nodes of bits.
* `Tells.shows`: And merges them into the nodes of running text.
-/

namespace Anchormark.Markdown

/-- The bits stand in the text one behind the other, from index `p` on, and say these signs. -/
inductive Tells (text : List Char) : (p : Nat) → List Sign → List Bit → Prop
  | nil (p : Nat) : Tells text p [] []
  | text {p i : Nat} {cs rest : List Char} {signs : List Sign} {bs : List Bit} (hi : p ≤ i)
      (hne : cs ≠ []) (htext : text.drop i = cs ++ rest)
      (h : Tells text (i + cs.length) signs bs) :
      Tells text p (cs.map .char ++ signs) (.text i cs :: bs)
  | feed {p i : Nat} {rest : List Char} {signs : List Sign} {bs : List Bit} (hi : p ≤ i)
      (htext : text.drop i = '\n' :: rest) (h : Tells text (i + 1) signs bs) :
      Tells text p (.char '\n' :: signs) (.feed i :: bs)
  | link {p i : Nat} {id : String} {cs rest : List Char} {signs : List Sign} {bs : List Bit}
      (hi : p ≤ i) (htext : text.drop i = '[' :: ']' :: '(' :: ')' :: (idChars id ++ cs ++ rest))
      (h : Tells text (i + 4 + (idChars id ++ cs).length) signs bs) :
      Tells text p (.anchor id :: (cs.map .char ++ signs))
        (.link i :: .text (i + 4) (idChars id ++ cs) :: bs)

/-- The bits go on with the text `cs` in progress, which began at index `start`, and behind it they
    say these signs. -/
inductive Pending (text : List Char) (start : Nat) (cs : List Char) : List Sign → List Bit → Prop
  | intro {more rest : List Char} {signs : List Sign} {bs : List Bit}
      (htext : text.drop start = cs ++ more ++ rest)
      (h : Tells text (start + (cs ++ more).length) signs bs) :
      Pending text start cs (more.map .char ++ signs) (flushedBit start (cs ++ more) ++ bs)

section Tells

variable {text : List Char} {p q start : Nat} {cs rest : List Char} {signs : List Sign}
  {bs : List Bit}

theorem Tells.mono (h : Tells text q signs bs) (hp : p ≤ q) : Tells text p signs bs := by
  cases h with
  | nil => exact .nil p
  | text hi hne htext h => exact .text (hp.trans hi) hne htext h
  | feed hi htext h => exact .feed (hp.trans hi) htext h
  | link hi htext h => exact .link (hp.trans hi) htext h

namespace Pending

/-- The text in progress may end. -/
theorem ended (htext : text.drop start = cs ++ rest)
    (h : Tells text (start + cs.length) signs bs) :
    Pending text start cs signs (flushedBit start cs ++ bs) := by
  have hempty : cs ++ [] = cs := List.append_nil cs
  rw [← hempty] at htext h
  have hintro : Pending text start cs ([] ++ signs) (flushedBit start (cs ++ []) ++ bs) :=
    .intro htext h
  rwa [hempty] at hintro

/-- Or it goes on with a character. -/
theorem grow {c : Char} (h : Pending text start (cs ++ [c]) signs bs) :
    Pending text start cs (.char c :: signs) bs := by
  cases h with
  | @intro more rest signs bs htext h =>
      have hcons : cs ++ [c] ++ more = cs ++ c :: more := List.append_cons cs c more |>.symm
      rw [hcons] at htext h ⊢
      have hintro : Pending text start cs ((c :: more).map .char ++ signs)
          (flushedBit start (cs ++ c :: more) ++ bs) := .intro htext h
      exact hintro

/-- Either way it is a bit, unless it is empty. -/
theorem tells (h : Pending text start cs signs bs) (hp : p ≤ start) :
    Tells text p (cs.map .char ++ signs) bs := by
  cases h with
  | @intro more rest signs bs htext h =>
      rw [← List.append_assoc, ← List.map_append]
      generalize cs ++ more = ds at htext h
      cases ds with
      | nil => exact h.mono hp
      | cons d ds => exact .text hp (List.cons_ne_nil d ds) htext h

/-- The text behind a link begins with a block, so the two are an anchor. -/
theorem link {id : String} (htext : text.drop start = '[' :: ']' :: '(' :: ')' :: rest)
    (h : Pending text (start + 4) (idChars id) signs bs) :
    Tells text start (.anchor id :: signs) (.link start :: bs) := by
  cases h with
  | @intro more tail signs bs hbehind h =>
      rw [← List.drop_drop, htext] at hbehind
      have hrest : rest = idChars id ++ more ++ tail := hbehind
      rw [hrest] at htext
      exact .link (Nat.le_refl start) htext h

end Pending

/-- The bits of a line tell its signs, with text in progress before them. The induction is on the
    atoms; what is behind the line comes along, since the last text may go on there. -/
theorem pending_bits {as : List Atom} {tail : List Char}
    (htext : text.drop start = cs ++ (spell as ++ tail))
    (h : Tells text (start + cs.length + (spell as).length) signs bs) :
    Pending text start cs (as.map Atom.sign ++ signs) (bits start cs as ++ bs) := by
  induction as generalizing start cs with
  | nil => exact .ended htext h
  | cons a as ih =>
      have hbehind : text.drop (start + cs.length) = spell (a :: as) ++ tail := by
        rw [← List.drop_drop, htext, List.drop_left]
      have hlength : start + cs.length + (spell (a :: as)).length =
          start + cs.length + a.written.length + (spell as).length := by
        rw [spell_cons, List.length_append, Nat.add_assoc, Nat.add_assoc, Nat.add_assoc]
      rw [hlength] at h
      cases a with
      | bare c =>
          -- The text in progress goes on.
          refine .grow (ih ?_ ?_)
          · rw [htext, List.append_assoc]
            rfl
          · rw [List.length_append, ← Nat.add_assoc]
            exact h
      | escaped c =>
          have hslash : text.drop (start + cs.length + 1) = [c] ++ (spell as ++ tail) := by
            rw [← List.drop_drop, hbehind]
            rfl
          rw [bits, List.append_assoc]
          refine .ended htext ?_
          -- The backslash belongs to no bit. Only a backtick is a bit by itself.
          by_cases htick : c = '\x60'
          · have hrest : text.drop (start + cs.length + 2) = [] ++ (spell as ++ tail) := by
              rw [← List.drop_drop (i := 1), hslash]
              rfl
            rw [if_pos htick]
            have hone : [c] ≠ [] := List.cons_ne_nil c []
            exact .text (Nat.le_succ _) hone hslash ((ih hrest h).tells (Nat.le_refl _))
          · rw [if_neg htick]
            exact (ih hslash h).tells (Nat.le_succ _)
      | anchor id =>
          have hlink : text.drop (start + cs.length) =
              '[' :: ']' :: '(' :: ')' :: (idChars id ++ (spell as ++ tail)) := by
            rw [hbehind, spell_cons, List.append_assoc]
            rfl
          have hnext : text.drop (start + cs.length + 4) = idChars id ++ (spell as ++ tail) := by
            rw [← List.drop_drop, hlink]
            rfl
          rw [bits, List.append_assoc]
          -- The identifier is text, so it is in progress now, and more text may follow it.
          refine .ended htext (Pending.link hlink (ih hnext ?_))
          rw [Nat.add_assoc _ 4, Nat.add_comm 4]
          exact h

/-- The bits of several lines tell their signs. -/
theorem tells_lineBits (margin : Nat) {lines : List (List Atom)} {i : Nat} {tail : List Char}
    (htext : text.drop i = spellLines margin lines ++ tail) :
    Tells text i (Sign.joined (lines.map (List.map Atom.sign))) (lineBits margin i lines) := by
  induction lines generalizing i with
  | nil => exact .nil i
  | cons as rest ih =>
      cases rest with
      | nil =>
          have hline : text.drop i = [] ++ (spell as ++ tail) := htext
          have h := (pending_bits hline (.nil _)).tells (Nat.le_refl i)
          rwa [List.append_nil, List.append_nil] at h
      | cons next rest =>
          rcases drop_spellLines htext with ⟨hline, hnext⟩
          have hfeed : text.drop (i + (spell as).length) = '\n' :: (List.replicate margin ' ' ++
              (spellLines margin (next :: rest) ++ tail)) := by
            rw [← List.drop_drop, hline, List.drop_left]
          have hbelow := Tells.feed (Nat.le_refl _) hfeed
            ((ih hnext).mono (Nat.le_add_right _ margin))
          have hfirst : text.drop i = [] ++ (spell as ++ '\n' :: (List.replicate margin ' ' ++
              (spellLines margin (next :: rest) ++ tail))) := hline
          exact (pending_bits hfirst hbelow).tells (Nat.le_refl i)

end Tells

/-- A sign is what its atom stands for. -/
theorem map_sign_atoms (before : Option Char) (signs : List Sign) :
    (atoms before signs).map Atom.sign = signs := by
  induction signs generalizing before with
  | nil => rfl
  | cons s signs ih =>
      cases s with
      | char c =>
          have hsign : (ofChar before c (Sign.lead signs).head?).sign = .char c := by
            unfold ofChar
            split <;> rfl
          rw [atoms, List.map_cons, hsign, ih]
      | anchor id => rw [atoms, List.map_cons, ih, Atom.sign]

/-- A backslash does not change what a character stands for. -/
theorem map_sign_escapeNumber (as : List Atom) :
    (escapeNumber as).map Atom.sign = as.map Atom.sign := by
  induction as with
  | nil => rfl
  | cons a as ih =>
      cases a with
      | bare c =>
          unfold escapeNumber
          split
          · rw [List.map_cons, ih, List.map_cons]
          · split <;> rfl
      | escaped c => rfl
      | anchor id => rfl

theorem map_sign_lineAtoms (line : List Sign) : (lineAtoms line).map Atom.sign = line := by
  have hstart (as : List Atom) : (escapeStart as).map Atom.sign = as.map Atom.sign := by
    unfold escapeStart
    split
    · next c rest =>
        split
        · rfl
        · split
          · rfl
          · split
            · rw [List.map_cons, map_sign_escapeNumber, List.map_cons]
            · rfl
    · rfl
  rw [lineAtoms, hstart, map_sign_atoms]

/-- The byte at which the character with index `i` begins. -/
def byteAt (text : List Char) (i : Nat) : Nat :=
  Text.byteLength (text.take i)

theorem byteAt_add (text : List Char) (i n : Nat) :
    byteAt text (i + n) = byteAt text i + Text.byteLength ((text.drop i).take n) := by
  rw [byteAt, byteAt, List.take_add, Text.byteLength_append]

theorem byteAt_mono (text : List Char) {i j : Nat} (h : i ≤ j) : byteAt text i ≤ byteAt text j := by
  obtain ⟨n, rfl⟩ := Nat.exists_eq_add_of_le h
  rw [byteAt_add]
  exact Nat.le_add_right _ _

/-- The offsets of a text say where its characters begin. -/
theorem getElem?_byteOffsets {text : List Char} {i : Nat} (h : i ≤ text.length) (n : Nat) :
    (byteOffsets n text)[i]? = some (n + byteAt text i) := by
  induction text generalizing i n with
  | nil =>
      rw [List.length_nil, Nat.le_zero] at h
      subst h
      rfl
  | cons c rest ih =>
      cases i with
      | zero => rfl
      | succ i =>
          rw [byteOffsets, List.getElem?_cons_succ, ih (Nat.le_of_succ_le_succ h), byteAt, byteAt,
            List.take_succ_cons, Text.byteLength_cons, Nat.add_assoc]

/-- The span between two characters. -/
def spanAt (text : List Char) (i j : Nat) : Span :=
  ⟨byteAt text i, byteAt text j⟩

/-- An event with its place in bytes. -/
def placed (source : String) (e : Located) : Event × Span :=
  let offset (i : Nat) : Nat := ((byteOffsets 0 source.toList).toArray)[i]?.getD 0
  (e.1, ⟨offset e.2.1, offset e.2.2⟩)

theorem placed_eq {source : String} {event : Event} {i j : Nat} (hi : i ≤ source.toList.length)
    (hj : j ≤ source.toList.length) :
    placed source (event, i, j) = (event, spanAt source.toList i j) := by
  rw [placed]
  simp only [List.getElem?_toArray, getElem?_byteOffsets hi, getElem?_byteOffsets hj, Nat.zero_add,
    Option.getD_some]
  rfl

/-- The events of a text are those of its blocks, with their places. -/
theorem events_eq (options : ParseOptions) (source : String) :
    events options source =
      (BlockContext.blocksEvents ⟨⟨source.toList, options⟩,
        (Document.blocks ⟨source.toList, options⟩).2⟩ [] false
        (Document.blocks ⟨source.toList, options⟩).1).map (placed source) := rfl

/-- The node that the builder makes of a bit. -/
def Bit.node (text : List Char) : Bit → Node
  | .text start cs =>
    { kind := .text (String.ofList cs), span := spanAt text start (start + cs.length) }
  | .feed start => { kind := .text "\n", span := spanAt text start (start + 1) }
  | .link start => { kind := .link "" none, span := spanAt text start (start + 4) }

/-- Outside code the builder appends these nodes when it takes these events. -/
def Feeds (source : String) (events : List (Event × Span)) (ns : List Node) : Prop :=
  ∀ b : Builder, b.source = source → b.top.isCode = false →
    b.feed events = b.mapTop fun f => ns.foldl (Frame.take true) f

namespace Feeds

variable {source : String}

theorem nil (source : String) : Feeds source [] [] :=
  fun _ _ _ => (Builder.mapTop_self rfl).symm

theorem cons {events others : List (Event × Span)} {n : Node} {ns : List Node}
    (h : Feeds source events [n]) (hmore : Feeds source others ns) :
    Feeds source (events ++ others) (n :: ns) := by
  intro b hsource hcode
  have hcode' : (b.mapTop (Frame.take true · n)).top.isCode = false := by
    rw [Builder.top_mapTop]
    exact (Frame.isCode_takeAll true b.top [n]).trans hcode
  have hfirst : b.feed events = b.mapTop (Frame.take true · n) := h b hsource hcode
  rw [Builder.feed_append, hfirst,
    hmore _ ((Builder.source_mapTop b _).trans hsource) hcode', Builder.mapTop_mapTop]
  rfl

/-- Text becomes a node, and so does a line feed. -/
theorem text (value : String) (span : Span) :
    Feeds source [(.text value, span)] [{ kind := .text value, span }] :=
  fun _ _ hcode => Builder.addText_of_isCode hcode value span

theorem softBreak (span : Span) :
    Feeds source [(.softBreak, span)] [{ kind := .text "\n", span }] :=
  fun _ _ hcode => Builder.addText_of_isCode hcode "\n" span

/-- A link without text, destination and title shows no title. -/
theorem link {i : Nat} {rest : List Char}
    (htext : source.toList.drop i = '[' :: ']' :: '(' :: ')' :: rest) (stop : Span) :
    Feeds source [(.start (.link .inline "" ""), spanAt source.toList i (i + 4)), (.close, stop)]
      [{ kind := .link "" none, span := spanAt source.toList i (i + 4) }] := by
  -- The title is looked for in the source, and there the link has nothing but its brackets.
  intro b hsource _
  have hslice : Text.sliceChars? (byteAt source.toList i) (byteAt source.toList (i + 4))
      source.toList = some ['[', ']', '(', ')'] := by
    have happend := Text.sliceChars?_append (source.toList.take i) ['[', ']', '(', ')'] rest
    have hsplit : source.toList.take i ++ (['[', ']', '(', ')'] ++ rest) = source.toList := by
      refine Eq.trans ?_ (List.take_append_drop i source.toList)
      rw [htext]
      rfl
    have hfront : source.toList.take (i + 4) = source.toList.take i ++ ['[', ']', '(', ')'] := by
      rw [List.take_add, htext]
      rfl
    rwa [hsplit, ← hfront] at happend
  have htitle : b.linkTitle .inline "" (spanAt source.toList i (i + 4)) = none := by
    refine linkTitle_getD (Option.some_ne_none "").symm fun _ _ => ?_
    rw [hsource, Span.showsEmptyTitle, Span.slice?, Text.slice?]
    simp only [spanAt, hslice, Option.map_some, String.toList_ofList]
    rfl
  set span := spanAt source.toList i (i + 4)
  have hframe : b.frameOf (.link .inline "" "") span =
      { kind := .link "" none, span := some span, inline := true } := by
    rw [Builder.frameOf, htitle]
  have hopen : b.openTag (.link .inline "" "") span =
      (b.openTag (.link .inline "" "") span).mapTop fun _ =>
        { kind := .link "" none, span := some span, inline := true } := by
    refine (Builder.mapTop_self ?_).symm
    rw [Builder.top_openTag, hframe]
  have hclose : b.feed [(.start (.link .inline "" ""), span), (.close, stop)] =
      (b.openTag (.link .inline "" "") span).closeTop := rfl
  rw [hclose, hopen, Builder.closeTop_openTag b (.link .inline "" "") span
    (f := { kind := .link "" none, span := some span, inline := true }) rfl]
  rfl

end Feeds

/-- The builder makes nodes of bits. -/
theorem Tells.feeds {source : String} {p : Nat} {signs : List Sign} {bs : List Bit}
    (h : Tells source.toList p signs bs) :
    Feeds source ((bs.flatMap Bit.events).map (placed source))
      (bs.map (Bit.node source.toList)) := by
  -- Every bit has a character at least, so its span is what the source holds there.
  have hplace (event : Event) {i : Nat} {cs rest : List Char} (hne : cs ≠ [])
      (htext : source.toList.drop i = cs ++ rest) :
      placed source (event, i, i + cs.length) =
        (event, spanAt source.toList i (i + cs.length)) := by
    have hpos := List.length_pos_iff.mpr hne
    have hlength := congrArg List.length htext
    rw [List.length_drop, List.length_append] at hlength
    exact placed_eq (by omega) (by omega)
  induction h with
  | nil => exact .nil source
  | text hi hne htext h ih =>
      rw [List.flatMap_cons, List.map_append, List.map_cons]
      refine Feeds.cons ?_ ih
      rw [Bit.events, List.map_singleton, hplace _ hne htext]
      exact .text _ _
  | @feed p i rest signs bs hi htext h ih =>
      rw [List.flatMap_cons, List.map_append, List.map_cons]
      refine Feeds.cons ?_ ih
      have hspan : placed source (.softBreak, i, i + 1) =
          (.softBreak, spanAt source.toList i (i + 1)) :=
        hplace .softBreak (List.cons_ne_nil '\n' []) htext
      rw [Bit.events, List.map_singleton, hspan]
      exact .softBreak _
  | @link p i id cs rest signs bs hi htext h ih =>
      have hbehind : source.toList.drop (i + 4) = idChars id ++ cs ++ rest := by
        rw [← List.drop_drop, htext]
        rfl
      have hspan (event : Event) : placed source (event, i, i + 4) =
          (event, spanAt source.toList i (i + 4)) :=
        hplace event (List.cons_ne_nil '[' [']', '(', ')']) htext
      rw [List.flatMap_cons, List.flatMap_cons, List.map_append, List.map_append, List.map_cons,
        List.map_cons]
      refine Feeds.cons ?_ (Feeds.cons ?_ ih)
      · have hevents : (Bit.link i).events.map (placed source) =
            [(.start (.link .inline "" ""), spanAt source.toList i (i + 4)),
              (.close, spanAt source.toList i (i + 4))] :=
          congrArg₂ (fun a b => [a, b]) (hspan _) (hspan _)
        rw [hevents]
        exact .link htext _
      · have hne : idChars id ++ cs ≠ [] := List.cons_ne_nil _ _
        rw [Bit.events, List.map_singleton, hplace _ hne hbehind]
        exact .text _ _

/-- The texts behind anchors, as the builder makes them: each begins with the block of the anchor,
    which stands in the source. -/
inductive Anchored (text : List Char) : List (String × List Char) → List Node → Prop
  | nil : Anchored text [] []
  | cons {id : String} {cs : List Char} {ms : List (String × List Char)} {ns : List Node}
      {here span : Span} (hstands : StandsAt text span.start (idChars id))
      (h : Anchored text ms ns) :
      Anchored text ((id, cs) :: ms)
        ({ kind := .link "" none, span := here } ::
          { kind := .text (String.ofList (idChars id ++ cs)), span := span } :: ns)

/-- The nodes of running text, as the builder makes them. -/
inductive Shows (text : List Char) (signs : List Sign) : List Node → Prop
  | anchors {ns : List Node} (hlead : Sign.lead signs = [])
      (h : Anchored text (Sign.marked signs) ns) : Shows text signs ns
  | lead {span : Span} {ns : List Node} (h : Anchored text (Sign.marked signs) ns) :
      Shows text signs ({ kind := .text (String.ofList (Sign.lead signs)), span := span } :: ns)

/-- Characters belong to the text before the next anchor. -/
theorem lead_map_char (cs : List Char) (signs : List Sign) :
    Sign.lead (cs.map .char ++ signs) = cs ++ Sign.lead signs ∧
      Sign.marked (cs.map .char ++ signs) = Sign.marked signs := by
  induction cs with
  | nil => exact ⟨rfl, rfl⟩
  | cons c cs ih => exact ⟨congrArg (c :: ·) ih.1, ih.2⟩

section Merge

variable {text : List Char} {p : Nat} {signs : List Sign} {bs : List Bit}

/-- A text grows by what is behind it, and still begins where it did. -/
theorem appendMerged_text (front : List Node) (value more : String) {span here : Span}
    (hle : span.start ≤ here.start) :
    ∃ span' : Span, span'.start = span.start ∧
      appendMerged (front ++ [{ kind := .text value, span := span }])
          { kind := .text more, span := here } =
        front ++ [{ kind := .text (value ++ more), span := span' }] := by
  refine ⟨span.cover here, Nat.min_eq_left hle, ?_⟩
  rw [appendMerged_concat, appendMerged_singleton, Node.mergeText?_of_kind rfl rfl]
  rfl

/-- The nodes make the text before them grow up to the first anchor, and the others are for the
    anchors. -/
def Grows (text : List Char) (signs : List Sign) (ns : List Node) (p : Nat) : Prop :=
  ∀ (front : List Node) (cs : List Char) (span : Span), span.start ≤ byteAt text p →
    ∃ (span' : Span) (others : List Node), span'.start = span.start ∧
      Anchored text (Sign.marked signs) others ∧
      ns.foldl appendMerged (front ++ [{ kind := .text (String.ofList cs), span := span }]) =
        front ++ { kind := .text (String.ofList (cs ++ Sign.lead signs)), span := span' } :: others

/-- Another text in front changes nothing about that. -/
theorem Grows.behind {ns : List Node} {i : Nat} {ds : List Char}
    (h : Grows text signs ns (i + ds.length)) (hp : p ≤ i) :
    Grows text (ds.map .char ++ signs)
      ({ kind := .text (String.ofList ds), span := spanAt text i (i + ds.length) } :: ns) p := by
  intro front cs span hspan
  have hle : span.start ≤ byteAt text i := hspan.trans (byteAt_mono text hp)
  set here := spanAt text i (i + ds.length) with hhere
  have hstarts : span.start ≤ here.start := hle
  rcases appendMerged_text front (String.ofList cs) (String.ofList ds) hstarts with
    ⟨between, hstart, hmerge⟩
  rw [← String.ofList_append] at hmerge
  rcases h front (cs ++ ds) between
    (hstart ▸ hle.trans (byteAt_mono text (Nat.le_add_right i _))) with
    ⟨span', others, hstart', hanchored, hfold⟩
  refine ⟨span', others, hstart'.trans hstart, ?_, ?_⟩
  · rwa [(lead_map_char ds signs).2]
  · rw [List.foldl_cons, hmerge, hfold, (lead_map_char ds signs).1, List.append_assoc]

/-- A link and the text behind it are for an anchor, whatever is in front of them. -/
theorem Grows.anchor {ns : List Node} {i : Nat} {id : String} {ds rest : List Char}
    (h : Grows text signs ns (i + 4 + (idChars id ++ ds).length))
    (htext : text.drop i = '[' :: ']' :: '(' :: ')' :: (idChars id ++ ds ++ rest))
    (front : List Node) :
    ∃ others, Anchored text ((id, ds ++ Sign.lead signs) :: Sign.marked signs) others ∧
      (Bit.node text (.link i) :: Bit.node text (.text (i + 4) (idChars id ++ ds)) :: ns).foldl
        appendMerged front = front ++ others := by
  -- A parenthesis stands before the block, so the block is not escaped.
  have hstands : StandsAt text (byteAt text (i + 4)) (idChars id) := by
    refine ⟨text.take (i + 4), ds ++ rest, ?_, rfl, ?_⟩
    · refine (List.take_append_drop (i + 4) text).symm.trans ?_
      rw [← List.drop_drop, htext, ← List.append_assoc (idChars id)]
      rfl
    · have hsplit : text.take (i + 4) = text.take i ++ ['[', ']', '('] ++ [')'] := by
        rw [List.take_add, htext]
        exact (List.append_assoc _ ['[', ']', '('] [')']).symm
      rw [hsplit]
      exact Text.unescaped_append_singleton _ (by decide)
  set l := Bit.node text (.link i)
  -- A link is no text, so neither it nor the text behind it merges with what is before.
  have hlink : appendMerged front l = front ++ [l] :=
    appendMerged_of_apart fun _ _ htexts => NodeType.noConfusion htexts.2
  have hbehind (u : Node) : appendMerged (front ++ [l]) u = front ++ [l] ++ [u] := by
    refine appendMerged_of_apart fun last hlast htexts => ?_
    rw [List.getLast?_concat, Option.mem_some_iff] at hlast
    subst hlast
    exact NodeType.noConfusion htexts.1
  rcases h (front ++ [l]) (idChars id ++ ds) (spanAt text (i + 4) (i + 4 + (idChars id ++ ds).length))
    (byteAt_mono text (Nat.le_add_right _ _)) with ⟨span, others, hstart, hanchored, hfold⟩
  rw [List.append_assoc (idChars id)] at hfold
  have hstands' : StandsAt text span.start (idChars id) := by
    rw [hstart]
    exact hstands
  have hothers : Anchored text ((id, ds ++ Sign.lead signs) :: Sign.marked signs)
      (l :: { kind := .text (String.ofList (idChars id ++ (ds ++ Sign.lead signs))), span := span } ::
        others) := .cons hstands' hanchored
  refine ⟨_, hothers, ?_⟩
  rw [List.foldl_cons, hlink, List.foldl_cons, hbehind]
  refine hfold.trans ?_
  rw [List.append_assoc]
  rfl

/-- The nodes behind a text make it grow up to the first anchor. -/
theorem Tells.grows (h : Tells text p signs bs) :
    Grows text signs (bs.map (Bit.node text)) p := by
  induction h with
  | nil =>
      -- Nothing is behind the text, so it does not grow.
      intro front cs span _
      have hnone : Sign.lead [] = [] := rfl
      refine ⟨span, [], rfl, .nil, ?_⟩
      rw [hnone, List.append_nil]
      rfl
  | text hi hne htext h ih => exact Grows.behind ih hi
  | @feed p i rest signs bs hi htext h ih =>
      have hfeed : Grows text signs (bs.map (Bit.node text)) (i + ['\n'].length) := ih
      exact hfeed.behind hi
  | @link p i id ds rest signs bs hi htext h ih =>
      intro front cs span _
      rcases ih.anchor htext (front ++ [{ kind := .text (String.ofList cs), span := span }]) with
        ⟨others, hanchored, hfold⟩
      refine ⟨span, others, rfl, ?_, ?_⟩
      · rw [Sign.marked_anchor, (lead_map_char ds signs).1, (lead_map_char ds signs).2]
        exact hanchored
      · refine hfold.trans ?_
        rw [Sign.lead_anchor, List.append_nil, List.append_assoc]
        rfl

/-- The bits of a passage become its nodes. -/
theorem Tells.shows (h : Tells text p signs bs) :
    Shows text signs ((bs.map (Bit.node text)).foldl appendMerged []) := by
  -- A text comes first, and it grows up to the first anchor.
  have hfirst {i : Nat} {ds : List Char} {signs : List Sign} {ns : List Node}
      (hns : Grows text signs ns (i + ds.length)) :
      Shows text (ds.map .char ++ signs)
        ((({ kind := .text (String.ofList ds), span := spanAt text i (i + ds.length) } : Node) ::
          ns).foldl appendMerged []) := by
    rcases hns [] ds (spanAt text i (i + ds.length)) (byteAt_mono text (Nat.le_add_right i _)) with
      ⟨span, others, -, hanchored, hfold⟩
    rw [← (lead_map_char ds signs).2] at hanchored
    rw [List.nil_append, ← (lead_map_char ds signs).1] at hfold
    exact hfold ▸ .lead hanchored
  cases h with
  | nil => exact .anchors rfl .nil
  | text hi hne htext h => exact hfirst h.grows
  | @feed _ i rest signs bs hi htext h =>
      have hfeed : Grows text signs (bs.map (Bit.node text)) (i + ['\n'].length) := h.grows
      exact hfirst hfeed
  | @link _ i id ds rest signs bs hi htext h =>
      rcases h.grows.anchor htext [] with ⟨others, hanchored, hfold⟩
      rw [List.map_cons, List.map_cons, hfold]
      refine .anchors rfl ?_
      rw [Sign.marked_anchor, (lead_map_char ds signs).1, (lead_map_char ds signs).2]
      exact hanchored

end Merge

end Anchormark.Markdown
