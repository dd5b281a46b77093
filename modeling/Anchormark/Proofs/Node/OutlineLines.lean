import Anchormark.Node.Outline
import Anchormark.Proofs.Anchor.Placing
import Anchormark.Proofs.Pipeline.Processing
import Anchormark.Proofs.Attribute.Language
import Anchormark.Proofs.Node.Depths
import Anchormark.Proofs.Text.Lines

/-!
# The Lines of an Outline

An outline has one line for each node, and the lines are those of the walk. Two things could break
that. A value with a line feed in it would go on in the next line, but values are quoted, and quotes
escape every line feed. An identifier is shown as it is, so it must not hold one; the identifiers
that a pipeline attaches are words and do not.

A line begins with spaces, and then come letters: the name of a type. No name goes on where another
one ends, because behind a name stands no letter. So a line shows the depth and the type of its
node, whatever else is in it, and the outline shows both for all nodes in walk order. These
determine the shape of the tree.

## Main definitions

* `Node.HintsOnOneLine`: No identifier in the tree holds a line feed.
* `ShowsNode`: A line that begins with the depth and the type of a node.

## Theorems

* `Text.feed_not_mem_quoted`: A quoted string is on one line.
* `ShowsNode.unique`: A line shows one depth and one type.
* `Node.lines_outline`: The lines of an outline.
* `Pipeline.hintsOnOneLine_run`: The identifiers that a pipeline attaches.
* `outline_shows_shape`: What an outline shows of a tree.
-/

namespace Anchormark

namespace Text

/-- No number is written with a line feed. -/
theorem feed_not_mem_toDigits {base : Nat} (hbase : 1 < base) (n : Nat) :
    '\n' ∉ Nat.toDigits base n := by
  induction n using Nat.strong_induction_on with
  | _ n ih =>
      rw [Nat.toDigits_eq_if hbase]
      split
      · rw [List.mem_singleton]
        exact (Nat.digitChar_ne '\n' (by decide)).symm
      · next hn =>
          have hlt : n / base < n := Nat.div_lt_self (by omega) hbase
          rw [List.mem_append, List.mem_singleton, not_or]
          exact ⟨ih _ hlt, (Nat.digitChar_ne '\n' (by decide)).symm⟩

theorem feed_not_mem_toString (n : Nat) : '\n' ∉ (toString n).toList := by
  rw [Nat.toString_eq_repr, Nat.toList_repr]
  exact feed_not_mem_toDigits (by decide) n

/-- A character between double quotes is not written with a line feed. -/
theorem feed_not_mem_escaped (c : Char) : '\n' ∉ escaped '"' c := by
  unfold escaped
  split
  · decide
  split
  · decide
  split
  · decide
  split
  · decide
  · next hfeed _ =>
      split
      · rw [List.mem_cons, List.mem_singleton, not_or]
        exact ⟨by decide, Ne.symm hfeed⟩
      split
      · rw [List.mem_singleton]
        exact Ne.symm hfeed
      · rw [List.mem_append, List.mem_append, hexDigits, not_or, not_or]
        exact ⟨⟨by decide, feed_not_mem_toDigits (by decide) _⟩, by decide⟩

/-- A quoted string is on one line. -/
theorem feed_not_mem_quoted (s : String) : '\n' ∉ (quoted s).toList := by
  rw [quoted, String.toList_ofList, List.mem_append, List.mem_append, List.mem_flatMap, not_or,
    not_or]
  refine ⟨⟨by decide, ?_⟩, by decide⟩
  rintro ⟨c, -, hc⟩
  exact feed_not_mem_escaped c hc

end Text

/-- The line begins with two spaces for each level and the name of the type. What follows is
    separated by a space or begins with the span. -/
def ShowsNode (depth : Nat) (type : NodeType) (line : List Char) : Prop :=
  ∃ behind, line = List.replicate (2 * depth) ' ' ++ type.label.toList ++ behind ∧
    ∀ c, behind.head? = some c → c = ' ' ∨ c = '@'

namespace NodeType

/-- Names of types consist of letters. -/
theorem isAlpha_label (type : NodeType) : ∀ c ∈ type.label.toList, c.isAlpha = true := by
  rw [← List.all_eq_true]
  cases type <;> rfl

theorem label_ne_nil (type : NodeType) : type.label.toList ≠ [] := by
  rw [← List.isEmpty_eq_false_iff]
  cases type <;> rfl

/-- No two types have the same name. -/
theorem label_injective {type type' : NodeType} (h : type.label = type'.label) : type = type' := by
  have hfind (u : NodeType) : all.find? (fun v => v.label == u.label) = some u := by
    cases u <;> rfl
  have htype := hfind type
  rw [h, hfind type'] at htype
  exact (Option.some.inj htype).symm

end NodeType

/-- A line shows one depth and one type. The spaces end at the first letter, and the letters end
    where the name does. -/
theorem ShowsNode.unique {depth depth' : Nat} {type type' : NodeType} {line : List Char}
    (h : ShowsNode depth type line) (h' : ShowsNode depth' type' line) :
    depth = depth' ∧ type = type' := by
  -- What the line is split into does not depend on the depth and the type.
  have hread {depth : Nat} {type : NodeType} (h : ShowsNode depth type line) :
      line.takeWhile (· = ' ') = List.replicate (2 * depth) ' ' ∧
        (line.dropWhile (· = ' ')).takeWhile Char.isAlpha = type.label.toList := by
    rcases h with ⟨behind, hline, hbehind⟩
    have hspaces : line.takeWhile (· = ' ') = List.replicate (2 * depth) ' ' ∧
        line.dropWhile (· = ' ') = type.label.toList ++ behind := by
      refine span_eq_iff.mpr ⟨by rw [hline, List.append_assoc], fun c hc => ?_, fun c hc => ?_⟩
      · exact decide_eq_true (List.eq_of_mem_replicate hc)
      · rcases List.exists_cons_of_ne_nil type.label_ne_nil with ⟨d, rest, hlabel⟩
        have hletter := type.isAlpha_label d (hlabel ▸ List.mem_cons_self)
        rw [hlabel, List.cons_append, List.head?_cons, Option.some.injEq] at hc
        refine decide_eq_false fun hspace => ?_
        rw [hc, hspace] at hletter
        exact absurd hletter (by decide)
    refine ⟨hspaces.1, ?_⟩
    rw [hspaces.2]
    refine (span_eq_iff.mpr ⟨rfl, type.isAlpha_label, fun c hc => ?_⟩).1
    rcases hbehind c hc with rfl | rfl <;> decide
  have hdepth := (hread h).1.symm.trans (hread h').1
  have hlabel := (hread h).2.symm.trans (hread h').2
  have hlength := congrArg List.length hdepth
  rw [List.length_replicate, List.length_replicate] at hlength
  exact ⟨by omega, NodeType.label_injective (String.toList_inj.mp hlabel)⟩

/-- The text is on one line and begins with a space or the sign in front of a span. -/
def IsMarked (s : String) : Prop :=
  ∃ c rest, s.toList = c :: rest ∧ (c = ' ' ∨ c = '@') ∧ '\n' ∉ rest

/-- A part of a line behind the name of the type: nothing, or a marked text. -/
def IsPart (s : String) : Prop :=
  s = "" ∨ IsMarked s

theorem IsMarked.append {s t : String} (hs : IsMarked s) (ht : '\n' ∉ t.toList) :
    IsMarked (s ++ t) := by
  rcases hs with ⟨c, rest, hs, hc, hrest⟩
  refine ⟨c, rest ++ t.toList, ?_, hc, ?_⟩
  · rw [String.toList_append, hs, List.cons_append]
  · rw [List.mem_append, not_or]
    exact ⟨hrest, ht⟩

theorem IsPart.feed_not_mem {s : String} (h : IsPart s) : '\n' ∉ s.toList := by
  rcases h with rfl | ⟨c, rest, hs, hc, hrest⟩
  · decide
  · rw [hs, List.mem_cons, not_or]
    refine ⟨?_, hrest⟩
    rcases hc with rfl | rfl <;> decide

theorem IsPart.append {s t : String} (hs : IsPart s) (ht : IsPart t) : IsPart (s ++ t) := by
  rcases hs with rfl | hs
  · rwa [String.empty_append]
  · exact Or.inr (hs.append ht.feed_not_mem)

/-- A literal that begins with a mark, and anything on one line behind it. -/
theorem isPart_append {s t : String} {c : Char} {rest : List Char} (hs : s.toList = c :: rest)
    (hc : c = ' ' ∨ c = '@') (hrest : '\n' ∉ rest) (ht : '\n' ∉ t.toList) : IsPart (s ++ t) :=
  Or.inr (IsMarked.append ⟨c, rest, hs, hc, hrest⟩ ht)

/-- The data of a kind is a part of a line. -/
theorem Kind.isPart_outlineData (kind : Kind) : IsPart kind.outlineData := by
  have hbool (b : Bool) : '\n' ∉ (toString b).toList := by cases b <;> decide
  -- Quoting leaves no line feed in a text, and numbers and truth values have none.
  have hquoted (s : String) : IsPart (" " ++ Text.quoted s) :=
    isPart_append rfl (Or.inl rfl) (by decide) (Text.feed_not_mem_quoted s)
  have htarget (url : String) (title : Option String) : IsPart
      (" url=" ++ Text.quoted url ++ (title.map fun t => " title=" ++ Text.quoted t).getD "") := by
    refine (isPart_append rfl (Or.inl rfl) (by decide) (Text.feed_not_mem_quoted url)).append ?_
    cases title with
    | none => exact Or.inl rfl
    | some t => exact isPart_append rfl (Or.inl rfl) (by decide) (Text.feed_not_mem_quoted t)
  cases kind with
  | heading depth =>
      exact isPart_append rfl (Or.inl rfl) (by decide) (Text.feed_not_mem_toString depth)
  | list ordered start spread =>
      refine Or.inr (IsMarked.append (IsMarked.append (IsMarked.append
        ⟨_, _, rfl, Or.inl rfl, by decide⟩ (hbool ordered)) (by decide)) (hbool spread))
  | listItem spread checked =>
      rcases checked with _ | checked
      · exact Or.inl rfl
      · exact isPart_append rfl (Or.inl rfl) (by decide) (hbool checked)
  | text value => exact hquoted value
  | inlineCode value => exact hquoted value
  | html value => exact hquoted value
  | code lang value => exact hquoted value
  | link url title => exact htarget url title
  | image url title alt => exact htarget url title
  | anchor a => exact hquoted a.id
  | _ => exact Or.inl rfl

namespace Node

/-- No identifier in the tree holds a line feed. -/
def HintsOnOneLine (n : Node) : Prop :=
  ∀ m ∈ n.walk, ∀ id, m.hint = some id → '\n' ∉ id.toList

/-- What stands behind the name of the type is a part of the line, if the identifier is on one
    line. -/
theorem exists_outlineLine {n : Node} (depth : Nat) (h : ∀ id, n.hint = some id → '\n' ∉ id.toList) :
    ∃ line, (outlineLine depth n).toList = line ++ ['\n'] ∧ '\n' ∉ line ∧
      ShowsNode depth n.type line := by
  -- The three parts behind the name are marked off by a space or an at sign, or they are empty.
  have hhint : IsPart ((n.hint.map fun id => " \x7b#" ++ id ++ "\x7d").getD "") := by
    cases hid : n.hint with
    | none => exact Or.inl rfl
    | some id =>
        refine Or.inr (IsMarked.append (IsMarked.append ⟨_, _, rfl, Or.inl rfl, by decide⟩ ?_) ?_)
        · exact h id hid
        · decide
  have hspan : IsPart ((n.span.map fun s => "@" ++ toString s.start ++ ".." ++ toString s.stop).getD
      "") := by
    cases n.span with
    | none => exact Or.inl rfl
    | some s =>
        refine Or.inr (IsMarked.append (IsMarked.append (IsMarked.append
          ⟨_, _, rfl, Or.inr rfl, by decide⟩ ?_) (by decide)) ?_)
        · exact Text.feed_not_mem_toString s.start
        · exact Text.feed_not_mem_toString s.stop
  have hpart := (n.kind.isPart_outlineData.append hhint).append hspan
  refine ⟨List.replicate (2 * depth) ' ' ++ n.type.label.toList ++
    (n.kind.outlineData ++ (n.hint.map fun id => " \x7b#" ++ id ++ "\x7d").getD "" ++
      (n.span.map fun s => "@" ++ toString s.start ++ ".." ++ toString s.stop).getD "").toList,
    ?_, ?_, _, rfl, ?_⟩
  · simp only [outlineLine, String.toList_append, String.toList_ofList, List.append_assoc]
    rfl
  · rw [List.mem_append, List.mem_append, not_or, not_or]
    refine ⟨⟨fun hfeed => ?_, fun hfeed => ?_⟩, hpart.feed_not_mem⟩
    · exact absurd (List.eq_of_mem_replicate hfeed) (by decide)
    · exact absurd (n.type.isAlpha_label _ hfeed) (by decide)
  · intro c hc
    rcases hpart with hempty | ⟨d, rest, hs, hd, -⟩
    · rw [hempty] at hc
      cases hc
    · rw [hs, List.head?_cons, Option.some.injEq] at hc
      exact hc ▸ hd

/-- The outlines of several trees are what each of them has. -/
theorem outlinesAt_eq (depth : Nat) (cs : List Node) :
    (outlinesAt depth cs).toList = cs.flatMap fun c => (outlineAt depth c).toList := by
  induction cs with
  | nil => rfl
  | cons c cs ih => rw [outlinesAt, String.toList_append, ih, List.flatMap_cons]

/-- The outline of a tree has the lines of the nodes of its walk. -/
theorem outlineAt_eq (depth : Nat) (n : Node) : (n.outlineAt depth).toList =
    (n.walkFrom depth).flatMap fun entry => (outlineLine entry.1 entry.2).toList := by
  induction n using induct generalizing depth with
  | h n ih =>
      have hroot : (n.outlineAt depth).toList =
          (outlineLine depth n).toList ++ (outlinesAt (depth + 1) n.children).toList := by
        cases n
        rw [outlineAt, String.toList_append]
      rw [hroot, outlinesAt_eq, walkFrom_eq, List.flatMap_cons, List.flatMap_assoc]
      congr 1
      exact List.flatMap_congr fun c hc => ih c hc (depth + 1)

/-- The lines of an outline are those of the nodes of the walk, and each ends with a line feed. -/
theorem lines_outline {n : Node} (h : n.HintsOnOneLine) :
    ∃ ls, Text.lines n.outline.toList = ls ++ [[]] ∧
      List.Forall₂ (fun entry line => ShowsNode entry.1 entry.2.type line) (n.walkFrom 0) ls := by
  -- By induction on the nodes of the walk, which need not be those of a tree for this.
  have hall : ∀ entries : List (Nat × Node), (∀ entry ∈ entries, entry.2 ∈ n.walk) →
      ∃ ls : List (List Char),
        (entries.flatMap fun entry => (outlineLine entry.1 entry.2).toList) =
          ls.flatMap (· ++ ['\n']) ∧ (∀ l ∈ ls, '\n' ∉ l) ∧
        List.Forall₂ (fun entry line => ShowsNode entry.1 entry.2.type line) entries ls := by
    intro entries
    induction entries with
    | nil => exact fun _ => ⟨[], rfl, List.forall_mem_nil _, .nil⟩
    | cons entry entries ih =>
        intro hentries
        rw [List.forall_mem_cons] at hentries
        rcases exists_outlineLine entry.1 (h entry.2 hentries.1) with ⟨line, hline, hfeed, hshows⟩
        rcases ih hentries.2 with ⟨ls, hls, hfeeds, hrest⟩
        refine ⟨line :: ls, ?_, List.forall_mem_cons.mpr ⟨hfeed, hfeeds⟩, .cons hshows hrest⟩
        rw [List.flatMap_cons, List.flatMap_cons, hline, hls]
  have hwalk : ∀ entry ∈ n.walkFrom 0, entry.2 ∈ n.walk := by
    intro entry hentry
    rw [← map_snd_walkFrom 0 n]
    exact List.mem_map_of_mem hentry
  rcases hall (n.walkFrom 0) hwalk with ⟨ls, hls, hfeeds, hshows⟩
  have hne : ls ≠ [] := by
    rintro rfl
    rw [walkFrom_eq] at hshows
    cases hshows
  refine ⟨ls, ?_, hshows⟩
  have hlast : ∀ l ∈ ls ++ [[]], '\n' ∉ l := by
    intro l hl
    rcases List.mem_append.mp hl with hl | hl
    · exact hfeeds l hl
    · rw [List.mem_singleton.mp hl]
      exact List.not_mem_nil
  -- The outline ends with a line feed, so behind its lines there is an empty one.
  have hunlines : n.outline.toList = Text.unlines (ls ++ [[]]) := by
    rw [outline, outlineAt_eq, hls, Text.flatMap_feed hne,
      Text.unlines_append hne (List.cons_ne_nil _ _)]
    rfl
  rw [hunlines, Text.lines_unlines (List.append_ne_nil_of_left_ne_nil hne _) hlast]

/-- Lines show one depth and one type each, so an outline determines those of all nodes. -/
theorem profile_eq_of_forall₂ {entries entries' : List (Nat × Node)} {ls : List (List Char)}
    (h : List.Forall₂ (fun entry line => ShowsNode entry.1 entry.2.type line) entries ls)
    (h' : List.Forall₂ (fun entry line => ShowsNode entry.1 entry.2.type line) entries' ls) :
    entries.map (fun entry => (entry.1, entry.2.type)) =
      entries'.map fun entry => (entry.1, entry.2.type) := by
  induction h generalizing entries' with
  | nil =>
      cases h'
      rfl
  | cons hshows _ ih =>
      cases h' with
      | cons hshows' hrest' =>
          rcases hshows.unique hshows' with ⟨hdepth, htype⟩
          rw [List.map_cons, List.map_cons, ih hrest', hdepth, htype]

/-- Trees with the same outline have the same types at all paths. -/
theorem sameTypes_of_outline_eq {n m : Node} (hn : n.HintsOnOneLine) (hm : m.HintsOnOneLine)
    (h : n.outline = m.outline) : n.SameTypes m := by
  rcases lines_outline hn with ⟨ls, hls, hshows⟩
  rcases lines_outline hm with ⟨ls', hls', hshows'⟩
  rw [h, hls', List.append_left_inj] at hls
  exact sameTypes_of_profile_eq (profile_eq_of_forall₂ hshows (hls ▸ hshows'))

/-- An identifier in a tree that anchors have been placed in was there before. -/
theorem exists_hint_of_mem_walk_placed {n m : Node} {id : String} (hm : m ∈ n.placed.walk)
    (hid : m.hint = some id) : ∃ k ∈ n.walk, k.hint = some id := by
  induction n using induct with
  | h n ih =>
      by_cases hn : n.StandsIn
      · -- An anchor has no children, and no identifier attached.
        rw [placed_of_standsIn hn] at hm
        rcases mem_walk_iff.mp hm with rfl | ⟨c, hc, -⟩
        · cases hid
        · cases hc
      · rw [placed_of_not_standsIn hn] at hm
        rcases mem_walk_iff.mp hm with rfl | ⟨d, hd, hm⟩
        · exact ⟨n, n.mem_walk_self, hid⟩
        · rcases List.mem_map.mp hd with ⟨c, hc, rfl⟩
          rcases ih c hc hm with ⟨k, hk, hkid⟩
          exact ⟨k, mem_walk_of_child hc hk, hkid⟩

end Node

namespace Pipeline

/-- A tree that has just been read has no identifiers. -/
theorem hintsOnOneLine_parse (p : Pipeline) (source : String) : (p.parse source).HintsOnOneLine := by
  intro m hm id hid
  have hfresh : (p.parse source).IsFresh := isFresh_ofEvents source _
  rw [(hfresh.1 m hm).2] at hid
  cases hid

/-- The identifiers that a pipeline attaches are words, and hold no line feed. -/
theorem hintsOnOneLine_run (options : PipelineOptions) (source : String) :
    let p := installStandard { options }
    (p.run (p.parse source) source).HintsOnOneLine := by
  intro p m hm id hid
  have hhinted : (Node.resolve (p.parse source) source).1.Hinted :=
    Node.hinted_resolve (Node.hinted_of_isPlain (isFresh_ofEvents source _).1) source
  rw [run_installStandard, Node.placeAnchors_eq] at hm
  -- Placing anchors attaches no identifiers, so this one comes from a block.
  have hword : ∃ k ∈ (Node.resolve (p.parse source) source).1.walk, k.hint = some id := by
    rcases Node.mem_walk_iff.mp hm with rfl | ⟨d, hd, hm⟩
    · exact ⟨_, Node.mem_walk_self _, hid⟩
    · rcases List.mem_map.mp hd with ⟨c, hc, rfl⟩
      rcases Node.exists_hint_of_mem_walk_placed hm hid with ⟨k, hk, hkid⟩
      exact ⟨k, Node.mem_walk_of_child hc hk, hkid⟩
  rcases hword with ⟨k, hk, hkid⟩
  intro hfeed
  have hspacing := (((hhinted k hk).2 id hkid).2 '\n' hfeed).1
  exact absurd hspacing (by decide)

end Pipeline

/-- An outline has one line for each node of the walk, each with a line feed at its end. The line of
    a node begins with two spaces for each step of its path and the name of its type, and what
    follows is separated by a space or begins with the sign in front of a span. So trees with the
    same outline have the same paths, and the same types of nodes at them. All this is for trees
    whose identifiers hold no line feed; those that the standard plugins are given and those that
    they leave are such trees. -/
theorem outline_shows_shape :
    (∀ n : Node, n.HintsOnOneLine →
      ∃ ls : List (List Char), Text.lines n.outline.toList = ls ++ [[]] ∧
        ls.length = n.walk.length ∧
        ∀ (i : Nat) path m, n.paths[i]? = some path → n.walk[i]? = some m → n.at? path = some m ∧
          ∃ line, ls[i]? = some line ∧ ShowsNode path.length m.type line) ∧
    (∀ n m : Node, n.HintsOnOneLine → m.HintsOnOneLine → n.outline = m.outline →
      ∀ path, (n.at? path).map Node.type = (m.at? path).map Node.type) ∧
    (∀ options source, let p := Pipeline.installStandard { options }
      (p.parse source).HintsOnOneLine ∧ (p.run (p.parse source) source).HintsOnOneLine) := by
  refine ⟨fun n hn => ?_, fun n m hn hm h => Node.sameTypes_of_outline_eq hn hm h,
    fun options source => ⟨Pipeline.hintsOnOneLine_parse _ source,
      Pipeline.hintsOnOneLine_run options source⟩⟩
  rcases Node.lines_outline hn with ⟨ls, hls, hshows⟩
  refine ⟨ls, hls, ?_, fun i path m hpath hm => ?_⟩
  · rw [← n.map_snd_walkFrom 0, List.length_map, hshows.length_eq]
  · -- The node at the path is the one of the walk, and its line is the one at the same index.
    have hat := congrArg (·[i]?) n.map_at?_paths
    simp only [List.getElem?_map, hpath, hm, Option.map_some, Option.some.injEq] at hat
    have hentry := Node.getElem?_walkFrom hpath hm
    rcases List.getElem?_eq_some_iff.mp hentry with ⟨hlt, hget⟩
    have hline : i < ls.length := hshows.length_eq ▸ hlt
    have hshow := hshows.get hlt hline
    rw [List.get_eq_getElem, hget] at hshow
    exact ⟨hat, ls[i], List.getElem?_eq_getElem hline, hshow⟩

/-- Two trees that differ in a description only, which the outline does not show. A value that looks
    like a line of an outline stays on the line of its node. -/
theorem outline_shows_shape_quoted :
    let text : Node := { kind := .text "a\n  text \"b\"@0..1\n" }
    let image (alt : String) : Node := { kind := .image "u" none alt, hint := some "k" }
    let n : Node := { kind := .root, children := [text, image "x"], span := some ⟨0, 9⟩ }
    let m : Node := { kind := .root, children := [text, image "y\n"], span := some ⟨0, 9⟩ }
    n.HintsOnOneLine ∧ m.HintsOnOneLine ∧ n.outline = m.outline ∧
      (∃ ls : List (List Char), Text.lines n.outline.toList = ls ++ [[]] ∧ ls.length = 3 ∧
        ∃ line, ls[1]? = some line ∧ ShowsNode 1 .text line) ∧
      (n.at? [1]).map Node.type = (m.at? [1]).map Node.type := by
  intro text image n m
  have hone (alt : String) : (Node.mk .root [text, image alt] (some ⟨0, 9⟩) none).HintsOnOneLine := by
    intro k hk id hid
    rw [Node.walk_eq, List.mem_cons] at hk
    rcases hk with rfl | hk
    · cases hid
    rcases List.mem_cons.mp hk with rfl | hk
    · cases hid
    rw [List.mem_singleton.mp hk] at hid
    cases hid
    decide
  have hsame : n.outline = m.outline := rfl
  rcases outline_shows_shape.1 n (hone "x") with ⟨ls, hls, hlength, hlines⟩
  refine ⟨hone "x", hone "y\n", hsame, ⟨ls, hls, hlength, (hlines 1 [0] text rfl rfl).2⟩,
    outline_shows_shape.2.1 n m (hone "x") (hone "y\n") hsame [1]⟩

end Anchormark
