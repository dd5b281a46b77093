import Anchormark.Proofs.Command.Effects
import Anchormark.Proofs.Toml.Written

/-!
# Saving and Loading

Settings that were saved are the settings that are loaded. What is written has both sections with
all their keys, so no default takes part in reading it, and every value is read as what it was
written for, also a marker that no list or emphasis can have.

What lies between writing and reading is the host. It keeps a file if what is read right after
writing it is what was written; a machine does so for every path that a file can have.

## Main definitions

* `Settings.entries`: The table that settings are written as.
* `Host.Keeps`: What is written is what is read next.

## Theorems

* `Settings.readDocument?_toChars`: The document describes this table.
* `Settings.read?_write`: The settings in what is written.
* `Machine.host_keeps`: A machine keeps its files.
* `Settings.load_of_save`: Saved settings are loaded again.
-/

namespace Anchormark

namespace Settings

open Toml

/-- A line with a key that is set. -/
theorem writeLine_eq (key : String) (value : Value) (cs : List Char) :
    writeLine key cs = Pair.toChars ⟨key, value, cs⟩ := by
  simp only [writeLine, Pair.toChars, List.append_assoc, List.cons_append, List.nil_append]

/-- The lines of the section about reading. -/
def parsePairs (o : ParseOptions) : List Pair :=
  [⟨"tables", .boolean o.tables, writeBoolean o.tables⟩,
    ⟨"strikethrough", .boolean o.strikethrough, writeBoolean o.strikethrough⟩,
    ⟨"tasklists", .boolean o.tasklists, writeBoolean o.tasklists⟩]

/-- The lines of the section about writing. -/
def renderPairs (o : RenderOptions) : List Pair :=
  [⟨"bullet", .string (String.ofList [o.bullet]), quoteChar o.bullet⟩,
    ⟨"emphasis", .string (String.ofList [o.emphasis]), quoteChar o.emphasis⟩,
    ⟨"list_item_indent", .string o.listIndent.name, ['"'] ++ o.listIndent.name.toList ++ ['"']⟩]

/-- The table that settings are written as. -/
def entries (s : Settings) : Entries :=
  [("parse", .table .header ((parsePairs s.parse).map Pair.entry)),
    ("stringify", .table .header ((renderPairs s.render).map Pair.entry))]

theorem written_boolean (b : Bool) : Written (.boolean b) (writeBoolean b) := by
  intro rest
  cases b <;> rfl

theorem written_indent (indent : ListIndent) :
    Written (.string indent.name) (['"'] ++ indent.name.toList ++ ['"']) := by
  intro rest
  cases indent <;> rfl

theorem readable_parsePairs (o : ParseOptions) : ∀ p ∈ parsePairs o, p.Readable := by
  simp only [parsePairs, List.forall_mem_cons]
  exact ⟨⟨show IsBareKey "tables" by decide, written_boolean _⟩,
    ⟨show IsBareKey "strikethrough" by decide, written_boolean _⟩,
    ⟨show IsBareKey "tasklists" by decide, written_boolean _⟩, List.forall_mem_nil _⟩

theorem readable_renderPairs (o : RenderOptions) : ∀ p ∈ renderPairs o, p.Readable := by
  simp only [renderPairs, List.forall_mem_cons]
  exact ⟨⟨show IsBareKey "bullet" by decide, written_quoteChar _⟩,
    ⟨show IsBareKey "emphasis" by decide, written_quoteChar _⟩,
    ⟨show IsBareKey "list_item_indent" by decide, written_indent _⟩, List.forall_mem_nil _⟩

/-- The document is one section behind the other, with an empty line between them. -/
theorem toChars_eq (s : Settings) :
    s.toChars = "[parse]\n".toList ++ ((parsePairs s.parse).flatMap Pair.toChars ++
      ("\n[stringify]\n".toList ++ ((renderPairs s.render).flatMap Pair.toChars ++ []))) := by
  unfold toChars
  simp only [parsePairs, renderPairs, List.flatMap_cons, List.flatMap_nil, List.append_assoc,
    List.append_nil, ← writeLine_eq]

/-- The document describes a table with every key. -/
theorem readDocument?_toChars (s : Settings) : readDocument? s.toChars = some s.entries := by
  have hlength : 9 ≤ s.toChars.length := by
    rw [toChars_eq]
    simp only [parsePairs, renderPairs, List.flatMap_cons, List.length_append, Pair.toChars,
      List.length_cons]
    omega
  rcases Nat.exists_eq_add_of_le' hlength with ⟨limit, hlimit⟩
  -- It begins with a header, not with a byte order mark.
  have hfront : s.toChars.head? ≠ some '\ufeff' := by
    have hhead : s.toChars.head? = some '[' := by
      rw [toChars_eq]
      rfl
    rw [hhead]
    decide
  -- Each line takes one round of the reader: four for a section, and one for the line between.
  have hparse (rest : List Char) :
      readLines? (limit + 10) [] [] ("[parse]\n".toList ++
          ((parsePairs s.parse).flatMap Pair.toChars ++ rest)) =
        readLines? (limit + 6) ["parse"]
          [("parse", .table .header ((parsePairs s.parse).map Pair.entry))] rest :=
    readLines?_section [] [] (show IsBareKey "parse" by decide) List.not_mem_nil
      (readable_parsePairs s.parse) (show ["tables", "strikethrough", "tasklists"].Nodup by decide)
      rest
  have hrender (rest : List Char) :
      readLines? (limit + 6) ["parse"]
          [("parse", .table .header ((parsePairs s.parse).map Pair.entry))]
          ("\n[stringify]\n".toList ++
            ((renderPairs s.render).flatMap Pair.toChars ++ rest)) =
        readLines? (limit + 1) ["stringify"] s.entries rest :=
    readLines?_section ["parse"] _ (show IsBareKey "stringify" by decide)
      (by change "stringify" ∉ ["parse"]; decide) (readable_renderPairs s.render)
      (show ["bullet", "emphasis", "list_item_indent"].Nodup by decide) rest
  simp only [readDocument?, if_neg hfront, hlimit]
  rw [toChars_eq, hparse, hrender]
  rfl

/-- The table gives the settings back. -/
theorem ofEntries?_entries (s : Settings) : ofEntries? s.entries = some s := by
  -- Markers are written as texts of one character, and the indentation by its name.
  have hmarker (c : Char) : marker? (.string (String.ofList [c])) = some c := by
    rw [marker?, String.toList_ofList]
  have hindent (indent : ListIndent) : indent? (.string indent.name) = some indent := by
    cases indent <;> rfl
  have hparse : parseOptions? (.table .header ((parsePairs s.parse).map Pair.entry)) =
      some s.parse := rfl
  have hrender : renderOptions? (.table .header ((renderPairs s.render).map Pair.entry)) =
      some s.render := by
    change (do
      return {
        bullet := ← marker? (.string (String.ofList [s.render.bullet]))
        emphasis := ← marker? (.string (String.ofList [s.render.emphasis]))
        listIndent := ← indent? (.string s.render.listIndent.name) } : Option RenderOptions) = _
    rw [hmarker, hmarker, hindent]
    rfl
  change (do
    return {
      parse := ← parseOptions? (.table .header ((parsePairs s.parse).map Pair.entry))
      render := ← renderOptions? (.table .header ((renderPairs s.render).map Pair.entry)) } :
      Option Settings) = _
  rw [hparse, hrender]
  rfl

/-- The settings in what is written. -/
theorem read?_write (s : Settings) : read? s.write = some s := by
  rw [read?, write, String.toList_ofList, readDocument?_toChars, Option.bind_some,
    ofEntries?_entries]

end Settings

namespace Host

variable {m : Type → Type} [Monad m]

/-- What is read right after a file was written is what was written. -/
def Keeps (host : Host m) (path : String) : Prop :=
  ∀ text : String,
    (do
      if ← host.writeFile true path text then return some (← host.readFile path)
      else return none) =
    (do
      if ← host.writeFile true path text then return some (.ok text.toUTF8)
      else return none)

end Host

namespace Machine

variable {w : Machine} {place target : Place} {names : List String} {content : ByteArray}

/-- The names do not go up, and the last one is the name of a file. -/
def NamesFile (names : List String) : Prop :=
  ".." ∉ names ∧ ∃ name ∈ names.getLast?, name ≠ "" ∧ name ≠ "."

/-- With a file in its place, what leads there is a folder, also if it was made for the file. -/
theorem isFolder_put_making {more : Place} (hmore : more ≠ [])
    (h : w.isFolder place = true ∨ w.entries place = none) :
    (w.put true (place ++ more) content).isFolder place = true := by
  have hne : place ≠ place ++ more := fun heq => hmore (List.self_eq_append_right.mp heq)
  have hprefix : place.isPrefixOf (place ++ more) = true :=
    List.isPrefixOf_iff_prefix.mpr (List.prefix_append _ _)
  -- The place leads to the file and is not the file itself.
  have hentries : (w.put true (place ++ more) content).entries place =
      if (w.entries place).isNone then some .folder else w.entries place := by
    change (if place = place ++ more then _ else _) = _
    rw [if_neg hne, hprefix]
    rfl
  rw [isFolder, hentries]
  rcases h with h | h
  · cases hentry : w.entries place with
    | none => rw [Option.isNone_none, if_pos rfl, Bool.or_true]
    | some entry =>
        rw [isFolder, hentry] at h
        rw [Option.isNone_some, if_neg Bool.false_ne_true]
        exact h
  · rw [h, Option.isNone_none, if_pos rfl, Bool.or_true]

/-- Where a name leads that does not go up. -/
def below (place : Place) (name : String) : Place :=
  if name = "" || name = "." then place else place ++ [name]

theorem follow?_cons {name : String} (hup : name ≠ "..") (making : Bool) :
    w.follow? making place (name :: names) =
      if w.isFolder place || (making && (w.entries place).isNone) then
        w.follow? making (below place name) names
      else none := by
  rw [follow?, if_neg hup, below]
  split
  · split <;> rfl
  · rfl

/-- The names lead below where they start, and once the file is there they lead to it again. -/
theorem follow?_put_making (content : ByteArray) (hnames : NamesFile names)
    (h : w.follow? true place names = some target) :
    (∃ more, more ≠ [] ∧ target = place ++ more) ∧
      (w.put true target content).follow? false place names = some target := by
  induction names generalizing place with
  | nil =>
      rcases hnames.2 with ⟨name, hname, -⟩
      cases hname
  | cons name names ih =>
      have hup : name ≠ ".." := fun heq => hnames.1 (heq ▸ List.mem_cons_self)
      rw [follow?_cons hup, Option.ite_none_right_eq_some] at h
      rcases h with ⟨hfolder, h⟩
      have hbelow : (∃ more, more ≠ [] ∧ target = place ++ more) ∧
          (w.put true target content).follow? false (below place name) names = some target := by
        cases names with
        | nil =>
            -- The last name is the file's own, so it leads one step down.
            rcases hnames.2 with ⟨last, hlast, hempty, hdot⟩
            have hlast : name = last := Option.some.inj hlast
            subst hlast
            have hplace : below place name = place ++ [name] := by
              rw [below, if_neg (by simp [hempty, hdot])]
            rw [hplace] at h ⊢
            exact ⟨⟨[name], List.cons_ne_nil _ _, (Option.some.inj h).symm⟩, h⟩
        | cons next rest =>
            rcases hnames.2 with ⟨last, hlast, hproper⟩
            have hrest : NamesFile (next :: rest) :=
              ⟨fun hmem => hnames.1 (List.mem_cons_of_mem _ hmem), last, hlast, hproper⟩
            rcases ih hrest h with ⟨⟨more, hmore, htarget⟩, hput⟩
            refine ⟨?_, hput⟩
            unfold below at htarget
            split at htarget
            · exact ⟨more, hmore, htarget⟩
            · exact ⟨name :: more, List.cons_ne_nil _ _, by rw [htarget, List.append_assoc]; rfl⟩
      -- The folder that this name starts from is there, or it was made for the file.
      rcases hbelow with ⟨⟨more, hmore, rfl⟩, hput⟩
      rw [Bool.true_and, Bool.or_eq_true, Option.isNone_iff_eq_none] at hfolder
      refine ⟨⟨more, hmore, rfl⟩, ?_⟩
      rw [follow?_cons hup, isFolder_put_making hmore hfolder, Bool.true_or, if_pos rfl]
      exact hput

/-- What is written in a place that had to be made is what is read then. -/
theorem read_put_making {path : String} (hpath : NamesFile (path.splitOn "/"))
    (h : w.locate? true path = some target) :
    (w.put true target content).read path = .ok content := by
  rw [locate?, Option.ite_none_left_eq_some] at h
  rcases follow?_put_making content hpath h.2 with ⟨⟨more, hmore, htarget⟩, hput⟩
  have hlocate : (w.put true target content).locate? false path = some target := by
    rw [locate?, if_neg h.1]
    exact hput
  have hentries : (w.put true target content).entries target = some (.file content) :=
    if_pos rfl
  have hfolder : (w.put true target content).isFolder target = false := by
    have hne : target.isEmpty = false := by
      rw [htarget, List.isEmpty_eq_false_iff]
      exact List.append_ne_nil_of_right_ne_nil _ hmore
    rw [isFolder, hentries, hne]
    rfl
  rw [read, hlocate]
  simp only [hfolder, hentries]
  rfl

/-- A machine keeps the files that are written on it. -/
theorem host_keeps {path : String} (hpath : NamesFile (path.splitOn "/")) :
    Machine.host.Keeps path := by
  intro text
  funext w
  change StateT.run _ w = StateT.run _ w
  rw [StateT.run_bind, StateT.run_bind, run_writeFile]
  cases hwrite : w.write? true path text with
  | none => rfl
  | some w' =>
      rw [write?, Option.bind_eq_bind, Option.bind_eq_some_iff] at hwrite
      rcases hwrite with ⟨target, htarget, hput⟩
      rw [Option.ite_none_left_eq_some] at hput
      have hread : w'.read path = .ok text.toUTF8 := by
        rw [← Option.some.inj hput.2]
        exact read_put_making hpath htarget
      change ((some (w'.read path), w') : Option (Except ReadFailure ByteArray) × Machine) = _
      rw [hread]
      rfl

end Machine

namespace Settings

variable {m : Type → Type} [Monad m]

/-- The bytes of the document hold the settings, wherever they are found. -/
theorem ofContent_write (path : String) (s : Settings) :
    ofContent path (.ok s.write.toUTF8) = .ok (some s) :=
  ofContent_eq_some_iff.mpr ⟨s.write, rfl, read?_write s⟩

/-- Loading settings after they were saved. -/
theorem load_after_save [LawfulMonad m] {host : Host m} {path : String} (h : host.Keeps path)
    (s : Settings) :
    (do if ← s.save host path then return some (← load host path) else return none) =
      (do if ← s.save host path then return some (.ok (some s)) else return none) := by
  -- What is loaded is what is read, with the settings looked for in it.
  have hmap := congrArg (Option.map (ofContent path) <$> ·) (h s.write)
  simp only [map_bind, apply_ite, map_pure, Option.map_some, Option.map_none,
    ofContent_write] at hmap
  simp only [save, load, bind_assoc, pure_bind]
  exact hmap

/-- Settings survive being saved and loaded, and being turned into options and back. -/
theorem load_of_save (s : Settings) :
    read? s.write = some s ∧
      (∀ path, ofContent path (.ok s.write.toUTF8) = .ok (some s)) ∧
      (∀ {m : Type → Type} [Monad m] [LawfulMonad m] (host : Host m) (path : String),
        host.Keeps path →
        (do if ← s.save host path then return some (← load host path) else return none) =
          (do if ← s.save host path then return some (.ok (some s)) else return none)) ∧
      ofPipelineOptions s.pipelineOptions = s ∧
      ∀ o : PipelineOptions, (ofPipelineOptions o).pipelineOptions = o :=
  ⟨read?_write s, fun path => ofContent_write path s, fun _ _ h => load_after_save h s, rfl,
    fun _ => rfl⟩

/-- Markers that no list and no emphasis can have, saved to a folder that is not there yet. -/
theorem load_of_save_quotes :
    let s : Settings :=
      { parse := { strikethrough := false },
        render := { bullet := '"', emphasis := '\n', listIndent := .mixed } }
    let saveAndLoad : StateM Machine (Option (Except SettingsError (Option Settings))) := do
      if ← s.save Machine.host "a/s" then return some (← load Machine.host "a/s") else return none
    (saveAndLoad.run { entries := fun _ => none }).1 = some (.ok (some s)) := by
  intro s saveAndLoad
  have hsplit : "a/s".splitOn "/" = ["a", "s"] := by
    -- The separator is found at the second of three places.
    rw [String.splitOn, if_neg (by decide), String.splitOnAux, if_neg (by decide),
      if_neg (by decide), String.splitOnAux, if_neg (by decide), if_pos (by decide),
      if_pos (by decide), String.splitOnAux, if_neg (by decide), if_neg (by decide),
      String.splitOnAux, if_pos (by decide)]
    decide
  have hnames : Machine.NamesFile ("a/s".splitOn "/") := by
    rw [hsplit]
    exact ⟨by decide, "s", rfl, by decide, by decide⟩
  have hsaved : saveAndLoad = do
      if ← s.save Machine.host "a/s" then return some (.ok (some s)) else return none :=
    (load_of_save s).2.2.1 Machine.host "a/s" (Machine.host_keeps hnames)
  have hwrite : (s.save Machine.host "a/s").run { entries := fun _ => none } =
      (true, ({ entries := fun _ => none } : Machine).put true ["a", "s"] s.write.toUTF8) := by
    have hlocate : ({ entries := fun _ => none } : Machine).locate? true "a/s" =
        some ["a", "s"] := by
      have hstart : "a/s".startsWith "/" = false := by simp
      rw [Machine.locate?, hsplit, if_neg (by decide), hstart]
      rfl
    rw [save, Machine.run_writeFile, Machine.write?, hlocate]
    rfl
  rw [hsaved, StateT.run_bind, hwrite]
  rfl

end Settings

end Anchormark
