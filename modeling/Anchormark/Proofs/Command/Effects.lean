import Anchormark.Proofs.Pipeline.Processing
import Anchormark.Proofs.Command.Invocations
import Anchormark.Proofs.Command.Stages

/-!
# What a Run Does

A run changes at most one file, the one that its result is to be written to, and it changes that
one last: whatever can fail has succeeded before. So a run that fails leaves no trace. The result is
settled by then, too. It is the one that would be printed if no file were named, and that does not
depend on whether the file that is written was read before.

A run that only checks changes nothing at all. Its exit code tells whether the run that prints would
print the text it has read.

Two runs are compared by their invocations, since the same invocation can be asked for in many ways.
A run ends in one of six ways, and what there is to say about runs is said of each.

## Main definitions

* `Machine.Writable`: A path leads to where a file can be.
* `Invocation.Ends`: The ways in which a run ends.
* `Machine.perform`: The command with its arguments on a machine.
* `Machine.Accepts`: Arguments are accepted, and these are the files and options they stand for.
* `Invocation.Does`: The effect of an invocation, however it is asked for.

## Theorems

* `Machine.read_put`: What is written is what is read then.
* `Invocation.ends_run`: Every run ends in one of the ways.
* `Invocation.Ends.entries`, `Invocation.Ends.eq_of_code_ne_zero`: What all ways leave alone.
* `Invocation.Ends.code_eq_zero_iff`: When a run succeeds.
* `Machine.accepts_toArguments`: What can be asked for is accepted.
* `Invocation.does_print_iff`: What a run prints is its result.
* `Machine.effects_perform`: All of this for accepted arguments.
-/

namespace Anchormark

namespace Machine

/-- The path leads to a place that is no folder. -/
def Writable (w : Machine) (path : String) : Prop :=
  ∃ place, w.locate? false path = some place ∧ w.isFolder place = false

/-- Writing puts the text to the place of a path. -/
theorem write?_eq_some_iff {w w' : Machine} {path text : String} :
    w.write? false path text = some w' ↔
      ∃ place, w.locate? false path = some place ∧ w.isFolder place = false ∧
        w' = w.put false place text.toUTF8 := by
  unfold write?
  cases w.locate? false path with
  | none => simp
  | some place =>
      cases hfolder : w.isFolder place with
      | true => simp [hfolder]
      | false => simp [hfolder, eq_comm (a := w')]

/-- Nothing is written to a path that is not writable. -/
theorem write?_eq_none_iff {w : Machine} {path text : String} :
    w.write? false path text = none ↔ ¬ w.Writable path := by
  unfold write? Writable
  cases w.locate? false path with
  | none => simp
  | some place => cases hfolder : w.isFolder place <;> simp [hfolder]

/-- Writing succeeds if there is a machine for it. -/
theorem run_writeFile (w : Machine) (making : Bool) (path text : String) :
    (host.writeFile making path text).run w =
      (w.write? making path text).elim (false, w) fun w' => (true, w') := by
  simp only [host, StateT.run_bind, StateT.run_get, pure_bind]
  cases w.write? making path text <;> rfl

section Put

variable {w : Machine} {place : Place} {content : ByteArray}

theorem entries_put (place' : Place) :
    (w.put false place content).entries place' =
      if place' = place then some (.file content) else w.entries place' := by
  simp [put]

/-- A file takes the place of no folder. -/
theorem isFolder_put (h : w.isFolder place = false) (place' : Place) :
    (w.put false place content).isFolder place' = w.isFolder place' := by
  unfold isFolder at h ⊢
  rw [entries_put]
  by_cases hplace : place' = place
  · subst hplace
    rw [if_pos rfl, h]
    rw [Bool.or_eq_false_iff] at h
    rw [h.1]
    rfl
  · rw [if_neg hplace]

/-- Paths lead where they led before. -/
theorem follow?_put (h : w.isFolder place = false) (start : Place) (names : List String) :
    (w.put false place content).follow? false start names = w.follow? false start names := by
  induction names generalizing start with
  | nil => rfl
  | cons name names ih => simp only [follow?, isFolder_put h, Bool.false_and, ih]

theorem locate?_put (h : w.isFolder place = false) (path : String) :
    (w.put false place content).locate? false path = w.locate? false path := by
  unfold locate?
  rw [follow?_put h]
  rfl

/-- What is written is what is read then. -/
theorem read_put {path : String} (hplace : w.locate? false path = some place)
    (h : w.isFolder place = false) : (w.put false place content).read path = .ok content := by
  unfold read
  rw [locate?_put h, hplace]
  simp only [isFolder_put h, h, entries_put]
  rfl

end Put

end Machine

namespace Invocation

/-- The ways in which a run ends, each with the machine that it leaves behind. -/
inductive Ends (i : Invocation) (w : Machine) : Outcome → Machine → Prop
  /-- Some stage before the last one failed. -/
  | failed (e : CommandError) (h : ¬ ∃ text result, i.Yields w text result) :
      Ends i w (.failure e) w
  /-- The text would stay as it is. -/
  | same {text : String} (hcheck : i.check = true) (h : i.Yields w text text) : Ends i w .success w
  /-- The text would change. -/
  | differs {text result : String} (hcheck : i.check = true) (h : i.Yields w text result)
      (hne : result ≠ text) : Ends i w (.differs i.inputFile) w
  /-- The result is the output. -/
  | printed {text result : String} (hcheck : i.check = false) (houtput : i.output = none)
      (h : i.Yields w text result) : Ends i w .success { w with printed := w.printed ++ result }
  /-- The result is in the file. -/
  | written {text result path : String} {place : Place} (hcheck : i.check = false)
      (houtput : i.output = some path) (h : i.Yields w text result)
      (hplace : w.locate? false path = some place) (hfolder : w.isFolder place = false) :
      Ends i w .success (w.put false place result.toUTF8)
  /-- There is a result, but it has no place. -/
  | unwritable {text result path : String} (hcheck : i.check = false)
      (houtput : i.output = some path) (h : i.Yields w text result) (hpath : ¬ w.Writable path) :
      Ends i w (.failure (.unwritable path)) w

variable {i : Invocation} {w w' : Machine} {o : Outcome}

/-- The last stage. -/
theorem ends_deliver {text result : String} (h : i.Yields w text result) :
    i.Ends w ((i.deliver Machine.host text result).run w).1
      ((i.deliver Machine.host text result).run w).2 := by
  unfold deliver
  cases hcheck : i.check with
  | true =>
      change i.Ends w (if result = text then .success else .differs i.inputFile) w
      -- A check compares, and asks the machine for nothing.
      by_cases hsame : result = text
      · rw [if_pos hsame]
        exact .same hcheck (hsame ▸ h)
      · rw [if_neg hsame]
        exact .differs hcheck h hsame
  | false =>
      cases houtput : i.output with
      | none => exact .printed hcheck houtput h
      | some path =>
          -- The machine is asked to write, and its answer is the outcome.
          have hwrite := w.run_writeFile false path result
          rw [if_neg Bool.false_ne_true]
          dsimp only
          by_cases hpath : w.Writable path
          · rcases hpath with ⟨place, hplace, hfolder⟩
            rw [Machine.write?_eq_some_iff.mpr ⟨place, hplace, hfolder, rfl⟩] at hwrite
            rw [StateT.run_bind, hwrite]
            exact .written hcheck houtput h hplace hfolder
          · rw [Machine.write?_eq_none_iff.mpr hpath] at hwrite
            rw [StateT.run_bind, hwrite]
            exact .unwritable hcheck houtput h hpath

/-- Every run ends in one of the ways. -/
theorem ends_run (i : Invocation) (w : Machine) :
    i.Ends w ((i.run Machine.host).run w).1 ((i.run Machine.host).run w).2 := by
  -- Nothing has changed before the last stage, so that one begins on the same machine.
  rcases i.inspects_result (w := w) with ⟨r, hrun, hr⟩
  unfold run
  rw [StateT.run_bind, hrun]
  cases r with
  | error e =>
      refine .failed e ?_
      rintro ⟨text, result, h⟩
      cases (hr (text, result)).mpr h
  | ok p => exact ends_deliver ((hr p).mp rfl)

/-- No run changes the variables, the working folder or the input. -/
theorem Ends.world (h : i.Ends w o w') :
    w'.environment = w.environment ∧ w'.folder = w.folder ∧ w'.input = w.input := by
  cases h <;> exact ⟨rfl, rfl, rfl⟩

/-- A file changes only if it is the one that is named, and after all other stages. -/
theorem Ends.entries (h : i.Ends w o w') {place : Place}
    (hne : w'.entries place ≠ w.entries place) :
    ∃ path text result, i.output = some path ∧ w.locate? false path = some place ∧
      i.Yields w text result := by
  cases h with
  | failed | same | differs | printed | unwritable => exact absurd rfl hne
  | @written text result path place' _ houtput h hplace _ =>
      by_cases heq : place = place'
      · exact ⟨path, text, result, houtput, heq ▸ hplace, h⟩
      · rw [Machine.entries_put, if_neg heq] at hne
        exact absurd rfl hne

/-- A run that fails leaves no trace. -/
theorem Ends.eq_of_code_ne_zero (h : i.Ends w o w') (ho : o.code ≠ 0) : w' = w := by
  cases h with
  | failed | differs | unwritable => rfl
  | same | printed | written => exact absurd rfl ho

/-- Checking leaves no trace. -/
theorem Ends.eq_of_check (h : i.Ends w o w') (hcheck : i.check = true) : w' = w := by
  cases h with
  | failed | same | differs | unwritable => rfl
  | printed hcheck' | written hcheck' =>
      rw [hcheck] at hcheck'
      cases hcheck'

/-- A run succeeds if all of its stages do. The last one is either to compare or to deliver. -/
theorem Ends.code_eq_zero_iff (h : i.Ends w o w') :
    o.code = 0 ↔ ∃ text result, i.Yields w text result ∧
      if i.check then result = text else ∀ path ∈ i.output, w.Writable path := by
  cases h with
  | failed e h =>
      refine ⟨fun ho => absurd ho Nat.one_ne_zero, ?_⟩
      -- What a run yields is unique, so a run that fails yields nothing else either.
      rintro ⟨text, result, hy, -⟩
      exact absurd ⟨text, result, hy⟩ h
  | @same text hcheck h =>
      refine ⟨fun _ => ⟨text, text, h, ?_⟩, fun _ => rfl⟩
      rw [if_pos hcheck]
  | @differs text result hcheck h hne =>
      refine ⟨fun ho => absurd ho Nat.one_ne_zero, ?_⟩
      rintro ⟨text', result', hy, heq⟩
      rw [if_pos hcheck] at heq
      rcases h.unique hy with ⟨rfl, rfl⟩
      exact absurd heq hne
  | @printed text result hcheck houtput h =>
      refine ⟨fun _ => ⟨text, result, h, ?_⟩, fun _ => rfl⟩
      simp [hcheck, houtput]
  | @written text result path place hcheck houtput h hplace hfolder =>
      refine ⟨fun _ => ⟨text, result, h, ?_⟩, fun _ => rfl⟩
      simpa [hcheck, houtput] using ⟨place, hplace, hfolder⟩
  | @unwritable text result path hcheck houtput h hpath =>
      refine ⟨fun ho => absurd ho Nat.one_ne_zero, ?_⟩
      rintro ⟨_, _, _, hwritable⟩
      simp only [hcheck, houtput, Bool.false_eq_true, if_false] at hwritable
      exact absurd (hwritable path rfl) hpath

/-- What is in the file that was written. -/
theorem Ends.read_output (h : i.Ends w o w') {path : String} (houtput : i.output = some path)
    (hcheck : i.check = false) (ho : o.code = 0) :
    ∃ text result, i.Yields w text result ∧ w'.read path = .ok result.toUTF8 ∧
      w'.printed = w.printed := by
  cases h with
  | failed | differs | unwritable => exact absurd ho Nat.one_ne_zero
  | same hcheck' =>
      rw [hcheck] at hcheck'
      cases hcheck'
  | printed _ houtput' =>
      rw [houtput] at houtput'
      cases houtput'
  | @written text result path' place _ houtput' h hplace hfolder =>
      rw [houtput] at houtput'
      cases houtput'
      exact ⟨text, result, h, Machine.read_put hplace hfolder, rfl⟩

/-- A run that only prints fails or does that. -/
theorem Ends.fails_or_prints (h : i.Ends w o w') (hcheck : i.check = false)
    (houtput : i.output = none) :
    (o.code ≠ 0 ∧ ¬ ∃ text result, i.Yields w text result) ∨
      ∃ text result, i.Yields w text result ∧
        (o, w') = (.success, { w with printed := w.printed ++ result }) := by
  cases h with
  | failed e h => exact .inl ⟨Nat.one_ne_zero, h⟩
  | printed _ _ h => exact .inr ⟨_, _, h, rfl⟩
  | same hcheck' | differs hcheck' =>
      rw [hcheck] at hcheck'
      cases hcheck'
  | written _ houtput' | unwritable _ houtput' =>
      rw [houtput] at houtput'
      cases houtput'

/-- What a run prints is its result. -/
theorem Ends.prints_iff (h : i.Ends w o w') (hcheck : i.check = false) (houtput : i.output = none)
    {result : String} :
    (o, w') = (.success, { w with printed := w.printed ++ result }) ↔
      ∃ text, i.Yields w text result := by
  rcases h.fails_or_prints hcheck houtput with ⟨ho, hnone⟩ | ⟨text, r, hy, heq⟩
  · constructor
    · intro heq
      cases heq
      exact absurd rfl ho
    · rintro ⟨text, hy⟩
      exact absurd ⟨text, result, hy⟩ hnone
  · rw [heq]
    constructor
    · intro hprinted
      -- Both results stand behind what had been printed before.
      have hr : w.printed ++ r = w.printed ++ result :=
        congrArg (fun p : Outcome × Machine => p.2.printed) hprinted
      exact ⟨text, String.append_right_inj _ |>.mp hr ▸ hy⟩
    · rintro ⟨text', hy'⟩
      rw [(hy.unique hy').2]

end Invocation

namespace Machine

/-- The command with its arguments: how it ends, and the machine that it leaves behind. -/
def perform (w : Machine) (words : List String) : Outcome × Machine :=
  (runCommand host words).run w

/-- The arguments are accepted, and these are the files and the options. The settings may be named
    by a variable instead. -/
def Accepts (w : Machine) (words : List String) (i : Invocation) : Prop :=
  ∃ j, Request.ofArguments words = .ok (.run j) ∧
    i = { j with settings := j.settings.or (w.environment settingsVariable) } ∧
    i.settings ≠ some ""

variable {w : Machine} {words : List String} {i : Invocation}

/-- What is accepted is run. -/
theorem Accepts.perform_eq (h : w.Accepts words i) : w.perform words = (i.run host).run w := by
  rcases h with ⟨j, hread, rfl, hsettings⟩
  unfold perform runCommand
  rw [hread]
  dsimp only
  have henv : (host.environment [settingsVariable]).run w = (w.environment, w) := rfl
  rw [StateT.run_bind, henv]
  dsimp only [bind]
  split
  · next hempty => exact absurd hempty hsettings
  · rfl

/-- What is accepted does not exclude itself. -/
theorem Accepts.isAskable (h : w.Accepts words i) : i.IsAskable := by
  rcases h with ⟨j, hread, rfl, hsettings⟩
  have hj := exists_ofArguments_iff.mp ⟨words, hread⟩
  exact ⟨⟨hj.input, hj.output, hsettings⟩, hj.check_output, hj.check_tree⟩

/-- The variable does not name settings if there are none. -/
theorem Accepts.environment_eq_none (h : w.Accepts words i) (hnone : i.settings = none) :
    w.environment settingsVariable = none := by
  rcases h with ⟨j, -, rfl, -⟩
  exact (Option.or_eq_none_iff.mp hnone).2

/-- An invocation that can be asked for is accepted, unless it leaves the settings to a variable
    that names others. -/
theorem accepts_toArguments (hi : i.IsAskable)
    (henv : i.settings = none → w.environment settingsVariable = none) :
    w.Accepts i.toArguments i := by
  refine ⟨i, Invocation.ofArguments_toArguments hi, ?_, hi.settings⟩
  cases hsettings : i.settings with
  | none =>
      rw [henv hsettings, Option.or_none, ← hsettings]
  | some path =>
      rw [Option.some_or, ← hsettings]

end Machine

namespace Invocation

variable {w w' : Machine} {words : List String} {i j : Invocation} {o : Outcome}

/-- This is the effect of the invocation, however it is asked for, and it can be. -/
def Does (i : Invocation) (w : Machine) (o : Outcome) (w' : Machine) : Prop :=
  (∃ words, w.Accepts words i) ∧ ∀ words, w.Accepts words i → w.perform words = (o, w')

/-- Arguments for one invocation show that there are some for another one with the same settings. -/
theorem does_iff (h : w.Accepts words i) (hj : j.IsAskable) (hsettings : j.settings = i.settings) :
    j.Does w o w' ↔ (o, w') = (j.run Machine.host).run w := by
  have haccepts : w.Accepts j.toArguments j :=
    Machine.accepts_toArguments hj fun hnone => h.environment_eq_none (hsettings ▸ hnone)
  constructor
  · rintro ⟨-, hall⟩
    exact (hall _ haccepts).symm.trans haccepts.perform_eq
  · intro heq
    exact ⟨⟨_, haccepts⟩, fun words' h' => h'.perform_eq.trans heq.symm⟩

/-- An invocation that only prints prints its result. -/
theorem does_print_iff (h : w.Accepts words i) (hj : j.IsAskable)
    (hsettings : j.settings = i.settings) (hcheck : j.check = false) (houtput : j.output = none)
    (result : String) :
    j.Does w .success { w with printed := w.printed ++ result } ↔
      ∃ text, j.Yields w text result := by
  rw [does_iff h hj hsettings, eq_comm]
  exact (j.ends_run w).prints_iff hcheck houtput

end Invocation

/-- What accepted arguments do to a machine. A file changes only as the last stage, and then holds
    what the same invocation would print without it, whichever file was read. -/
theorem Machine.effects_perform {w : Machine} {words : List String} {i : Invocation}
    (h : w.Accepts words i) :
    let o := (w.perform words).1
    let w' := (w.perform words).2
    -- The world stays, but for the output and for one file if all stages before the last succeed.
    (w'.environment = w.environment ∧ w'.folder = w.folder ∧ w'.input = w.input) ∧
    (∀ place, w'.entries place ≠ w.entries place →
      ∃ path text result, i.output = some path ∧ w.locate? false path = some place ∧
        i.Yields w text result) ∧
    -- What is written is what would be printed.
    (∀ path, i.output = some path → o.code = 0 →
      ∃ text result, i.Yields w text result ∧ w'.read path = .ok result.toUTF8 ∧
        w'.printed = w.printed ∧
        { i with output := none }.Does w .success { w with printed := w.printed ++ result }) ∧
    -- Checking only compares.
    (i.check = true → w' = w ∧
      (o.code = 0 ↔ ∃ text, i.Reads w text ∧
        { i with check := false }.Does w .success { w with printed := w.printed ++ text })) ∧
    -- What fails leaves no trace, and what does not succeed fails.
    (o.code ≠ 0 → w' = w) ∧
    (o.code = 0 ↔ ∃ text result, i.Yields w text result ∧
      if i.check then result = text else ∀ path ∈ i.output, w.Writable path) := by
  have hi := h.isAskable
  have hends := i.ends_run w
  rw [← h.perform_eq] at hends
  intro o w'
  refine ⟨hends.world, fun place => hends.entries, ?_, ?_, hends.eq_of_code_ne_zero,
    hends.code_eq_zero_iff⟩
  · intro path houtput ho
    -- To check and to write exclude each other, so the run has written.
    have hcheck : i.check = false := by
      cases hcheck : i.check with
      | false => rfl
      | true =>
          rw [hi.check_output hcheck] at houtput
          cases houtput
    rcases hends.read_output houtput hcheck ho with ⟨text, result, hy, hread, hprinted⟩
    have hprint := Invocation.does_print_iff h hi.withoutOutput rfl hcheck rfl result
    exact ⟨text, result, hy, hread, hprinted, hprint.mpr ⟨text, hy⟩⟩
  · intro hcheck
    -- Without the check the run would print, since there is no file to write.
    have hprint := Invocation.does_print_iff h hi.withoutCheck rfl rfl (hi.check_output hcheck)
    refine ⟨hends.eq_of_check hcheck, fun ho => ?_, ?_⟩
    · rcases hends.code_eq_zero_iff.mp ho with ⟨text, result, hy, hsame⟩
      rw [if_pos hcheck] at hsame
      subst hsame
      exact ⟨result, hy.reads, (hprint result).mpr ⟨result, hy⟩⟩
    · rintro ⟨text, hreads, hdoes⟩
      rcases (hprint text).mp hdoes with ⟨text', hy⟩
      have htext : text' = text := Invocation.Yields.reads hy |>.unique hreads
      subst htext
      refine hends.code_eq_zero_iff.mpr ⟨text', text', hy, ?_⟩
      rw [if_pos hcheck]

/-- A machine with these files and no folder but the root. -/
def Machine.ofFiles (files : List (Place × String)) : Machine where
  entries place := (files.lookup place).map fun text => .file text.toUTF8

/-- A name of one character has no parts, unless it is the separator. -/
theorem splitOn_of_single {name : String} (hstart : ¬ String.Pos.Raw.atEnd name 0 = true)
    (hslash : ¬ (String.Pos.Raw.get name 0 == String.Pos.Raw.get "/" 0) = true)
    (hend : String.Pos.Raw.atEnd name (String.Pos.Raw.next name 0) = true)
    (hname : String.Pos.Raw.extract name 0 (String.Pos.Raw.next name 0) = name) :
    name.splitOn "/" = [name] := by
  have hnext : (0 : String.Pos.Raw).unoffsetBy 0 = 0 := rfl
  rw [String.splitOn, if_neg (by decide), String.splitOnAux, if_neg hstart, if_neg hslash,
    String.splitOnAux, hnext, if_pos hend, hname]
  rfl

/-- A name without slashes is a path to its place in the working folder. -/
theorem Machine.locate?_name {w : Machine} {name : String} (hsplit : name.splitOn "/" = [name])
    (hstart : name.startsWith "/" = false) (hname : name ∉ ["", ".", ".."])
    (hfolder : w.isFolder w.folder) : w.locate? false name = some (w.folder ++ [name]) := by
  simp only [List.mem_cons, List.not_mem_nil, or_false, not_or] at hname
  unfold locate?
  rw [hsplit, if_neg (by simpa using hname.1), hstart]
  simp [follow?, hfolder, hname]

/-- A text that is written over itself with the newline that it lacks, and the same text when it is
    only checked. -/
theorem Machine.effects_perform_over_input :
    let w := Machine.ofFiles [(["a"], "One line."), (["s"], "[stringify]\nbullet = \"*\"\n")]
    (w.perform ["-c", "s", "-o", "a", "a"]).2.read "a" = .ok "One line.\n".toUTF8 ∧
      (w.perform ["-c", "s", "--check", "a"]).2 = w ∧
      (w.perform ["-c", "s", "--check", "a"]).1.code ≠ 0 := by
  intro w
  let i : Invocation := { input := some "a", settings := some "s" }
  -- Both paths are names in the current directory.
  have hsplit : "a".splitOn "/" = ["a"] :=
    splitOn_of_single (by decide) (by decide) (by decide) (by decide)
  have hsplit' : "s".splitOn "/" = ["s"] :=
    splitOn_of_single (by decide) (by decide) (by decide) (by decide)
  have ha : w.locate? false "a" = some ["a"] :=
    Machine.locate?_name hsplit (by simp) (by decide) rfl
  have hs : w.locate? false "s" = some ["s"] :=
    Machine.locate?_name hsplit' (by simp) (by decide) rfl
  -- What the run yields does not depend on whether it writes, so it is found once.
  have hsettings : i.SettlesOn w { render := { bullet := '*' } } := by
    refine .inl ⟨"[stringify]\nbullet = \"*\"\n", ?_, rfl⟩
    have hpath : i.settingsPath w = "s" := rfl
    rw [hpath, Machine.read, hs]
    rfl
  have hreads : i.Reads w "One line." := by
    have hinput : isInputPath "a" = false := by
      rw [isInputPath, hsplit]
      rfl
    have hfile : i.inputFile = some "a" := by
      simp [i, Invocation.inputFile, hinput]
    rw [Invocation.Reads, hfile, Option.elim_some, Machine.read, ha]
    rfl
  have hrender : i.RendersTo { render := { bullet := '*' } } "One line." "One line.\n" := by
    unfold Invocation.RendersTo
    decide +kernel
  have hy : i.Yields w "One line." "One line.\n" := ⟨_, hsettings, rfl, hreads, hrender⟩
  have hover : w.Accepts ["-c", "s", "-o", "a", "a"] { i with output := some "a" } :=
    ⟨_, rfl, rfl, by decide⟩
  have hchecks : w.Accepts ["-c", "s", "--check", "a"] { i with check := true } :=
    ⟨_, rfl, rfl, by decide⟩
  -- The two invocations share their input and their settings.
  rcases Machine.effects_perform hover with ⟨-, -, hwritten, -, -, hcode⟩
  rcases Machine.effects_perform hchecks with ⟨-, -, -, hcheck, -, hcode'⟩
  refine ⟨?_, (hcheck rfl).1, ?_⟩
  · have hwritable : ∀ path ∈ some "a", w.Writable path := by
      rintro path ⟨⟩
      exact ⟨["a"], ha, rfl⟩
    rcases hwritten "a" rfl (hcode.mpr ⟨_, _, hy, hwritable⟩) with ⟨text, result, hy', hread, -⟩
    rw [hread, (hy.unique hy').2]
  · -- The check fails because the newline is missing.
    intro ho
    rcases hcode'.mp ho with ⟨text, result, hy', hsame⟩
    rcases hy.unique hy' with ⟨rfl, rfl⟩
    rw [if_pos rfl] at hsame
    exact absurd hsame (by decide)

end Anchormark
