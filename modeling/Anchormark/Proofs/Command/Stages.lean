import Anchormark.Command.Run
import Anchormark.Host.Machine

/-!
# What the Stages Find

All stages of a run but the last one look at the world and change nothing. So each of them is told
by its results on a machine: settings that were found, a text that was read, and what became of the
text. A stage that has no result on a machine fails there.

`Inspects` says both of a stage. It goes through the steps that stages are made of, and the stage of
all stages is put together from the others by its rule for one step after another.

## Main definitions

* `Inspects`: A stage changes nothing and has exactly these results.
* `Machine.HoldsSettings`: A file holds settings.
* `Invocation.SettlesOn`: The settings of a run.
* `Invocation.Reads`: The text of a run.
* `Invocation.RendersTo`: What settings make of a text.
* `Invocation.Yields`: The text and the result of a run.

## Theorems

* `Inspects.bind`: One stage after another.
* `Invocation.inspects_loadSettings`, `Invocation.inspects_readText`: The first stages.
* `Invocation.inspects_result`: All stages but the last.
-/

namespace Anchormark

section Stages

variable {ε α β : Type} {w : Machine}

/-- The stage leaves the machine as it is, and its results there are those with the property. -/
def Inspects (x : ExceptT ε (StateM Machine) α) (w : Machine) (P : α → Prop) : Prop :=
  ∃ r, x.run.run w = (r, w) ∧ ∀ a, r = .ok a ↔ P a

namespace Inspects

theorem congr {x : ExceptT ε (StateM Machine) α} {P Q : α → Prop} (h : Inspects x w P)
    (hiff : ∀ a, P a ↔ Q a) : Inspects x w Q := by
  rcases h with ⟨r, hrun, hr⟩
  exact ⟨r, hrun, fun a => (hr a).trans (hiff a)⟩

theorem result (a : α) : Inspects (pure a : ExceptT ε (StateM Machine) α) w (· = a) := by
  refine ⟨.ok a, rfl, fun _ => ⟨?_, ?_⟩⟩
  · intro h
    exact (Except.ok.inj h).symm
  · intro h
    rw [h]

/-- What fails has no results. -/
theorem failure (e : ε) :
    Inspects (throw e : ExceptT ε (StateM Machine) α) w fun _ => False := by
  refine ⟨.error e, rfl, fun _ => ⟨?_, False.elim⟩⟩
  intro h
  cases h

/-- A value that may be missing is there, or not, on any machine. -/
theorem lift (r : Except ε α) :
    Inspects (liftM r : ExceptT ε (StateM Machine) α) w (r = .ok ·) := by
  refine ⟨r, ?_, fun _ => Iff.rfl⟩
  cases r <;> rfl

/-- One step after another: the second one begins with the answer and the machine of the first. -/
theorem run_bind (x : ExceptT ε (StateM Machine) α) (f : α → ExceptT ε (StateM Machine) β) :
    (x >>= f).run.run w = (ExceptT.bindCont f (x.run.run w).1).run (x.run.run w).2 :=
  rfl

/-- What is only asked of the machine has one answer, and the rest goes on with it. -/
theorem ask {x : ExceptT ε (StateM Machine) α} {f : α → ExceptT ε (StateM Machine) β} {a : α}
    {P : β → Prop} (hx : x.run.run w = (.ok a, w)) (h : Inspects (f a) w P) :
    Inspects (x >>= f) w P := by
  rcases h with ⟨r, hf, hr⟩
  exact ⟨r, by rw [run_bind, hx]; exact hf, hr⟩

/-- One stage after another. -/
theorem bind {x : ExceptT ε (StateM Machine) α} {f : α → ExceptT ε (StateM Machine) β}
    {P : α → Prop} {Q : α → β → Prop} (hx : Inspects x w P)
    (hf : ∀ a, P a → Inspects (f a) w (Q a)) :
    Inspects (x >>= f) w fun b => ∃ a, P a ∧ Q a b := by
  rcases hx with ⟨r, hrun, hr⟩
  cases r with
  | error e =>
      refine ⟨.error e, by rw [run_bind, hrun]; rfl, fun b => ⟨?_, ?_⟩⟩
      · intro h
        cases h
      · rintro ⟨a, ha, -⟩
        cases (hr a).mpr ha
  | ok a =>
      -- There is no other result of the first stage to go on with.
      have ha : P a := (hr a).mp rfl
      rcases hf a ha with ⟨s, hs, hQ⟩
      refine ⟨s, by rw [run_bind, hrun]; exact hs, fun b => ⟨fun h => ⟨a, ha, (hQ b).mp h⟩, ?_⟩⟩
      rintro ⟨c, hc, hb⟩
      cases (hr c).mpr hc
      exact (hQ b).mpr hb

/-- There is at most one result. -/
theorem unique {x : ExceptT ε (StateM Machine) α} {P : α → Prop} (h : Inspects x w P) {a b : α}
    (ha : P a) (hb : P b) : a = b := by
  rcases h with ⟨r, -, hr⟩
  exact Except.ok.inj (((hr a).mpr ha).symm.trans ((hr b).mpr hb))

end Inspects

end Stages

/-- Another error is no result either. -/
theorem mapError_eq_ok_iff {ε ε' α : Type} {f : ε → ε'} {x : Except ε α} {a : α} :
    x.mapError f = .ok a ↔ x = .ok a := by
  cases x with
  | error e =>
      constructor <;>
      · intro h
        cases h
  | ok b =>
      have hmap : (Except.ok b : Except ε α).mapError f = .ok b := rfl
      rw [hmap, Except.ok.injEq, Except.ok.injEq]

/-- The bytes of a text are its encoding. -/
theorem fromUTF8?_eq_some_iff {bytes : ByteArray} {text : String} :
    String.fromUTF8? bytes = some text ↔ bytes = text.toUTF8 := by
  rw [String.toUTF8_eq_toByteArray]
  unfold String.fromUTF8?
  constructor
  · intro h
    by_cases hvalid : bytes.IsValidUTF8
    · rw [dif_pos hvalid] at h
      rw [← Option.some.inj h]
      rfl
    · rw [dif_neg hvalid] at h
      cases h
  · rintro rfl
    rw [dif_pos text.isValidUTF8]
    rfl

namespace Settings

/-- Settings come from a file that can be read and holds them. -/
theorem ofContent_eq_some_iff {path : String} {r : Except ReadFailure ByteArray} {s : Settings} :
    ofContent path r = .ok (some s) ↔
      ∃ text : String, r = .ok text.toUTF8 ∧ read? text = some s := by
  constructor
  · intro h
    unfold ofContent at h
    split at h
    · cases h
    · cases h
    · next bytes =>
        split at h
        · cases h
        · next text htext =>
            split at h
            · cases h
            · next found hfound =>
                cases h
                exact ⟨text, by rw [fromUTF8?_eq_some_iff.mp htext], hfound⟩
  · rintro ⟨text, rfl, hread⟩
    simp only [ofContent, fromUTF8?_eq_some_iff.mpr rfl, hread]

/-- There are none if there is no file. -/
theorem ofContent_eq_none_iff (path : String) (r : Except ReadFailure ByteArray) :
    ofContent path r = .ok none ↔ r = .error .missing := by
  constructor
  · intro h
    unfold ofContent at h
    split at h
    · rfl
    · cases h
    · split at h
      · cases h
      · split at h <;> cases h
  · rintro rfl
    rfl

end Settings

/-- The file at this path holds these settings. -/
def Machine.HoldsSettings (w : Machine) (path : String) (s : Settings) : Prop :=
  ∃ text : String, w.read path = .ok text.toUTF8 ∧ Settings.read? text = some s

namespace Invocation

variable {w : Machine}

/-- Where the settings of the run are looked for. -/
def settingsPath (i : Invocation) (w : Machine) : String :=
  match i.settings with
  | none => Settings.defaultPath w.environment
  | some path => (expandPath? w.environment path).getD path

/-- The settings of the run. Only those that nobody asked for may be missing, and then each of them
    is the default. -/
def SettlesOn (i : Invocation) (w : Machine) (s : Settings) : Prop :=
  w.HoldsSettings (i.settingsPath w) s ∨
    i.settings = none ∧ w.read (i.settingsPath w) = .error .missing ∧ s = {}

/-- What a file holds is what is found in it. -/
theorem holdsSettings_iff {path : String} {s : Settings} :
    w.HoldsSettings path s ↔ Settings.ofContent path (w.read path) = .ok (some s) :=
  Settings.ofContent_eq_some_iff.symm

/-- The first stage finds the settings. The two ways to look for them differ in what a missing file
    means. -/
theorem inspects_loadSettings (i : Invocation) :
    Inspects (i.loadSettings Machine.host) w (i.SettlesOn w) := by
  unfold loadSettings SettlesOn settingsPath
  cases i.settings with
  | none =>
      -- No file was named, so a missing one at the default place means the default settings.
      have hfound := Settings.ofContent_eq_none_iff (Settings.defaultPath w.environment)
        (w.read (Settings.defaultPath w.environment))
      refine Inspects.ask (a := Settings.ofContent (Settings.defaultPath w.environment)
        (w.read (Settings.defaultPath w.environment))) rfl ?_
      simp only [holdsSettings_iff, true_and, ← hfound]
      cases Settings.ofContent (Settings.defaultPath w.environment)
          (w.read (Settings.defaultPath w.environment)) with
      | error e =>
          refine (Inspects.failure _).congr fun s => ?_
          simp
      | ok found =>
          refine (Inspects.result _).congr fun s => ?_
          cases found <;> simp [eq_comm]
  | some path =>
      -- The file that was named has to be there.
      refine Inspects.ask (a := w.environment) rfl ?_
      refine Inspects.ask (a := Settings.ofContent ((expandPath? w.environment path).getD path)
        (w.read ((expandPath? w.environment path).getD path))) rfl ?_
      simp only [holdsSettings_iff, reduceCtorEq, false_and, or_false]
      cases Settings.ofContent ((expandPath? w.environment path).getD path)
          (w.read ((expandPath? w.environment path).getD path)) with
      | error e =>
          refine (Inspects.failure _).congr fun s => ?_
          simp
      | ok found =>
          cases found with
          | none =>
              refine (Inspects.failure _).congr fun s => ?_
              simp
          | some found =>
              refine (Inspects.result _).congr fun s => ?_
              simp [eq_comm]

/-- The text of the run: that of the file, or that of the input. -/
def Reads (i : Invocation) (w : Machine) (text : String) : Prop :=
  i.inputFile.elim (.ok w.input) w.read = .ok text.toUTF8

/-- Different texts have different encodings. -/
theorem Reads.unique {i : Invocation} {text text' : String} (h : i.Reads w text)
    (h' : i.Reads w text') : text = text' := by
  have hbytes := Except.ok.inj (h.symm.trans h')
  rw [String.toUTF8_eq_toByteArray, String.toUTF8_eq_toByteArray] at hbytes
  exact String.toByteArray_inj.mp hbytes

/-- The text is read. Where it comes from makes no difference for how it is decoded. -/
theorem inspects_readText (i : Invocation) :
    Inspects (i.readText Machine.host) w (i.Reads w) := by
  unfold readText
  extract_lets decode
  -- Bytes that are no text in UTF-8 are a failure of this stage.
  have hdecode : ∀ content, Inspects (decode content) w (content = .ok ·.toUTF8) := by
    intro content
    dsimp only [decode]
    cases content with
    | error e =>
        refine (Inspects.failure _).congr fun text => ?_
        simp
    | ok bytes =>
        simp only [Except.toOption, Option.bind_some, Except.ok.injEq, ← fromUTF8?_eq_some_iff]
        cases String.fromUTF8? bytes with
        | none =>
            refine (Inspects.failure _).congr fun text => ?_
            simp
        | some text =>
            refine (Inspects.result _).congr fun other => ?_
            simp [eq_comm]
  clear_value decode
  unfold Reads
  cases i.inputFile with
  | none => exact Inspects.ask (a := .ok w.input) rfl (hdecode _)
  | some path => exact Inspects.ask (a := w.read path) rfl (hdecode _)

/-- What these settings make of a text. -/
def RendersTo (i : Invocation) (s : Settings) (text result : String) : Prop :=
  let p := Pipeline.installStandard { options := s.pipelineOptions }
  if i.tree then (p.run (p.parse text) text).outline = result else p.process text = .ok result

/-- All stages but the last succeed, with this text and this result. -/
def Yields (i : Invocation) (w : Machine) (text result : String) : Prop :=
  ∃ s, i.SettlesOn w s ∧ s.render.validate = .ok () ∧ i.Reads w text ∧ i.RendersTo s text result

theorem Yields.reads {i : Invocation} {text result : String} (h : i.Yields w text result) :
    i.Reads w text := by
  rcases h with ⟨s, -, -, hreads, -⟩
  exact hreads

/-- A pipeline is made of valid options. -/
theorem new?_eq_ok_iff {s : Settings} {p : Pipeline} :
    (Pipeline.new? s.pipelineOptions).mapError CommandError.invalidSettings = .ok p ↔
      s.render.validate = .ok () ∧ p = { options := s.pipelineOptions } := by
  rw [mapError_eq_ok_iff]
  unfold Pipeline.new?
  dsimp only [Settings.pipelineOptions]
  cases s.render.validate with
  | error e => simp
  | ok => simp [eq_comm]

/-- The last of these stages renders. -/
theorem render_eq_ok_iff {i : Invocation} {s : Settings} {text result : String} :
    i.render (Pipeline.installStandard { options := s.pipelineOptions }) text = .ok result ↔
      i.RendersTo s text result := by
  unfold Invocation.render RendersTo
  cases i.tree with
  | false => exact mapError_eq_ok_iff
  | true => exact ⟨Except.ok.inj, congrArg Except.ok⟩

/-- All stages but the last. -/
theorem inspects_result (i : Invocation) :
    Inspects (i.result Machine.host) w fun p => i.Yields w p.1 p.2 := by
  unfold result
  have h := (i.inspects_loadSettings (w := w)).bind fun s _ =>
    (Inspects.lift ((Pipeline.new? s.pipelineOptions).mapError CommandError.invalidSettings)).bind
      fun p _ => i.inspects_readText.bind fun text _ =>
        (Inspects.lift (i.render p.installStandard text)).bind fun r _ =>
          Inspects.result (text, r)
  refine h.congr fun p => ?_
  constructor
  · rintro ⟨s, hs, p, hp, text, htext, r, hr, rfl⟩
    rcases new?_eq_ok_iff.mp hp with ⟨hvalid, rfl⟩
    exact ⟨s, hs, hvalid, htext, render_eq_ok_iff.mp hr⟩
  · rintro ⟨s, hs, hvalid, htext, hr⟩
    have hp := new?_eq_ok_iff.mpr ⟨hvalid, rfl⟩
    exact ⟨s, hs, _, hp, p.1, htext, p.2, render_eq_ok_iff.mpr hr, rfl⟩

/-- A machine has at most one text and one result for a run. -/
theorem Yields.unique {i : Invocation} {text text' result result' : String}
    (h : i.Yields w text result) (h' : i.Yields w text' result') :
    text = text' ∧ result = result' :=
  Prod.mk.inj (i.inspects_result.unique (a := (text, result)) (b := (text', result')) h h')

end Invocation

end Anchormark
