import Anchormark.Command.Arguments

/-!
# Which Invocations There Are

Arguments are read from left to right, and much can be wrong with them. What comes out when nothing
is wrong can be said without the reading: no name in the invocation is empty, and it does not ask to
check and to write, nor to check and to show the tree. Every such invocation can be asked for, too,
since there is a way to write it down: the options by their long names, and the file to read behind
two dashes, where a name may look like an option.

The first half is an invariant of the reading. A name gets into the invocation by three functions,
and each of them refuses the empty one; the options that exclude each other are looked at when all
words have been read.

## Main definitions

* `Invocation.IsNamed`: No name in it is empty.
* `Invocation.IsAskable`: Moreover, its options do not exclude each other.
* `Invocation.toArguments`: The arguments for an invocation.

## Theorems

* `Invocation.isNamed_options`: The options of a word keep the invariant.
* `Invocation.isAskable_arguments`: What is read can be asked for.
* `Invocation.ofArguments_toArguments`: What can be asked for is read.
* `exists_ofArguments_iff`: Both together.
-/

namespace Anchormark

section Results

variable {ε α β : Type} {x : Except ε α} {b : β}

/-- What goes on has a result only if there was one to go on with. -/
theorem exists_of_bind_eq_ok {f : α → Except ε β} (h : x.bind f = .ok b) :
    ∃ a, x = .ok a ∧ f a = .ok b := by
  cases x with
  | error _ => cases h
  | ok a => exact ⟨a, rfl, h⟩

theorem exists_of_map_eq_ok {f : α → β} (h : x.map f = .ok b) : ∃ a, x = .ok a ∧ f a = b := by
  cases x with
  | error _ => cases h
  | ok a => exact ⟨a, rfl, Except.ok.inj h⟩

end Results

namespace Invocation

/-- No name in the invocation is empty. -/
structure IsNamed (i : Invocation) : Prop where
  input : i.input ≠ some ""
  output : i.output ≠ some ""
  settings : i.settings ≠ some ""

/-- No name is empty, and checking goes neither with writing nor with showing the tree. -/
structure IsAskable (i : Invocation) : Prop extends i.IsNamed where
  check_output : i.check = true → i.output = none
  check_tree : i.check = true → i.tree = false

/-- Nothing is written. -/
theorem IsAskable.withoutOutput {i : Invocation} (h : i.IsAskable) :
    { i with output := none }.IsAskable :=
  ⟨⟨h.input, by simp, h.settings⟩, fun _ => rfl, h.check_tree⟩

/-- Nothing is checked. -/
theorem IsAskable.withoutCheck {i : Invocation} (h : i.IsAskable) :
    { i with check := false }.IsAskable :=
  ⟨⟨h.input, h.output, h.settings⟩, by simp, by simp⟩

/-- The arguments for an invocation. -/
def toArguments (i : Invocation) : List String :=
  (if i.check then [Flag.check.name] else []) ++ (if i.tree then [Flag.tree.name] else []) ++
    (if i.verbose then [Flag.verbose.name] else []) ++
    (i.output.map (ValueOption.output.name ++ "=" ++ ·)).toList ++
    (i.settings.map (ValueOption.settings.name ++ "=" ++ ·)).toList ++
    (i.input.map fun input => ["--", input]).getD []

/-- An option without a value names nothing. -/
theorem isNamed_setFlag {i j : Invocation} {flag : Flag} (hi : i.IsNamed)
    (h : i.setFlag flag = .ok j) : j.IsNamed := by
  cases flag <;>
  · simp only [setFlag] at h
    split at h
    · cases h
    · cases h
      exact ⟨hi.input, hi.output, hi.settings⟩

/-- A value that is taken is not empty. -/
theorem isNamed_setValue {i j : Invocation} {option : ValueOption} {value : String}
    (hi : i.IsNamed) (h : i.setValue option value = .ok j) : j.IsNamed := by
  unfold setValue at h
  split at h
  · cases h
  · next hempty =>
      have hvalue : some value ≠ some "" := fun heq =>
        hempty (String.isEmpty_iff.mpr (Option.some.inj heq))
      cases option with
      | output =>
          dsimp only at h
          split at h
          · cases h
          · cases h
            exact ⟨hi.input, hvalue, hi.settings⟩
      | settings =>
          dsimp only at h
          split at h
          · cases h
          · cases h
            exact ⟨hi.input, hi.output, hvalue⟩

/-- A file name that is taken is not empty. -/
theorem isNamed_setInput {i j : Invocation} {word : String} (hi : i.IsNamed)
    (h : i.setInput word = .ok j) : j.IsNamed := by
  unfold setInput at h
  split at h
  · cases h
  · split at h
    · cases h
    · next hempty =>
        cases h
        exact ⟨fun heq => hempty (String.isEmpty_iff.mpr (Option.some.inj heq)), hi.output,
          hi.settings⟩

end Invocation

/-- What has been read of the arguments names nothing that is empty. A request for information is
    none to run anything. -/
def WordEnd.IsNamed : WordEnd → Prop
  | complete i => i.IsNamed
  | .open _ i => i.IsNamed
  | information request => ∀ i, request ≠ .run i

namespace Invocation

/-- A word that ends with the value of an option. -/
theorem isNamed_map_complete {i : Invocation} {option : ValueOption} {value : String}
    {e : WordEnd} (hi : i.IsNamed) (h : (i.setValue option value).map .complete = .ok e) :
    e.IsNamed := by
  rcases exists_of_map_eq_ok h with ⟨j, hset, rfl⟩
  exact isNamed_setValue hi hset

/-- The short options of a word. The induction is on its characters, since options without a value
    share the word with what follows. -/
theorem isNamed_shortOptions {i : Invocation} {cs : List Char} {e : WordEnd} (hi : i.IsNamed)
    (h : i.shortOptions cs = .ok e) : e.IsNamed := by
  induction cs generalizing i with
  | nil =>
      cases h
      exact hi
  | cons c cs ih =>
      unfold shortOptions at h
      extract_lets valued at h
      have hvalued : ∀ option, valued option = .ok e → e.IsNamed := by
        intro option hvalue
        dsimp only [valued] at hvalue
        split at hvalue
        · cases hvalue
          exact hi
        · exact isNamed_map_complete hi hvalue
        · exact isNamed_map_complete hi hvalue
      clear_value valued
      split at h
      · exact hvalued _ h
      · exact hvalued _ h
      · -- A flag. The other options follow in the same word.
        rcases exists_of_bind_eq_ok h with ⟨j, hset, h⟩
        exact ih (isNamed_setFlag hi hset) h
      · cases h
        exact fun _ heq => Request.noConfusion heq
      · cases h
        exact fun _ heq => Request.noConfusion heq
      · cases h

/-- A long option. -/
theorem isNamed_longOption {i : Invocation} {name : String} {value : Option String} {e : WordEnd}
    (hi : i.IsNamed) (h : i.longOption name value = .ok e) : e.IsNamed := by
  unfold longOption at h
  -- The four ways in which a long option is read: without a value, with one, as a flag, and as a
  -- request for information. Each of them keeps the names.
  extract_lets bare valued flag at h
  have hbare : ∀ result, (∀ e, result = .ok e → e.IsNamed) → bare result = .ok e → e.IsNamed := by
    intro result hresult hvalue
    dsimp only [bare] at hvalue
    split at hvalue
    · cases hvalue
    · exact hresult e hvalue
  have hvalued : ∀ option, valued option = .ok e → e.IsNamed := by
    intro option hvalue
    dsimp only [valued] at hvalue
    split at hvalue
    · cases hvalue
      exact hi
    · exact isNamed_map_complete hi hvalue
  have hflag : ∀ f, flag f = .ok e → e.IsNamed := by
    intro f
    refine hbare _ fun e hresult => ?_
    rcases exists_of_map_eq_ok hresult with ⟨j, hset, rfl⟩
    exact isNamed_setFlag hi hset
  have hinformation : ∀ request, (∀ i, request ≠ .run i) →
      bare (.ok (.information request)) = .ok e → e.IsNamed := by
    intro request hrequest
    refine hbare _ fun e hresult => ?_
    cases hresult
    exact hrequest
  clear_value bare valued flag
  split at h
  · exact hvalued _ h
  · exact hvalued _ h
  · exact hflag _ h
  · exact hflag _ h
  · exact hflag _ h
  · exact hinformation _ (fun _ heq => Request.noConfusion heq) h
  · exact hinformation _ (fun _ heq => Request.noConfusion heq) h
  · cases h

/-- The options of a word. -/
theorem isNamed_options {i : Invocation} {word : List Char} {e : WordEnd} (hi : i.IsNamed)
    (h : i.options word = .ok e) : e.IsNamed := by
  unfold options at h
  split at h
  · exact isNamed_longOption hi h
  · exact isNamed_shortOptions hi h

/-- Options are looked at together in the end. -/
theorem isAskable_validate {i j : Invocation} (hi : i.IsNamed)
    (h : i.validate.map Request.run = .ok (.run j)) : j.IsAskable := by
  rcases exists_of_map_eq_ok h with ⟨k, hvalid, hk⟩
  cases hk
  unfold validate at hvalid
  split at hvalid
  · cases hvalid
  · split at hvalid
    · cases hvalid
    · next houtput htree =>
        cases hvalid
        rw [Bool.and_eq_true, not_and, Bool.not_eq_true, Option.isSome_eq_false_iff,
          Option.isNone_iff_eq_none] at houtput
        rw [Bool.and_eq_true, not_and, Bool.not_eq_true] at htree
        exact ⟨hi, houtput, htree⟩

/-- The words behind two dashes. -/
theorem isAskable_inputs {i j : Invocation} {words : List String} (hi : i.IsNamed)
    (h : i.inputs words = .ok (.run j)) : j.IsAskable := by
  induction words generalizing i with
  | nil => exact isAskable_validate hi h
  | cons word words ih =>
      rcases exists_of_bind_eq_ok h with ⟨k, hset, h⟩
      exact ih (isNamed_setInput hi hset) h

/-- What is read can be asked for. The induction is on the words, with what has been read before
    them. -/
theorem isAskable_arguments {i j : Invocation} {waiting : Option ValueOption} {words : List String}
    (hi : i.IsNamed) (h : i.arguments waiting words = .ok (.run j)) : j.IsAskable := by
  induction words generalizing i waiting with
  | nil =>
      cases waiting with
      | none => exact isAskable_validate hi h
      | some option => cases h
  | cons word words ih =>
      cases waiting with
      | some option =>
          rw [arguments] at h
          split at h
          · -- The word is the value of the option before it, unless it looks like an option itself.
            cases h
          · rcases exists_of_bind_eq_ok h with ⟨k, hset, h⟩
            exact ih (isNamed_setValue hi hset) h
      | none =>
          rw [arguments] at h
          split at h
          · exact isAskable_inputs hi h
          · split at h
            · -- A word with options. Each way in which it may end keeps the invariant.
              split at h
              · cases h
              · next hoptions => exact ih (isNamed_options hi hoptions) h
              · next hoptions => exact ih (isNamed_options hi hoptions) h
              · next request hoptions =>
                  cases h
                  exact absurd rfl (isNamed_options hi hoptions j)
            · rcases exists_of_bind_eq_ok h with ⟨k, hset, h⟩
              exact ih (isNamed_setInput hi hset) h

/-- An option by its long name is read as that option. -/
theorem arguments_flag {i j : Invocation} {flag : Flag} (h : i.setFlag flag = .ok j)
    (words : List String) :
    i.arguments none (flag.name :: words) = j.arguments none words := by
  have hoptions : i.options flag.name.toList = .ok (.complete j) := by
    cases flag <;> simp [options, longOption, Flag.name, h, Except.map]
  have hdashes : flag.name ≠ "--" := by cases flag <;> decide
  have hlooks : looksLikeOption flag.name = true := by cases flag <;> decide
  rw [arguments, if_neg hdashes, if_pos hlooks, hoptions]

/-- An option with a value behind an equals sign is read as that option with that value. The name
    ends at the first equals sign, so the value may have some of its own. -/
theorem arguments_value {i j : Invocation} {option : ValueOption} {value : String}
    (h : i.setValue option value = .ok j) (words : List String) :
    i.arguments none ((option.name ++ "=" ++ value) :: words) = j.arguments none words := by
  have hword : (option.name ++ "=" ++ value).toList =
      option.name.toList ++ '=' :: value.toList := by
    simp [String.toList_append]
  have hoptions : i.options (option.name ++ "=" ++ value).toList = .ok (.complete j) := by
    rw [hword]
    cases option <;> simp [options, longOption, ValueOption.name, h, Except.map]
  have hdashes : option.name ++ "=" ++ value ≠ "--" := by
    intro heq
    have hlist := congrArg String.toList heq
    rw [hword] at hlist
    cases option <;> simp [ValueOption.name] at hlist
  have hlooks : looksLikeOption (option.name ++ "=" ++ value) = true := by
    unfold looksLikeOption
    rw [hword]
    cases option <;> rfl
  rw [arguments, if_neg hdashes, if_pos hlooks, hoptions]

/-- The words for an option that may be absent, and what has been read behind them. -/
theorem arguments_flagIf {i j : Invocation} {flag : Flag} {given : Bool}
    (hgiven : given = true → i.setFlag flag = .ok j) (habsent : given = false → i = j)
    (words : List String) :
    i.arguments none ((if given then [flag.name] else []) ++ words) = j.arguments none words := by
  cases given with
  | false =>
      rw [habsent rfl]
      rfl
  | true => exact arguments_flag (hgiven rfl) words

/-- The same for an option with a value. -/
theorem arguments_valueIf {i j : Invocation} {option : ValueOption} {given : Option String}
    (hgiven : ∀ value, given = some value → i.setValue option value = .ok j)
    (habsent : given = none → i = j) (words : List String) :
    i.arguments none ((given.map (option.name ++ "=" ++ ·)).toList ++ words) =
      j.arguments none words := by
  cases given with
  | none =>
      rw [habsent rfl]
      rfl
  | some value => exact arguments_value (hgiven value rfl) words

/-- A value that is not empty is taken, unless there is one. -/
theorem setValue_output {i : Invocation} {value : String} (hvalue : some value ≠ some "")
    (h : i.output = none) : i.setValue .output value = .ok { i with output := some value } := by
  have hempty : value.isEmpty = false := by simpa using hvalue
  simp [setValue, hempty, h]

theorem setValue_settings {i : Invocation} {value : String} (hvalue : some value ≠ some "")
    (h : i.settings = none) :
    i.setValue .settings value = .ok { i with settings := some value } := by
  have hempty : value.isEmpty = false := by simpa using hvalue
  simp [setValue, hempty, h]

theorem setInput_of_ne {i : Invocation} {word : String} (hword : some word ≠ some "")
    (h : i.input = none) : i.setInput word = .ok { i with input := some word } := by
  have hempty : word.isEmpty = false := by simpa using hword
  simp [setInput, hempty, h]

/-- Options that do not exclude each other are accepted. -/
theorem IsAskable.validate {i : Invocation} (hi : i.IsAskable) : i.validate = .ok i := by
  unfold Invocation.validate
  rw [if_neg, if_neg]
  · rintro h
    rw [Bool.and_eq_true] at h
    simp [hi.check_tree h.1] at h
  · rintro h
    rw [Bool.and_eq_true] at h
    simp [hi.check_output h.1] at h

/-- What can be asked for is read from the arguments for it. Each group of words adds one field to
    what was read of the groups before it. -/
theorem ofArguments_toArguments {i : Invocation} (hi : i.IsAskable) :
    Request.ofArguments i.toArguments = .ok (.run i) := by
  rcases i with ⟨input, output, settings, check, tree, verbose⟩
  unfold Request.ofArguments toArguments
  -- With the words in one row, each group is the front of what is still to be read.
  simp only [List.append_assoc]
  have hcheck : ∀ words, arguments {} none ((if check then [Flag.check.name] else []) ++ words) =
      arguments { check } none words := by
    refine arguments_flagIf ?_ ?_ <;>
    · rintro rfl
      rfl
  have htree : ∀ words,
      arguments { check } none ((if tree then [Flag.tree.name] else []) ++ words) =
        arguments { check, tree } none words := by
    refine arguments_flagIf ?_ ?_ <;>
    · rintro rfl
      rfl
  have hverbose : ∀ words,
      arguments { check, tree } none ((if verbose then [Flag.verbose.name] else []) ++ words) =
        arguments { check, tree, verbose } none words := by
    refine arguments_flagIf ?_ ?_ <;>
    · rintro rfl
      rfl
  have houtput : ∀ words,
      arguments { check, tree, verbose } none
          ((output.map (ValueOption.output.name ++ "=" ++ ·)).toList ++ words) =
        arguments { check, tree, verbose, output } none words := by
    refine arguments_valueIf ?_ ?_
    · rintro value rfl
      exact setValue_output hi.output rfl
    · rintro rfl
      rfl
  have hsettings : ∀ words,
      arguments { check, tree, verbose, output } none
          ((settings.map (ValueOption.settings.name ++ "=" ++ ·)).toList ++ words) =
        arguments { check, tree, verbose, output, settings } none words := by
    refine arguments_valueIf ?_ ?_
    · rintro value rfl
      exact setValue_settings hi.settings rfl
    · rintro rfl
      rfl
  rw [hcheck, htree, hverbose, houtput, hsettings]
  cases input with
  -- A word without a dash at its start is the input.
  | none =>
      simp [arguments, hi.validate, Except.map]
  | some word =>
      simp [arguments, inputs, setInput_of_ne hi.input, hi.validate, Except.map, Except.bind]

end Invocation

/-- The invocations that arguments can ask for. -/
theorem exists_ofArguments_iff {i : Invocation} :
    (∃ words, Request.ofArguments words = .ok (.run i)) ↔ i.IsAskable := by
  constructor
  · rintro ⟨words, h⟩
    exact Invocation.isAskable_arguments ⟨by decide, by decide, by decide⟩ h
  · exact fun hi => ⟨i.toArguments, Invocation.ofArguments_toArguments hi⟩

end Anchormark
