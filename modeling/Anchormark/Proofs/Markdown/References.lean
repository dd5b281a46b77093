import Anchormark.Markdown.Entity
import Anchormark.Text.Blank
import Mathlib.Data.List.TakeWhile

/-!
# What a Character Reference Is

A character reference is an ampersand, a name or a number, and a semicolon. A name is looked up in
a table that is finite and fixed, so what the names stand for can be checked entry by entry: one
code point or two, and never an ordinary character with white space behind it. A number stands for
one character.

Both are said without the scanner and without the table, so that nothing else has to look into
them.

## Main definitions

* `IsReferent`: what a reference can stand for.
* `IsReference`: what a reference is written as.

## Theorems

* `all_areReferent`: The table, entry by entry.
* `isReferent_namedEntity?`: What a name stands for.
* `number_go_spec`: What a number is written with.
* `exists_isReference_of_reference?`: What is read as a reference is one.
-/

namespace Anchormark.Markdown

/-- What a reference can stand for: a character, or two of which the second is no white space
    unless the first is. -/
inductive IsReferent : List Char → Prop
  | one (c : Char) : IsReferent [c]
  | two {c d : Char} (h : Text.isBlank d = true → Text.isBlank c = true) : IsReferent [c, d]

/-- An ampersand, a name or a number, and a semicolon. -/
def IsReference (written : List Char) : Prop :=
  ∃ name, written = '&' :: (name ++ [';']) ∧ name ≠ [] ∧
    ∀ c ∈ name, c.isAlphanum = true ∨ c = '#'

/-- The code points of an entry of the table are those of a referent. -/
def areReferent : List Nat → Bool
  | [_] => true
  | [m, n] => Text.isBlank (Char.ofNat m) || !Text.isBlank (Char.ofNat n)
  | _ => false

theorem isReferent_of_areReferent {points : List Nat} (h : areReferent points = true) :
    IsReferent (points.map Char.ofNat) := by
  match points, h with
  | [_], _ => exact .one _
  | [m, n], h =>
      refine .two fun hn => ?_
      rw [areReferent, hn, Bool.not_true, Bool.or_false] at h
      exact h

set_option maxRecDepth 4000 in
/-- The table, checked entry by entry. -/
theorem all_areReferent (letter : Char) :
    (EntityTable.forLetter letter).all (fun entry => areReferent entry.2) = true := by
  unfold EntityTable.forLetter
  split <;> rfl

/-- What a name of the table stands for. No name is empty. -/
theorem isReferent_namedEntity? {name value : List Char} (h : namedEntity? name = some value) :
    name ≠ [] ∧ IsReferent value := by
  cases name with
  | nil => exact absurd h (Option.some_ne_none value).symm
  | cons letter name =>
      refine ⟨List.cons_ne_nil letter name, ?_⟩
      simp only [namedEntity?, List.head?_cons, Option.bind_eq_bind, Option.bind_some,
        Option.bind_eq_some_iff, Option.pure_def, Option.some.injEq] at h
      rcases h with ⟨points, hlookup, rfl⟩
      rcases List.lookup_eq_some_iff.mp hlookup with ⟨front, back, htable, -⟩
      have hall := all_areReferent letter
      rw [htable, List.all_append, List.all_cons, Bool.and_eq_true, Bool.and_eq_true] at hall
      exact isReferent_of_areReferent hall.2.1

/-- A digit of a base is a letter or a decimal digit. -/
theorem isAlphanum_of_digitValue? {base : Nat} {c : Char} {d : Nat}
    (h : digitValue? base c = some d) : c.isAlphanum = true := by
  -- The three ranges are those of the reader, and the letters of a base end early.
  have hrange : ('0' ≤ c && c ≤ '9') = true ∨ ('a' ≤ c && c ≤ 'f') = true ∨
      ('A' ≤ c && c ≤ 'F') = true := by
    unfold digitValue? at h
    have hvalue := (Option.filter_eq_some_iff.mp h).1
    split at hvalue
    · next hdigit => exact .inl hdigit
    · split at hvalue
      · next hlower => exact .inr (.inl hlower)
      · split at hvalue
        · next hupper => exact .inr (.inr hupper)
        · simp only [reduceCtorEq] at hvalue
  have hf : 'f'.val ≤ 'z'.val := by decide
  have hF : 'F'.val ≤ 'Z'.val := by decide
  simp only [Bool.and_eq_true, decide_eq_true_eq, Char.le_def] at hrange
  rcases hrange with hdigit | hlower | hupper
  · have h : c.isDigit = true :=
      Bool.and_eq_true_iff.mpr ⟨decide_eq_true hdigit.1, decide_eq_true hdigit.2⟩
    exact Bool.or_eq_true_iff.mpr (.inr h)
  · have h : c.isLower = true :=
      Bool.and_eq_true_iff.mpr
        ⟨decide_eq_true hlower.1, decide_eq_true (UInt32.le_trans hlower.2 hf)⟩
    exact Bool.or_eq_true_iff.mpr (.inl (Bool.or_eq_true_iff.mpr (.inr h)))
  · have h : c.isUpper = true := decide_eq_true ⟨hupper.1, UInt32.le_trans hupper.2 hF⟩
    exact Bool.or_eq_true_iff.mpr (.inl (Bool.or_eq_true_iff.mpr (.inl h)))

/-- Reading a number takes digits off the front. The induction is on how many may follow. -/
theorem number_go_spec {base value length limit : Nat} {cs : List Char} {value' length' : Nat}
    {rest : List Char} (h : number.go base value length limit cs = (value', length', rest)) :
    ∃ digits, cs = digits ++ rest ∧ length' = length + digits.length ∧
      ∀ c ∈ digits, c.isAlphanum = true := by
  induction limit generalizing value length cs with
  -- The limit is reached, or there is no further digit: what is left is the rest.
  | zero =>
      simp only [number.go, Prod.mk.injEq] at h
      rcases h with ⟨-, rfl, rfl⟩
      exact ⟨[], rfl, rfl, fun c hc => absurd hc List.not_mem_nil⟩
  | succ limit ih =>
      cases cs with
      | nil =>
          simp only [number.go, Prod.mk.injEq] at h
          rcases h with ⟨-, rfl, rfl⟩
          exact ⟨[], rfl, rfl, fun c hc => absurd hc List.not_mem_nil⟩
      | cons c cs =>
          rw [number.go] at h
          split at h
          · next d hd =>
              rcases ih h with ⟨digits, rfl, rfl, hdigits⟩
              refine ⟨c :: digits, rfl, ?_, ?_⟩
              · rw [List.length_cons]
                omega
              · rw [List.forall_mem_cons]
                exact ⟨isAlphanum_of_digitValue? hd, hdigits⟩
          · simp only [Prod.mk.injEq] at h
            rcases h with ⟨-, rfl, rfl⟩
            exact ⟨[], rfl, rfl, fun c hc => absurd hc List.not_mem_nil⟩

/-- Of a digit or more and a semicolon a reference is made. `sign` is what stands before the
    digits. -/
theorem exists_isReference_of_number {base limit value length : Nat} (sign : List Char)
    (hsign : sign.all (fun c => c.isAlphanum || c = '#') = true) {cs rest : List Char}
    (h : number base limit cs = (value, length, ';' :: rest)) (hlength : length ≠ 0) :
    ∃ written, '&' :: (sign ++ cs) = written ++ rest ∧
      written.length = sign.length + 1 + length + 1 ∧ IsReference written := by
  rcases number_go_spec h with ⟨digits, rfl, rfl, hdigits⟩
  rw [Nat.zero_add] at hlength ⊢
  refine ⟨'&' :: (sign ++ digits ++ [';']), ?_, ?_, ⟨sign ++ digits, rfl, ?_, ?_⟩⟩
  · simp only [List.append_assoc, List.cons_append, List.nil_append]
  · simp only [List.length_cons, List.length_append, List.length_nil]
    omega
  · intro hnil
    rw [List.append_eq_nil_iff] at hnil
    exact hlength (List.length_eq_zero_iff.mpr hnil.2)
  · intro c hc
    rcases List.mem_append.mp hc with hc | hc
    · have hsign := List.all_eq_true.mp hsign c hc
      rwa [Bool.or_eq_true, decide_eq_true_eq] at hsign
    · exact .inl (hdigits c hc)

/-- A name of the table with a semicolon behind it makes one, too. -/
theorem exists_isReference_of_name {cs rest value : List Char}
    (hname : namedEntity? (cs.takeWhile Char.isAlphanum) = some value)
    (h : cs.drop (cs.takeWhile Char.isAlphanum).length = ';' :: rest) :
    ∃ written, '&' :: cs = written ++ rest ∧
      written.length = (cs.takeWhile Char.isAlphanum).length + 2 ∧ IsReference written := by
  have hprefix : cs.takeWhile Char.isAlphanum <+: cs := List.takeWhile_prefix _
  have hcs := List.prefix_iff_eq_append.mp hprefix
  rw [h] at hcs
  refine ⟨'&' :: (cs.takeWhile Char.isAlphanum ++ [';']), ?_, ?_,
    ⟨_, rfl, (isReferent_namedEntity? hname).1, fun c hc => .inl (List.mem_takeWhile_imp hc)⟩⟩
  · rw [List.cons_append, List.append_assoc, List.singleton_append, hcs]
  · rw [List.length_cons, List.length_append, List.length_singleton]

/-- What is read as a reference is one, and its length is the number of its characters. -/
theorem exists_isReference_of_reference? {cs value : List Char} {n : Nat}
    (h : reference? cs = some (n, value)) :
    ∃ written rest, cs = written ++ rest ∧ written.length = n ∧ IsReference written ∧
      IsReferent value := by
  unfold reference? at h
  split at h
  · next rest =>
      split at h
      next start point length back hnumber =>
      split at h
      · next tail =>
          split at h
          · simp only [reduceCtorEq] at h
          · next hlength =>
              simp only [Option.some.injEq, Prod.mk.injEq] at h
              rcases h with ⟨rfl, rfl⟩
              -- In base sixteen behind an `x`, and in base ten otherwise.
              have hread : ∃ written, '&' :: '#' :: rest = written ++ tail ∧
                  written.length = start + length + 1 ∧ IsReference written := by
                split at hnumber <;> rw [Prod.mk.injEq] at hnumber <;>
                  rcases hnumber with ⟨rfl, hnumber⟩
                · exact exists_isReference_of_number ['#', 'x'] rfl hnumber hlength
                · exact exists_isReference_of_number ['#', 'X'] rfl hnumber hlength
                · exact exists_isReference_of_number ['#'] rfl hnumber hlength
              rcases hread with ⟨written, hcs, hlen, hwritten⟩
              exact ⟨written, tail, hcs, hlen, hwritten, .one _⟩
      · simp only [reduceCtorEq] at h
  · next rest _ =>
      dsimp only at h
      split at h
      · next tail hdrop =>
          rcases Option.map_eq_some_iff.mp h with ⟨value', hname, heq⟩
          rw [Prod.mk.injEq] at heq
          rcases heq with ⟨rfl, rfl⟩
          -- Not a number but a name, which ends before the semicolon.
          rcases exists_isReference_of_name hname hdrop with ⟨written, hcs, hlen, hwritten⟩
          exact ⟨written, tail, hcs, hlen, hwritten, (isReferent_namedEntity? hname).2⟩
      · simp only [reduceCtorEq] at h
  · simp only [reduceCtorEq] at h

end Anchormark.Markdown
