import Anchormark.Markdown.Link
import Mathlib.Data.List.TakeWhile

/-!
# Addresses in Angle Brackets

An autolink holds an absolute address or a mail address and nothing else. This module says what
these are as a grammar, and that the readers take exactly that.

The readers take as much as they can of each part and then look at what follows. That gives nothing
away, since what separates the parts, a colon, an at sign or a dot, cannot stand in the part before
it.

## Main definitions

* `IsAbsolute`: an absolute address.
* `IsDomain`, `IsMail`: a domain, and a mail address.
* `IsAddress`: an address that an autolink may hold.

## Theorems

* `absoluteAddress?_iff`, `domain?_iff`, `mailAddress?_iff`: The readers take these.
* `autolink?_eq_some`, `autolink?_eq_none`: An address makes an autolink, and nothing else does.
-/

namespace Anchormark.Markdown

/-- A character of a scheme. -/
def isSchemeChar (c : Char) : Bool :=
  c.isAlphanum || c = '.' || c = '-' || c = '+'

/-- A character behind the colon of an absolute address. -/
def isAddressChar (c : Char) : Bool :=
  0x20 < c.toNat && c ≠ '>' && c ≠ '<'

/-- An absolute address: a scheme of 2 to 32 characters that begins with a letter, a colon, and
    anything without spaces and controls. -/
def IsAbsolute (cs : List Char) : Prop :=
  ∃ scheme rest, cs = scheme ++ ':' :: rest ∧ scheme.head?.any Char.isAlpha = true ∧
    2 ≤ scheme.length ∧ scheme.length ≤ 32 ∧ (∀ c ∈ scheme, isSchemeChar c = true) ∧
    ∀ c ∈ rest, isAddressChar c = true

/-- A character of a label of a domain. -/
def isLabelChar (c : Char) : Bool :=
  c.isAlphanum || c = '-'

/-- A label of a domain: at most 63 letters, digits and hyphens, without a hyphen at either end. -/
structure IsDomainLabel (name : List Char) : Prop where
  full : name ≠ []
  short : name.length ≤ 63
  first : name.head? ≠ some '-'
  last : name.getLast? ≠ some '-'
  chars : ∀ c ∈ name, isLabelChar c = true

/-- A domain: labels with a dot between each two. -/
inductive IsDomain : List Char → Prop
  | label {name : List Char} (h : IsDomainLabel name) : IsDomain name
  | dot {name more : List Char} (h : IsDomainLabel name) (hmore : IsDomain more) :
      IsDomain (name ++ '.' :: more)

/-- A character of a mailbox. -/
def isMailboxChar (c : Char) : Bool :=
  c.isAlphanum || ".!#$%&'*+/=?^_`\x7b|\x7d~-".toList.contains c

/-- A mail address: a mailbox, an at sign and a domain. -/
def IsMail (cs : List Char) : Prop :=
  ∃ mailbox domain, cs = mailbox ++ '@' :: domain ∧ mailbox ≠ [] ∧
    (∀ c ∈ mailbox, isMailboxChar c = true) ∧ IsDomain domain

/-- An address that may stand in angle brackets. -/
def IsAddress (cs : List Char) : Prop :=
  IsAbsolute cs ∨ IsMail cs

/-- What is taken of a part and left of it, up to a character that does not belong to it. -/
theorem takeAll_append {p : Char → Bool} {d : Char} (hd : p d = false) (cs rest : List Char) :
    takeAll p (cs ++ d :: rest) = (cs.takeWhile p, cs.dropWhile p ++ d :: rest) := by
  induction cs with
  | nil => simp [takeAll, hd]
  | cons c cs ih =>
      rw [takeAll, Prod.mk.injEq] at ih
      cases hc : p c with
      | true => simp [takeAll, hc, ih]
      | false => simp [takeAll, hc]

/-- A part ends in front of a character that does not belong to it. -/
theorem takeWhile_part {p : Char → Bool} {part : List Char} (hpart : ∀ c ∈ part, p c = true)
    {d : Char} (hd : p d = false) (rest : List Char) :
    (part ++ d :: rest).takeWhile p = part ∧ (part ++ d :: rest).dropWhile p = d :: rest := by
  rw [List.takeWhile_append_of_pos hpart, List.dropWhile_append_of_pos hpart]
  simp [hd]

section Address

variable {cs : List Char} (hcs : ∀ c ∈ cs, c ≠ '<' ∧ c ≠ '>')
include hcs

/-- What is left of the address when only the bracket is left. -/
theorem eq_nil_of_dropWhile {p : Char → Bool} {part rest : List Char} (hpart : part <:+ cs)
    (h : part.dropWhile p ++ ['>'] = '>' :: rest) :
    part.dropWhile p = [] ∧ rest = [] := by
  cases hdrop : part.dropWhile p with
  | nil =>
      rw [hdrop] at h
      exact ⟨rfl, (List.cons.inj h).2.symm⟩
  | cons d more =>
      rw [hdrop] at h
      have hmem : d ∈ part := (List.dropWhile_suffix p).subset (hdrop ▸ List.mem_cons_self)
      exact absurd (List.cons.inj h).1 (hcs d (hpart.subset hmem)).2

omit hcs in
/-- An absolute address, read part by part. -/
theorem absoluteAddress?_eq (l : List Char) :
    absoluteAddress? l =
      match takeAll isSchemeChar l with
      | (scheme, rest) =>
        match takeAll isAddressChar rest with
        | (address, rest) =>
          match address, rest with
          | ':' :: _, '>' :: rest =>
            if scheme.head?.any Char.isAlpha && 2 ≤ scheme.length && scheme.length ≤ 32 then
              some (scheme ++ address, rest)
            else none
          | _, _ => none :=
  rfl

/-- The reader takes an absolute address and nothing else. -/
theorem absoluteAddress?_iff (r : Reading) :
    absoluteAddress? (cs ++ ['>']) = some r ↔ r = (cs, []) ∧ IsAbsolute cs := by
  rw [absoluteAddress?_eq, takeAll_append (by decide)]
  dsimp only
  rw [takeAll_append (by decide)]
  dsimp only
  constructor
  · intro h
    split at h
    · next address rest haddress hrest =>
        -- Nothing of the address is left before the bracket.
        rcases eq_nil_of_dropWhile hcs (List.dropWhile_suffix _) hrest with ⟨hall, rfl⟩
        split at h
        · next hscheme =>
            have hcut := List.takeWhile_append_dropWhile (p := isSchemeChar) (l := cs)
            have hcut' := List.takeWhile_append_dropWhile (p := isAddressChar)
              (l := cs.dropWhile isSchemeChar)
            rw [hall, List.append_nil, haddress] at hcut'
            rw [← hcut'] at hcut
            simp only [Bool.and_eq_true, decide_eq_true_eq] at hscheme
            refine ⟨?_, cs.takeWhile isSchemeChar, address, hcut.symm, hscheme.1.1, hscheme.1.2,
              hscheme.2, fun c hc => List.mem_takeWhile_imp hc, fun c hc => ?_⟩
            · rw [haddress, hcut, Option.some.injEq] at h
              exact h.symm
            · have hmem : c ∈ (cs.dropWhile isSchemeChar).takeWhile isAddressChar := by
                rw [haddress]
                exact List.mem_cons_of_mem _ hc
              exact List.mem_takeWhile_imp hmem
        · exact absurd h (Option.some_ne_none _).symm
    · exact absurd h (Option.some_ne_none _).symm
  · rintro ⟨rfl, scheme, rest, rfl, hletter, hlong, hshort, hscheme, hrest⟩
    rcases takeWhile_part hscheme (show isSchemeChar ':' = false by decide) rest with
      ⟨htaken, hleft⟩
    have haddress : ∀ c ∈ ':' :: rest, isAddressChar c = true :=
      List.forall_mem_cons.mpr ⟨by decide, hrest⟩
    rw [htaken, hleft, List.takeWhile_eq_self_iff.mpr haddress,
      List.dropWhile_eq_nil_iff.mpr haddress]
    simp [hletter, hlong, hshort]

omit hcs in
/-- A domain, read from the left. -/
theorem isDomain_iff (cs : List Char) :
    IsDomain cs ↔ IsDomainLabel (cs.takeWhile isLabelChar) ∧
      (cs.dropWhile isLabelChar = [] ∨
        ∃ more, cs.dropWhile isLabelChar = '.' :: more ∧ IsDomain more) := by
  constructor
  · intro h
    cases h with
    | label h =>
        rw [List.takeWhile_eq_self_iff.mpr h.chars, List.dropWhile_eq_nil_iff.mpr h.chars]
        exact ⟨h, .inl rfl⟩
    | @dot name more h hmore =>
        rcases takeWhile_part h.chars (show isLabelChar '.' = false by decide) more with
          ⟨htaken, hleft⟩
        rw [htaken, hleft]
        exact ⟨h, .inr ⟨more, rfl, hmore⟩⟩
  · rintro ⟨hlabel, hrest⟩
    rw [← List.takeWhile_append_dropWhile (p := isLabelChar) (l := cs)]
    rcases hrest with hnil | ⟨more, hdot, hmore⟩
    · rw [hnil, List.append_nil]
      exact .label hlabel
    · rw [hdot]
      exact .dot hlabel hmore

omit hcs in
/-- One label of a domain, and what comes behind it. -/
theorem domain?_succ (limit : Nat) (l : List Char) :
    domain? (limit + 1) l =
      match takeAll isLabelChar l with
      | (name, rest) =>
        if name.isEmpty || 63 < name.length || name.head? = some '-' ||
            name.getLast? = some '-' then none
        else
          match rest with
          | '.' :: rest => (domain? limit rest).map (Reading.prepend (name ++ ['.']))
          | _ => some (name, rest) :=
  rfl

omit hcs in
/-- What is taken for a label is one, or the reader gives up. -/
theorem isDomainLabel_iff (cs : List Char) :
    IsDomainLabel (cs.takeWhile isLabelChar) ↔
      ((cs.takeWhile isLabelChar).isEmpty || 63 < (cs.takeWhile isLabelChar).length ||
        (cs.takeWhile isLabelChar).head? = some '-' ||
        (cs.takeWhile isLabelChar).getLast? = some '-') = false := by
  simp only [Bool.or_eq_false_iff, List.isEmpty_eq_false_iff, decide_eq_false_iff_not, Nat.not_lt]
  constructor
  · rintro ⟨hfull, hshort, hfirst, hlast, -⟩
    exact ⟨⟨⟨hfull, hshort⟩, hfirst⟩, hlast⟩
  · rintro ⟨⟨⟨hfull, hshort⟩, hfirst⟩, hlast⟩
    exact ⟨hfull, hshort, hfirst, hlast, fun c hc => List.mem_takeWhile_imp hc⟩

omit hcs in
/-- Behind a label and a dot the domain goes on with what is read there. -/
theorem prepend_domain?_iff {limit : Nat} {name more domain rest : List Char}
    (hmore : ∀ found, domain? limit (more ++ ['>']) = some (found, '>' :: rest) ↔
      found = more ∧ rest = [] ∧ IsDomain more) :
    (domain? limit (more ++ ['>'])).map (Reading.prepend (name ++ ['.'])) =
        some (domain, '>' :: rest) ↔
      domain = name ++ '.' :: more ∧ rest = [] ∧ IsDomain more := by
  rw [Option.map_eq_some_iff]
  constructor
  · rintro ⟨⟨found, behind⟩, hread, heq⟩
    rw [Reading.prepend, Prod.mk.injEq] at heq
    rcases heq with ⟨rfl, rfl⟩
    rcases (hmore found).mp hread with ⟨rfl, hrest, hdomain⟩
    exact ⟨by simp, hrest, hdomain⟩
  · rintro ⟨rfl, hrest, hdomain⟩
    exact ⟨_, (hmore more).mpr ⟨rfl, hrest, hdomain⟩, by simp [Reading.prepend]⟩

omit hcs in
/-- Where no dot is behind a label, the domain ends. -/
theorem behindLabel_of_ne_dot {limit : Nat} {name more : List Char} {d : Char} (hd : d ≠ '.') :
    (match d :: more with
      | '.' :: rest => (domain? limit rest).map (Reading.prepend (name ++ ['.']))
      | _ => some (name, d :: more)) = some (name, d :: more) := by
  split
  · next h => exact absurd (List.cons.inj h).1 hd
  · rfl

/-- The reader takes a domain as a whole, and what it takes up to the bracket is one. The induction
    is on the limit, which is above the number of characters and hence of labels. -/
theorem domain?_iff {limit : Nat} (hlimit : cs.length < limit) (domain rest : List Char) :
    domain? limit (cs ++ ['>']) = some (domain, '>' :: rest) ↔
      domain = cs ∧ rest = [] ∧ IsDomain cs := by
  induction limit generalizing cs domain with
  | zero => exact absurd hlimit (Nat.not_lt_zero _)
  | succ limit ih =>
      have hcut := List.takeWhile_append_dropWhile (p := isLabelChar) (l := cs)
      rw [domain?_succ, takeAll_append (by decide), isDomain_iff, isDomainLabel_iff]
      dsimp only
      generalize cs.takeWhile isLabelChar = name at hcut ⊢
      cases hlabel : (name.isEmpty || 63 < name.length || name.head? = some '-' ||
        name.getLast? = some '-') with
      -- A label that is empty or too long, or has a dash at an end, makes neither.
      | true => simp
      | false =>
          rw [if_neg Bool.false_ne_true]
          cases hleft : cs.dropWhile isLabelChar with
          | nil =>
              -- The label is all there is.
              rw [hleft, List.append_nil] at hcut
              simp [hcut, eq_comm]
          | cons d more =>
              rw [hleft] at hcut
              by_cases hd : d = '.'
              · subst hd
                have hmore : ∀ c ∈ more, c ≠ '<' ∧ c ≠ '>' := fun c hc =>
                  hcs c (by rw [← hcut]; simp [hc])
                have hlength := congrArg List.length hcut
                rw [List.length_append, List.length_cons] at hlength
                have hlimit' : more.length < limit := by omega
                refine (prepend_domain?_iff (ih hmore hlimit')).trans ?_
                rw [hcut]
                simp
              · -- Something else stands in front of the bracket.
                have hmem : d ∈ cs := by
                  rw [← hcut]
                  simp
                have hd' : d ≠ '>' := (hcs d hmem).2
                rw [List.cons_append, behindLabel_of_ne_dot hd]
                simp [hd, hd']

omit hcs in
/-- A mail address, read part by part. -/
theorem mailAddress?_eq (l : List Char) :
    mailAddress? l =
      match takeAll isMailboxChar l with
      | (mailbox, rest) =>
        match mailbox, rest with
        | _ :: _, '@' :: rest => do
          let (domain, rest) ← domain? (rest.length + 1) rest
          match rest with
          | '>' :: rest => some (mailbox ++ '@' :: domain, rest)
          | _ => none
        | _, _ => none :=
  rfl

/-- The reader takes a mail address and nothing else. -/
theorem mailAddress?_iff (r : Reading) :
    mailAddress? (cs ++ ['>']) = some r ↔ r = (cs, []) ∧ IsMail cs := by
  have hlimit (l : List Char) : l.length < (l ++ ['>']).length + 1 := by
    rw [List.length_append]
    omega
  have hcut := List.takeWhile_append_dropWhile (p := isMailboxChar) (l := cs)
  rw [mailAddress?_eq, takeAll_append (by decide)]
  dsimp only
  constructor
  · intro h
    split at h
    · next c mailbox rest hmailbox hrest =>
        -- The at sign is the first character that is no part of a mailbox.
        cases hleft : cs.dropWhile isMailboxChar with
        | nil =>
            rw [hleft] at hrest
            exact absurd (List.cons.inj hrest).1 (by decide)
        | cons d more =>
            rw [hleft, List.cons_append, List.cons.injEq] at hrest
            rcases hrest with ⟨rfl, rfl⟩
            rw [hleft, hmailbox] at hcut
            have hmore : ∀ c ∈ more, c ≠ '<' ∧ c ≠ '>' := fun c hc =>
              hcs c (by rw [← hcut]; simp [hc])
            rcases Option.bind_eq_some_iff.mp h with ⟨⟨domain, behind⟩, hread, h⟩
            dsimp only at h
            split at h
            · rcases (domain?_iff hmore (hlimit more) _ _).mp hread with ⟨rfl, rfl, hdomain⟩
              rw [Option.some.injEq] at h
              refine ⟨?_, c :: mailbox, domain, hcut.symm, List.cons_ne_nil _ _, fun d hd => ?_,
                hdomain⟩
              · rw [← h, hmailbox, hcut]
              · exact List.mem_takeWhile_imp (hmailbox ▸ hd)
            · exact absurd h (Option.some_ne_none _).symm
    · exact absurd h (Option.some_ne_none _).symm
  · rintro ⟨rfl, mailbox, domain, rfl, hfull, hchars, hdomain⟩
    rcases takeWhile_part hchars (show isMailboxChar '@' = false by decide) domain with
      ⟨htaken, hleft⟩
    -- Back again, the mailbox is taken up to the at sign, and the domain as a whole.
    have hmore : ∀ c ∈ domain, c ≠ '<' ∧ c ≠ '>' := fun c hc => hcs c (by simp [hc])
    have hread := (domain?_iff hmore (hlimit domain) domain []).mpr ⟨rfl, rfl, hdomain⟩
    rcases List.exists_cons_of_ne_nil hfull with ⟨c, mailbox', rfl⟩
    rw [htaken, hleft]
    change Option.bind (domain? ((domain ++ ['>']).length + 1) (domain ++ ['>'])) _ = _
    rw [hread]
    rfl

/-- An address makes an autolink. -/
theorem autolink?_eq_some (haddress : IsAddress cs) :
    ∃ form, autolink? (cs ++ ['>']) = some (form, cs, []) ∧ form ≠ .inline := by
  rw [autolink?]
  cases habsolute : absoluteAddress? (cs ++ ['>']) with
  | some r =>
      rw [((absoluteAddress?_iff hcs r).mp habsolute).1]
      exact ⟨.autolink, rfl, LinkForm.noConfusion⟩
  | none =>
      have hmail : IsMail cs := by
        refine haddress.resolve_left fun h => ?_
        rw [(absoluteAddress?_iff hcs _).mpr ⟨rfl, h⟩] at habsolute
        exact Option.some_ne_none _ habsolute
      rw [(mailAddress?_iff hcs _).mpr ⟨rfl, hmail⟩]
      exact ⟨.email, rfl, LinkForm.noConfusion⟩

/-- Nothing else does. -/
theorem autolink?_eq_none (haddress : ¬ IsAddress cs) : autolink? (cs ++ ['>']) = none := by
  rw [autolink?]
  cases habsolute : absoluteAddress? (cs ++ ['>']) with
  | some r => exact absurd (.inl ((absoluteAddress?_iff hcs r).mp habsolute).2) haddress
  | none =>
      cases hmail : mailAddress? (cs ++ ['>']) with
      | some r => exact absurd (.inr ((mailAddress?_iff hcs r).mp hmail).2) haddress
      | none => rfl

end Address

end Anchormark.Markdown
