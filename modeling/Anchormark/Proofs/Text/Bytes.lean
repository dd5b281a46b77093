import Anchormark.Proofs.Text.Placement
import Anchormark.Text.ByteCursor

/-!
# Characters and Their Bytes

The UTF-8 form of a text is the forms of its characters, one behind the other. An ASCII character is
one byte, which is its code point. All bytes of any other character are above the ASCII range. So
an ASCII byte is always a character of its own, and whoever looks for one never finds it inside
another character.

An offset is a boundary if it falls between two characters, or at either end. The offsets at which
a text can be cut are its boundaries, and a slice is there exactly if both its ends are.

## Main definitions

* `bytesOf`: The UTF-8 form of characters.
* `IsBoundary`: An offset that falls between characters.

## Theorems

* `toList_toUTF8`: The bytes of a text are the bytes of its characters.
* `utf8EncodeChar_ascii`, `le_of_mem_utf8EncodeChar`: The two kinds of characters.
* `isBoundary_iff`: A boundary splits the characters.
* `isSome_sliceChars?_iff`: Slices lie between boundaries.
-/

namespace Anchormark.Text

/-- The UTF-8 form of the characters. -/
def bytesOf (cs : List Char) : List UInt8 :=
  cs.flatMap String.utf8EncodeChar

theorem bytesOf_cons (c : Char) (cs : List Char) :
    bytesOf (c :: cs) = String.utf8EncodeChar c ++ bytesOf cs :=
  List.flatMap_cons

theorem bytesOf_append (cs ds : List Char) : bytesOf (cs ++ ds) = bytesOf cs ++ bytesOf ds :=
  List.flatMap_append

theorem length_bytesOf (cs : List Char) : (bytesOf cs).length = byteLength cs := by
  induction cs with
  | nil => rfl
  | cons c cs ih =>
      rw [bytesOf_cons, List.length_append, String.length_utf8EncodeChar, ih, byteLength_cons]

/-- Bytes are listed from the first to the last. -/
theorem toList_byteArray (bytes : ByteArray) : bytes.toList = bytes.data.toList := by
  have hloop : ∀ i found, ByteArray.toList.loop bytes i found =
      found.reverse ++ bytes.data.toList.drop i := by
    intro i found
    fun_induction ByteArray.toList.loop bytes i found with
    | case1 i found h ih =>
        have hi : i < bytes.data.toList.length := h
        have hget : bytes.get! i = bytes.data.toList[i] := by
          simp [ByteArray.get!, h]
        rw [ih, List.drop_eq_getElem_cons hi, List.reverse_cons, List.append_assoc, hget]
        rfl
    | case2 i found h =>
        have hi : bytes.data.toList.length ≤ i := Nat.le_of_not_lt h
        rw [List.drop_eq_nil_of_le hi, List.append_nil]
  exact hloop 0 []

theorem toList_toUTF8 (s : String) : s.toUTF8.toList = bytesOf s.toList := by
  have hencode : s.toUTF8 = (bytesOf s.toList).toByteArray := by
    rw [String.toUTF8_eq_toByteArray, ← String.utf8Encode_toList]
    rfl
  rw [hencode, toList_byteArray, List.toList_data_toByteArray]

/-- An ASCII character is one byte. -/
theorem utf8EncodeChar_ascii {c : Char} (h : c.toNat < 128) :
    String.utf8EncodeChar c = [c.toUInt8] := by
  have hsize : c.utf8Size = 1 := by
    rw [Char.utf8Size_eq_one_iff, UInt32.le_iff_toNat_le]
    exact Nat.le_of_lt_succ h
  exact String.utf8EncodeChar_eq_singleton hsize

/-- No byte of another character is an ASCII byte. -/
theorem le_of_mem_utf8EncodeChar {c : Char} (h : 128 ≤ c.toNat) {b : UInt8}
    (hb : b ∈ String.utf8EncodeChar c) : 128 ≤ b.toNat := by
  have hlarge : ¬ c.val.toNat ≤ 127 := Nat.not_le.mpr h
  -- The bytes behind the first one have six bits of the code point.
  have hbehind (n : Nat) : 128 ≤ (UInt8.ofNat (n % 64 + 128)).toNat := by
    rw [UInt8.toNat_ofNat']
    omega
  unfold String.utf8EncodeChar at hb
  dsimp only at hb
  rw [if_neg hlarge] at hb
  split at hb
  · simp only [List.mem_cons, List.not_mem_nil, or_false] at hb
    rcases hb with rfl | rfl
    · rw [UInt8.toNat_ofNat']
      omega
    · exact hbehind _
  split at hb
  · simp only [List.mem_cons, List.not_mem_nil, or_false] at hb
    rcases hb with rfl | rfl | rfl
    · rw [UInt8.toNat_ofNat']
      omega
    · exact hbehind _
    · exact hbehind _
  · simp only [List.mem_cons, List.not_mem_nil, or_false] at hb
    rcases hb with rfl | rfl | rfl | rfl
    · rw [UInt8.toNat_ofNat']
      omega
    · exact hbehind _
    · exact hbehind _
    · exact hbehind _

/-- A byte of a character is an ASCII byte only if it is all of the character. -/
theorem eq_toUInt8_iff {c d : Char} (hd : d.toNat < 128) {b : UInt8}
    (hb : b ∈ String.utf8EncodeChar c) : b = d.toUInt8 ↔ c = d := by
  have hbyte {e : Char} (he : e.toNat < 128) : e.toUInt8.toNat = e.toNat := by
    have hmod : e.toUInt8.toNat = e.toNat % 256 := UInt32.toNat_toUInt8 e.val
    omega
  constructor
  · rintro rfl
    by_cases hc : c.toNat < 128
    · rw [utf8EncodeChar_ascii hc, List.mem_singleton] at hb
      have heq := congrArg UInt8.toNat hb
      rw [hbyte hc, hbyte hd] at heq
      exact Char.toNat_inj.mp heq.symm
    · have hle := le_of_mem_utf8EncodeChar (Nat.not_lt.mp hc) hb
      rw [hbyte hd] at hle
      omega
  · rintro rfl
    rw [utf8EncodeChar_ascii hd, List.mem_singleton] at hb
    exact hb

/-- A property of bytes that all bytes of a character share with it goes along the text. -/
theorem takeWhile_bytesOf {p : UInt8 → Bool} {q : Char → Bool}
    (h : ∀ c, ∀ b ∈ String.utf8EncodeChar c, p b = q c) (cs : List Char) :
    (bytesOf cs).takeWhile p = bytesOf (cs.takeWhile q) := by
  induction cs with
  | nil => rfl
  | cons c cs ih =>
      rw [bytesOf_cons, List.takeWhile_cons]
      cases hq : q c with
      | true =>
          rw [List.takeWhile_append_of_pos fun b hb => (h c b hb).trans hq, ih, if_pos rfl,
            bytesOf_cons]
      | false =>
          rcases List.exists_cons_of_ne_nil (String.utf8EncodeChar_ne_nil (c := c)) with
            ⟨b, bs, hbytes⟩
          have hb : p b = false := (h c b (hbytes ▸ List.mem_cons_self)).trans hq
          rw [hbytes, List.cons_append, List.takeWhile_cons, hb]
          rfl

/-- The offset falls between two characters, or at an end of the text. -/
def IsBoundary (n : Nat) (s : String) : Prop :=
  (⟨n⟩ : String.Pos.Raw).IsValid s

theorem utf8ByteSize_ofList (cs : List Char) : (String.ofList cs).utf8ByteSize = byteLength cs := by
  rw [← length_bytesOf, ← String.size_toByteArray, String.toByteArray_ofList]
  exact List.size_toByteArray

/-- The characters are split at a boundary. -/
theorem isBoundary_iff {n : Nat} {s : String} :
    IsBoundary n s ↔ ∃ front back, s.toList = front ++ back ∧ byteLength front = n := by
  rw [IsBoundary, String.Pos.Raw.isValid_iff_exists_append]
  constructor
  · rintro ⟨front, back, rfl, hn⟩
    refine ⟨front.toList, back.toList, String.toList_append, ?_⟩
    rw [← utf8ByteSize_ofList, String.ofList_toList]
    exact (congrArg String.Pos.Raw.byteIdx hn).symm
  · rintro ⟨front, back, hs, rfl⟩
    refine ⟨String.ofList front, String.ofList back, ?_, ?_⟩
    · rw [← String.ofList_append, ← hs, String.ofList_toList]
    · rw [← utf8ByteSize_ofList]
      rfl

/-- What stands between two parts of a text is the slice between their bytes. -/
theorem sliceChars?_append (front middle back : List Char) :
    sliceChars? (byteLength front) (byteLength (front ++ middle)) (front ++ (middle ++ back)) =
      some middle := by
  have hsize : byteLength (front ++ middle) - byteLength front = byteLength middle := by
    rw [byteLength_append, Nat.add_sub_cancel_left]
  have hle : byteLength front ≤ byteLength (front ++ middle) := by
    rw [byteLength_append]
    exact Nat.le_add_right _ _
  simp only [sliceChars?, hle, hsize, guard, if_true, cut?_byteLength, Option.pure_def,
    Option.bind_eq_bind, Option.bind_some]

/-- A slice is there exactly if it lies between two boundaries. -/
theorem isSome_sliceChars?_iff {start stop : Nat} {s : String} :
    (sliceChars? start stop s.toList).isSome = true ↔
      start ≤ stop ∧ IsBoundary start s ∧ IsBoundary stop s := by
  rw [isBoundary_iff, isBoundary_iff]
  constructor
  · intro h
    rcases Option.isSome_iff_exists.mp h with ⟨middle, hslice⟩
    simp only [sliceChars?, Option.bind_eq_bind, Option.bind_eq_some_iff, Option.guard_eq_some',
      Option.pure_def, Option.some.injEq, Prod.exists, exists_const] at hslice
    rcases hslice with ⟨hle, front, tail, hfront, middle', back, hback, rfl⟩
    rcases of_cut?_eq_some hfront with ⟨hs, rfl⟩
    rcases of_cut?_eq_some hback with ⟨rfl, hmiddle⟩
    refine ⟨hle, ⟨front, _, hs, rfl⟩, front ++ middle', back, by rw [hs, List.append_assoc], ?_⟩
    rw [byteLength_append]
    omega
  · rintro ⟨hle, ⟨front, tail, hs, rfl⟩, front', back, hs', rfl⟩
    -- The shorter front is a front of the longer one.
    have hprefix : front <+: front' := by
      have hfronts := List.prefix_or_prefix_of_prefix ⟨tail, hs.symm⟩ ⟨back, hs'.symm⟩
      rcases hfronts with hprefix | ⟨more, rfl⟩
      · exact hprefix
      · rw [byteLength_append] at hle
        have heq : byteLength (front' ++ more) = byteLength front' := by
          rw [byteLength_append]
          omega
        have hsame := (append_inj_of_byteLength (hs.symm.trans hs') heq).1
        exact ⟨[], by rw [List.append_nil, hsame]⟩
    rcases hprefix with ⟨middle, rfl⟩
    rw [hs', List.append_assoc, sliceChars?_append]
    rfl

end Anchormark.Text
