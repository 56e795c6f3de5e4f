import Mathlib.Data.List.Basic
import QueryLint.Text.Blank
import QueryLint.Text.Utf8

/-!
The bytes of a text. Encoding goes character by character: a character below 128 is one byte, and no
other character has such a byte in its encoding. So an ASCII character is found and replaced among the
bytes of a text as it is among its characters.
-/

namespace QueryLint.Text

/-! ### The bytes of a text -/

theorem toList_loop (bytes : ByteArray) (i : Nat) (taken : Bytes) :
    ByteArray.toList.loop bytes i taken = taken.reverse ++ bytes.data.toList.drop i := by
  fun_induction ByteArray.toList.loop bytes i taken with
  | case1 i taken more ih =>
    have inside : i < bytes.data.toList.length := by simpa using more
    have read : bytes.get! i = bytes.data[i]! := by cases bytes; rfl
    rw [ih, List.drop_eq_getElem_cons inside, List.reverse_cons, List.append_assoc, read,
      getElem!_pos bytes.data i more]
    rfl
  | case2 i taken done =>
    rw [List.drop_eq_nil_of_le (by simpa using Nat.le_of_not_lt done), List.append_nil]

theorem encode_eq (text : String) : encode text = text.toByteArray.data.toList := by
  unfold encode ByteArray.toList
  rw [toList_loop]
  rfl

theorem length_encode (text : String) : (encode text).length = text.utf8ByteSize := by
  rw [encode_eq]
  rfl

theorem encode_ne_nil {text : String} (spelled : text ≠ "") : encode text ≠ [] := by
  intro none
  rw [← List.length_eq_zero_iff, length_encode, String.utf8ByteSize_eq_zero_iff] at none
  exact spelled none

theorem encode_injective : Function.Injective encode := by
  intro first second same
  rw [encode_eq, encode_eq] at same
  apply String.toByteArray_inj.1
  exact ByteArray.ext (Array.toList_inj.1 same)

theorem encode_append (first second : String) :
    encode (first ++ second) = encode first ++ encode second := by
  rw [encode_eq, encode_eq, encode_eq, String.toByteArray_append, ByteArray.data_append,
    Array.toList_append]

theorem encode_ofList (characters : List Char) :
    encode (String.ofList characters) = characters.flatMap String.utf8EncodeChar := by
  rw [encode_eq, String.toByteArray_ofList]
  exact List.toList_data_toByteArray

/-! ### ASCII characters -/

def asciiByte (c : Char) : UInt8 := UInt8.ofNat c.toNat

theorem utf8EncodeChar_ascii {c : Char} (ascii : c.toNat < 0x80) :
    String.utf8EncodeChar c = [asciiByte c] := by
  unfold String.utf8EncodeChar
  exact if_pos (Nat.le_of_lt_succ ascii)

/-- All bytes of a character beyond ASCII are beyond ASCII. -/
theorem high_of_mem_utf8EncodeChar {c : Char} {b : UInt8} (wide : ¬c.toNat < 0x80)
    (member : b ∈ String.utf8EncodeChar c) : 0x80 ≤ b.toNat := by
  have beyond : ¬c.val.toNat ≤ 127 := fun small => wide (Nat.lt_succ_of_le small)
  unfold String.utf8EncodeChar at member
  simp only [if_neg beyond] at member
  split at member
  · simp only [List.mem_cons, List.not_mem_nil, or_false] at member
    rcases member with rfl | rfl <;> simp only [UInt8.toNat_ofNat'] <;> omega
  split at member
  · simp only [List.mem_cons, List.not_mem_nil, or_false] at member
    rcases member with rfl | rfl | rfl <;> simp only [UInt8.toNat_ofNat'] <;> omega
  · simp only [List.mem_cons, List.not_mem_nil, or_false] at member
    rcases member with rfl | rfl | rfl | rfl <;> simp only [UInt8.toNat_ofNat'] <;> omega

theorem asciiByte_not_mem {c other : Char} (ascii : c.toNat < 0x80) (apart : other ≠ c) :
    asciiByte c ∉ String.utf8EncodeChar other := by
  intro member
  by_cases small : other.toNat < 0x80
  · rw [utf8EncodeChar_ascii small, List.mem_singleton] at member
    have values := congrArg UInt8.toNat member
    simp only [asciiByte, UInt8.toNat_ofNat'] at values
    apply apart
    apply Char.toNat_inj.1
    omega
  · have high := high_of_mem_utf8EncodeChar small member
    simp only [asciiByte, UInt8.toNat_ofNat'] at high
    omega

/-! ### Replacing a character -/

theorem replaceList_single (c : Char) (replacement characters : List Char) :
    replaceList [c] replacement characters 0 =
      characters.flatMap fun other => if c = other then replacement else [other] := by
  induction characters with
  | nil => rfl
  | cons other rest ih =>
    rw [replaceList, List.flatMap_cons]
    by_cases found : c = other
    · simp [stripStart?, ← found, ih]
    · simp [stripStart?, found, ih]

theorem encode_replaceAll {pattern : String} {c : Char} (single : pattern.toList = [c])
    (ascii : c.toNat < 0x80) (replacement text : String) :
    encode (replaceAll pattern replacement text) =
      (encode text).flatMap fun b => if b = asciiByte c then encode replacement else [b] := by
  have nonempty : ¬pattern.isEmpty = true := by
    intro empty
    rw [String.isEmpty_iff] at empty
    rw [empty] at single
    cases single
  have spelled (text : String) : encode text = text.toList.flatMap String.utf8EncodeChar := by
    rw [← encode_ofList, String.ofList_toList]
  unfold replaceAll
  rw [if_neg nonempty, single, replaceList_single, encode_ofList, spelled text, List.flatMap_assoc,
    List.flatMap_assoc]
  refine List.flatMap_congr fun other _ => ?_
  by_cases found : c = other
  · subst found
    rw [if_pos rfl, utf8EncodeChar_ascii ascii, List.flatMap_singleton, if_pos rfl, spelled]
  · rw [if_neg found, List.flatMap_singleton]
    have apart := asciiByte_not_mem ascii (Ne.symm found)
    have kept : ∀ b ∈ String.utf8EncodeChar other,
        (if b = asciiByte c then encode replacement else [b]) = [b] := by
      intro b member
      exact if_neg fun same : b = asciiByte c => apart (same ▸ member)
    rw [List.flatMap_congr kept, List.flatMap_singleton']

end QueryLint.Text
