import Mathlib.Data.Char
import Mathlib.Data.String.Basic
import Mathlib.Tactic.Common

/-!
# Texts as bytes

A text is read back from its bytes in UTF-8.  A directory listing and a sorting tool see the bytes
only; UTF-8 keeps the order of code points, so that texts compare as their bytes do (`bytes_lt`).
-/

namespace InstrumentBench.Text

/-- The bytes of a text in UTF-8. -/
def bytes (text : String) : List UInt8 :=
  text.toUTF8.data.toList

/-- A text is encoded character by character. -/
theorem bytes_eq (text : String) : bytes text = text.toList.flatMap String.utf8EncodeChar := by
  rw [bytes, String.toUTF8, ← String.utf8Encode_toList, List.utf8Encode]
  simp

@[simp] theorem bytes_append (first second : String) :
    bytes (first ++ second) = bytes first ++ bytes second := by
  rw [bytes_eq, bytes_eq, bytes_eq, String.toList_append, List.flatMap_append]

theorem fromUTF8?_toUTF8 (text : String) : String.fromUTF8? text.toUTF8 = some text := by
  rw [String.fromUTF8?, String.toUTF8_eq_toByteArray, dif_pos text.isValidUTF8]
  rfl

/-! ## The order of bytes -/

theorem ofNat_byte_lt {byte other : Nat} (first : byte < 256) (second : other < 256) :
    UInt8.ofNat byte < UInt8.ofNat other ↔ byte < other :=
  UInt8.ofNat_lt_iff_lt first second

theorem ofNat_byte_inj {byte other : Nat} (first : byte < 256) (second : other < 256) :
    UInt8.ofNat byte = UInt8.ofNat other ↔ byte = other := by
  rw [← UInt8.toNat_inj, UInt8.toNat_ofNat_of_lt' first, UInt8.toNat_ofNat_of_lt' second]

theorem utf8EncodeChar_ne_nil (c : Char) : String.utf8EncodeChar c ≠ [] := by
  unfold String.utf8EncodeChar
  dsimp only
  split_ifs <;> exact List.cons_ne_nil _ _

/-- Encodings compare as the characters do, whatever follows them. -/
theorem utf8EncodeChar_append_lt {c d : Char} (less : c < d) (rest other : List UInt8) :
    String.utf8EncodeChar c ++ rest < String.utf8EncodeChar d ++ other := by
  have codes : c.val.toNat < d.val.toNat := less
  have bound : d.val.toNat < 1114112 := by
    rcases d.valid with low | ⟨-, high⟩
    · exact Nat.lt_trans low (by decide)
    · exact high
  -- The bytes after the first hold six bits each.
  have twice : ∀ code : Nat, code / 4096 = code / 64 / 64 := by omega
  have thrice : ∀ code : Nat, code / 262144 = code / 64 / 64 / 64 := by omega
  unfold String.utf8EncodeChar
  simp only [twice, thrice]
  generalize c.val.toNat = code at codes ⊢
  generalize d.val.toNat = later at codes bound ⊢
  split_ifs
  all_goals try omega
  all_goals
    simp only [List.cons_append, List.nil_append, List.cons_lt_cons_iff]
    simp (disch := omega) only [ofNat_byte_lt, ofNat_byte_inj]
    omega

theorem flatMap_utf8EncodeChar_lt {chars others : List Char} (less : chars < others) :
    chars.flatMap String.utf8EncodeChar < others.flatMap String.utf8EncodeChar := by
  induction chars generalizing others with
  | nil =>
    cases others with
    | nil => exact absurd less (List.lt_irrefl _)
    | cons d others =>
      obtain ⟨byte, rest, encoded⟩ := List.exists_cons_of_ne_nil (utf8EncodeChar_ne_nil d)
      rw [List.flatMap_cons, encoded]
      exact List.nil_lt_cons _ _
  | cons c chars ih =>
    cases others with
    | nil => exact absurd less (List.not_lt_nil _)
    | cons d others =>
      rw [List.flatMap_cons, List.flatMap_cons]
      rcases List.cons_lt_cons_iff.1 less with first | ⟨rfl, later⟩
      · exact utf8EncodeChar_append_lt first _ _
      · exact List.append_left_lt (ih later)

theorem bytes_lt_of_lt {text other : String} (less : text < other) : bytes text < bytes other := by
  rw [bytes_eq, bytes_eq]
  exact flatMap_utf8EncodeChar_lt (String.lt_iff_toList_lt.1 less)

/-- Texts compare as their bytes do. -/
theorem bytes_lt {text other : String} : bytes text < bytes other ↔ text < other := by
  refine ⟨fun less => ?_, bytes_lt_of_lt⟩
  rcases lt_trichotomy text other with before | rfl | after
  · exact before
  · exact absurd less (List.lt_irrefl _)
  · exact absurd less (List.lt_asymm (bytes_lt_of_lt after))

theorem bytes_le {text other : String} : bytes text ≤ bytes other ↔ text ≤ other := by
  rw [← not_lt, ← bytes_lt]
  exact Iff.rfl

end InstrumentBench.Text
