import InstrumentBench.Command.Direction
import Mathlib.Data.List.Forall2

/-!
# Words for directions

A direction is named by its label, each letter in either case.
-/

namespace InstrumentBench

namespace Text

/-! ## Letters in either case -/

theorem toNat_toUpper (c : Char) :
    c.toUpper.toNat = if 97 ≤ c.toNat ∧ c.toNat ≤ 122 then c.toNat - 32 else c.toNat := by
  unfold Char.toUpper
  split
  next small =>
    have bounds : 97 ≤ c.toNat ∧ c.toNat ≤ 122 := small
    have moved : (c.val + (65 - 97)).toNat = (c.toNat + (2 ^ 32 - 32)) % 2 ^ 32 :=
      UInt32.toNat_add c.val _
    rw [if_pos bounds]
    exact moved.trans (by omega)
  next other =>
    have outside : ¬(97 ≤ c.toNat ∧ c.toNat ≤ 122) := other
    rw [if_neg outside]

theorem toNat_toLower (c : Char) :
    c.toLower.toNat = if 65 ≤ c.toNat ∧ c.toNat ≤ 90 then c.toNat + 32 else c.toNat := by
  unfold Char.toLower
  split
  next capital =>
    have bounds : 65 ≤ c.toNat ∧ c.toNat ≤ 90 := capital.imp_left id
    have moved : (c.val + (97 - 65)).toNat = (c.toNat + 32) % 2 ^ 32 := UInt32.toNat_add c.val _
    rw [if_pos bounds]
    exact moved.trans (by omega)
  next other =>
    have outside : ¬(65 ≤ c.toNat ∧ c.toNat ≤ 90) := other
    rw [if_neg outside]

/-- The characters that become a capital letter in upper case are the letter and its small
form. -/
theorem toUpper_eq_iff {c letter : Char} (capital : letter.isUpper) :
    c.toUpper = letter ↔ c = letter ∨ c = letter.toLower := by
  have bounds : 65 ≤ letter.toNat ∧ letter.toNat ≤ 90 := by
    obtain ⟨lower, upper⟩ : 'A'.val ≤ letter.val ∧ letter.val ≤ 'Z'.val :=
      of_decide_eq_true capital
    exact ⟨UInt32.le_iff_toNat_le.1 lower, UInt32.le_iff_toNat_le.1 upper⟩
  rw [← Char.toNat_inj, ← Char.toNat_inj, ← Char.toNat_inj, toNat_toUpper, toNat_toLower,
    if_pos bounds]
  split <;> omega

theorem map_toUpper_eq_iff {word letters : List Char}
    (capitals : ∀ letter ∈ letters, letter.isUpper) :
    word.map Char.toUpper = letters ↔
      List.Forall₂ (fun c letter => c = letter ∨ c = letter.toLower) word letters := by
  induction word generalizing letters with
  | nil => simp [eq_comm]
  | cons c word ih =>
    cases letters with
    | nil => simp
    | cons letter letters =>
      obtain ⟨capital, capitals⟩ := List.forall_mem_cons.1 capitals
      rw [List.map_cons, List.cons.injEq, toUpper_eq_iff capital, ih capitals, List.forall₂_cons]

end Text

namespace Direction

/-- The words for a direction. -/
def Spells (word : List Char) (direction : Direction) : Prop :=
  List.Forall₂ (fun c letter => c = letter ∨ c = letter.toLower) word direction.label.toList

theorem ofWord?_eq_some {word : List Char} {direction : Direction} :
    ofWord? word = some direction ↔ Spells word direction := by
  have capitals : ∀ letter ∈ direction.label.toList, letter.isUpper := by
    cases direction <;> exact List.all_eq_true.1 rfl
  rw [Spells, ← Text.map_toUpper_eq_iff capitals, ofWord?]
  generalize word.map Char.toUpper = upper
  split
  next query =>
    subst query
    cases direction <;> decide
  next notQuery =>
    split
    next setting =>
      subst setting
      cases direction <;> decide
    next notSetting => cases direction <;> simp [label, notQuery, notSetting]

end Direction

end InstrumentBench
