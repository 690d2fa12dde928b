import InstrumentBench.Json.Printer
import InstrumentBench.Proofs.Decimal.Digits

/-!
# Compact values stand on one line

Whatever a string holds is escaped, so the compact text of a value has no control
character (`Value.printable_compactChars`), and no line break in particular.
-/

namespace InstrumentBench

/-- Whether a text has no control character before the blank. -/
def Text.Printable (text : List Char) : Prop :=
  ∀ c ∈ text, 32 ≤ c.toNat

instance (text : List Char) : Decidable (Text.Printable text) :=
  List.decidableBAll (fun c : Char => 32 ≤ c.toNat) text

namespace Text.Printable

variable {first second : List Char}

theorem nil : Printable [] :=
  List.forall_mem_nil _

theorem cons {c : Char} (visible : 32 ≤ c.toNat) (rest : Printable second) :
    Printable (c :: second) :=
  List.forall_mem_cons.2 ⟨visible, rest⟩

theorem append (left : Printable first) (right : Printable second) : Printable (first ++ second) :=
  List.forall_mem_append.2 ⟨left, right⟩

/-- The characters of a printable text make up a printable text. -/
theorem subset (whole : Printable second) (within : first ⊆ second) : Printable first :=
  fun c member => whole c (within member)

theorem not_mem {c : Char} (whole : Printable first) (control : c.toNat < 32) : c ∉ first :=
  fun member => absurd (whole c member) (Nat.not_le.2 control)

end Text.Printable

open Text (Printable)

theorem Decimal.printable_digits (number : Nat) : Printable (digits number) := by
  intro c member
  have digit := isDigit_of_mem_digits member
  simp only [isDigit, Bool.and_eq_true, decide_eq_true_eq, Char.le_def,
    UInt32.le_iff_toNat_le] at digit
  exact Nat.le_trans (by decide) digit.1

namespace Json

theorem printable_quotedChar (c : Char) : Printable (quotedChar c) := by
  have hex : ∀ digit < 16, 32 ≤ (Text.hexDigit digit).toNat := by decide
  have escaped : ∀ mark : Char, 32 ≤ mark.toNat → Printable ['\\', mark] := fun mark visible =>
    .cons (by decide) (.cons visible .nil)
  unfold quotedChar
  split
  next => exact escaped _ (by decide)
  split
  next => exact escaped _ (by decide)
  split
  next => exact escaped _ (by decide)
  split
  next => exact escaped _ (by decide)
  split
  next => exact escaped _ (by decide)
  split
  next => exact escaped _ (by decide)
  split
  next => exact escaped _ (by decide)
  split
  next small =>
    have digits : Printable [Text.hexDigit (c.toNat / 16), Text.hexDigit (c.toNat % 16)] :=
      .cons (hex _ (by omega)) (.cons (hex _ (by omega)) .nil)
    have mark : Printable ['\\', 'u', '0', '0'] := by decide
    exact mark.append digits
  next visible => exact .cons (Nat.not_lt.1 visible) .nil

theorem printable_quoted (text : String) : Printable (quoted text) := by
  refine .cons (by decide) (.append ?_ (.cons (by decide) .nil))
  intro c member
  obtain ⟨source, -, member⟩ := List.mem_flatMap.1 member
  exact printable_quotedChar source c member

theorem printable_boolText (value : Bool) : Printable (boolText value) := by
  cases value <;> decide

theorem printable_scientificText (x : Decimal.Scientific) :
    Printable (Number.scientificText x) := by
  have whole := Decimal.printable_digits x.significand
  have taken : ∀ count, Printable ((Decimal.digits x.significand).take count) := fun count =>
    whole.subset (List.take_subset _ _)
  have dropped : ∀ count, Printable ((Decimal.digits x.significand).drop count) := fun count =>
    whole.subset (List.drop_subset _ _)
  have zeros : ∀ count, Printable (List.replicate count '0') := by
    intro count c member
    rw [List.eq_of_mem_replicate member]
    decide
  unfold Number.scientificText
  dsimp only
  split
  next =>
    refine .append (.append (.append (taken 1) ?fraction) ?power) (Decimal.printable_digits _)
    case fraction =>
      split
      next => exact .nil
      next => exact .cons (by decide) (whole.subset fun _ => List.mem_of_mem_tail)
    case power =>
      refine .cons (by decide) (.cons ?_ .nil)
      split <;> decide
  split
  next => exact .append (.append whole (zeros _)) (.cons (by decide) (.cons (by decide) .nil))
  split
  next => exact .append (taken _) (.cons (by decide) (dropped _))
  next => exact .append (.append (.cons (by decide) (.cons (by decide) .nil)) (zeros _)) whole

theorem printable_text (number : Number) : Printable number.text := by
  have sign : ∀ negative : Prop, [Decidable negative] →
      Printable (if negative then ['-'] else []) := by
    intro negative _
    split
    next => exact .cons (by decide) .nil
    next => exact .nil
  cases number with
  | integer value => exact .append (sign _) (Decimal.printable_digits _)
  | real x => exact .append (sign _) (printable_scientificText _)

namespace Value

mutual

/-- The compact text of a value has no control character. -/
theorem printable_compactChars : ∀ value : Value, Printable value.compactChars
  | .null => by decide
  | .bool value => printable_boolText value
  | .number value => printable_text value
  | .string text => printable_quoted text
  | .array [] => .cons (by decide) (.cons (by decide) .nil)
  | .array (item :: rest) => by
    rw [compactChars]
    exact .append (.cons (by decide) (printable_compactChars item)) (printable_compactItems rest)
  | .object [] => .cons (by decide) (.cons (by decide) .nil)
  | .object ((key, value) :: rest) => by
    rw [compactChars]
    exact .append (.append (.cons (by decide) (printable_quoted key))
      (.cons (by decide) (printable_compactChars value))) (printable_compactMembers rest)

theorem printable_compactItems : ∀ items : List Value, Printable (compactItems items)
  | [] => .cons (by decide) .nil
  | item :: rest => by
    rw [compactItems]
    exact .append (.cons (by decide) (printable_compactChars item)) (printable_compactItems rest)

theorem printable_compactMembers :
    ∀ members : List (String × Value), Printable (compactMembers members)
  | [] => .cons (by decide) .nil
  | (key, value) :: rest => by
    rw [compactMembers]
    exact .append (.append (.cons (by decide) (printable_quoted key))
      (.cons (by decide) (printable_compactChars value))) (printable_compactMembers rest)

end

end Value

end Json

end InstrumentBench
