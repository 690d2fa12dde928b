import InstrumentBench.Proofs.Script.LiteralGrammar

/-!
# Where a literal ends

A quote inside a literal is escaped by the backslashes right before it, which escape one another
in pairs: it is escaped if their number is odd.  A literal ends at the first quote that is not
(`Closes`), whatever follows, and there is only one such quote (`Closes.unique`).
`decode_closes` says that the reader stops just there.
-/

namespace InstrumentBench.Literal

/-- Whether a text escapes what follows it. -/
def Escaping (text : List Char) : Prop :=
  (text.reverse.takeWhile (· = '\\')).length % 2 = 1

instance (text : List Char) : Decidable (Escaping text) :=
  inferInstanceAs (Decidable (_ = _))

/-- Whether a quote behind a text is the first one that is not escaped. -/
structure Closes (body : List Char) : Prop where
  unescaped : ¬Escaping body
  first : ∀ before after, body = before ++ '"' :: after → Escaping before

/-- A text is closed by one quote only. -/
theorem Closes.unique {body other rest after : List Char} (closes : Closes body)
    (again : Closes other) (same : body ++ '"' :: rest = other ++ '"' :: after) :
    body = other ∧ rest = after := by
  rcases List.append_eq_append_iff.1 same with ⟨more, rfl, behind⟩ | ⟨more, rfl, behind⟩
  case inl =>
    cases more with
    | nil => simpa using behind
    | cons c more =>
      obtain ⟨rfl, -⟩ := List.cons.inj behind
      exact absurd (again.first body more rfl) closes.unescaped
  case inr =>
    cases more with
    | nil => simpa [eq_comm] using behind
    | cons c more =>
      obtain ⟨rfl, -⟩ := List.cons.inj behind
      exact absurd (closes.first other more rfl) again.unescaped

/-! ## What stands for a character -/

/-- What stands for one character leaves no backslash that escapes something behind it. -/
theorem escaping_append {unit : List Char} {c : Char} (spelled : SpellsChar unit c)
    (text : List Char) : Escaping (unit ++ text) ↔ Escaping text := by
  have paired : (unit.reverse.takeWhile (· = '\\')).length % 2 = 0 := by
    cases spelled with
    | plain _ notBackslash => simp [notBackslash]
    | @code _ low _ _ _ second =>
      have notBackslash : low ≠ '\\' := by
        rintro rfl
        cases second
      simp [notBackslash]
    | _ => decide
  rw [Escaping, Escaping, List.reverse_append, List.takeWhile_append]
  split
  next whole =>
    rw [List.length_append, whole]
    omega
  next => rfl

/-- A quote that is part of what stands for a character is escaped. -/
theorem escaping_of_spellsChar {unit before after : List Char} {c : Char}
    (spelled : SpellsChar unit c) (cut : unit = before ++ '"' :: after) : Escaping before := by
  cases spelled with
  | plain notQuote _ => simp [notQuote, eq_comm, List.append_eq_cons_iff] at cut
  | quote =>
    obtain ⟨rfl, -⟩ : before = ['\\'] ∧ after = [] := by
      simpa [eq_comm, List.append_eq_cons_iff] using cut
    decide
  | @code high low _ _ first second =>
    have high : high ≠ '"' := by
      rintro rfl
      cases first
    have low : low ≠ '"' := by
      rintro rfl
      cases second
    simp [high, low, eq_comm, List.append_eq_cons_iff] at cut
  | _ => simp [eq_comm, List.append_eq_cons_iff] at cut

/-- What stands for a text has no quote that would close it. -/
theorem SpellsBody.closes {body text : List Char} (spelled : SpellsBody body text) :
    Closes body := by
  induction spelled with
  | nil => exact ⟨by decide, by simp⟩
  | @cons unit body text c first others ih =>
    refine ⟨by rw [escaping_append first]; exact ih.unescaped, fun before after cut => ?_⟩
    rcases List.append_eq_append_iff.1 cut with ⟨inner, rfl, inside⟩ | ⟨inner, rfl, inside⟩
    case inl => exact (escaping_append first inner).2 (ih.first inner after inside)
    case inr =>
      cases inner with
      | nil =>
        have escaped := (escaping_append first []).2 (ih.first [] after inside.symm)
        simpa using escaped
      | cons quote inner =>
        obtain ⟨rfl, -⟩ := List.cons.inj inside
        exact escaping_of_spellsChar first rfl

/-! ## Reading -/

/-- The literal made for a text is read as that text, whatever follows.  What is read at all is a
quote, what stands for the text that is read, character by character, and the first quote behind
it that is not escaped; nothing of what follows that quote is lost or read. -/
theorem decode_closes :
    (∀ (text : String) (rest : List Char),
      decode ((quote text).toList ++ rest) = .ok (text.toList, rest)) ∧
    ∀ input text rest : List Char,
      decode input = .ok (text, rest) ↔
        ∃ body, input = '"' :: (body ++ '"' :: rest) ∧ SpellsBody body text ∧ Closes body ∧
          ∀ other after, input = '"' :: (other ++ '"' :: after) → Closes other →
            other = body ∧ after = rest := by
  refine ⟨fun text rest => ?_, fun input text rest => ⟨fun read => ?_, ?_⟩⟩
  case refine_1 =>
    rw [quote, String.toList_ofList]
    exact decode_eq_ok.2 ⟨_, spells_encode text.toList, rfl⟩
  case refine_2 =>
    obtain ⟨literal, ⟨spelled⟩, rfl⟩ := decode_eq_ok.1 read
    have closes := spelled.closes
    refine ⟨_, by simp, spelled, closes, fun other after same again => ?_⟩
    exact again.unique closes (by simpa using same.symm)
  case refine_3 =>
    rintro ⟨body, rfl, spelled, -, -⟩
    exact decode_eq_ok.2 ⟨_, .quoted spelled, by simp⟩

/-- A pair of backslashes does not escape the quote behind it, and the next quote is not reached. -/
example : decode "\"\\x41\\\\\" \"tail".toList = .ok ("A\\".toList, " \"tail".toList) := by
  decide

end InstrumentBench.Literal
