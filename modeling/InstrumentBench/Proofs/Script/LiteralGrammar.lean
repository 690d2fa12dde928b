import InstrumentBench.Proofs.Outcome
import InstrumentBench.Proofs.Script.Literal

/-!
# Well-formed literals

The grammar of string literals, apart from the reader: a text in quotes, in which a quote
and a backslash stand only as part of an escape.  `decode_eq_ok` says that the reader
accepts exactly the texts that start with a literal, and stops behind its closing quote;
`spells_encode`, that the literal made for a text is one of it.
-/

namespace InstrumentBench.Literal

/-- What stands for one character in a literal: the character itself, or an escape of one
letter or of two hexadecimal digits. -/
inductive SpellsChar : List Char → Char → Prop where
  | plain {c : Char} (notQuote : c ≠ '"') (notBackslash : c ≠ '\\') : SpellsChar [c] c
  | backslash : SpellsChar ['\\', '\\'] '\\'
  | quote : SpellsChar ['\\', '"'] '"'
  | lineFeed : SpellsChar ['\\', 'n'] '\n'
  | carriageReturn : SpellsChar ['\\', 'r'] '\r'
  | tab : SpellsChar ['\\', 't'] '\t'
  | code {high low : Char} {upper lower : Nat} (first : Text.hexValue? high = some upper)
      (second : Text.hexValue? low = some lower) :
      SpellsChar ['\\', 'x', high, low] (Char.ofNat (upper * 16 + lower))

/-- What stands for a text between the quotes. -/
inductive SpellsBody : List Char → List Char → Prop where
  | nil : SpellsBody [] []
  | cons {unit body text : List Char} {c : Char} (first : SpellsChar unit c)
      (others : SpellsBody body text) : SpellsBody (unit ++ body) (c :: text)

/-- The literals for a text. -/
inductive Spells : List Char → List Char → Prop where
  | quoted {body text : List Char} (spelled : SpellsBody body text) :
      Spells ('"' :: (body ++ ['"'])) text

theorem escape?_eq_some {letter c : Char} :
    escape? letter = some c ↔
      letter = '\\' ∧ c = '\\' ∨ letter = '"' ∧ c = '"' ∨ letter = 'n' ∧ c = '\n' ∨
        letter = 'r' ∧ c = '\r' ∨ letter = 't' ∧ c = '\t' := by
  rw [escape?]
  grind

theorem spellsChar_escape {letter c : Char} (known : escape? letter = some c) :
    SpellsChar ['\\', letter] c := by
  rcases escape?_eq_some.1 known with ⟨rfl, rfl⟩ | ⟨rfl, rfl⟩ | ⟨rfl, rfl⟩ | ⟨rfl, rfl⟩ |
    ⟨rfl, rfl⟩
  · exact .backslash
  · exact .quote
  · exact .lineFeed
  · exact .carriageReturn
  · exact .tab

/-- What stands for one character is read as that character, and reading goes on after
it. -/
theorem decodeBody_of_spellsChar {unit : List Char} {c : Char} (spelled : SpellsChar unit c)
    (rest : List Char) :
    decodeBody (unit ++ rest) =
      (do
        let (text, after) ← decodeBody rest
        return (c :: text, after)) := by
  cases spelled with
  | plain notQuote notBackslash =>
    rw [List.cons_append, List.nil_append, decodeBody]
    all_goals simp [notQuote, notBackslash]
  | backslash => exact decodeBody_escape rfl rest
  | quote => exact decodeBody_escape rfl rest
  | lineFeed => exact decodeBody_escape rfl rest
  | carriageReturn => exact decodeBody_escape rfl rest
  | tab => exact decodeBody_escape rfl rest
  | code first second =>
    simp only [List.cons_append, List.nil_append, decodeBody, hexChar?, first, second]
    rfl

theorem decodeBody_of_spells {body text : List Char} (spelled : SpellsBody body text)
    (rest : List Char) : decodeBody (body ++ '"' :: rest) = .ok (text, rest) := by
  induction spelled with
  | nil => rfl
  | cons first others ih =>
    rw [List.append_assoc, decodeBody_of_spellsChar first, ih]
    rfl

/-- If what is read after a unit is well-formed, then so is what is read with it. -/
theorem spells_of_unit {unit later text rest : List Char} {c : Char}
    (first : SpellsChar unit c)
    (others : ∀ {text rest : List Char}, decodeBody later = .ok (text, rest) →
      ∃ body, SpellsBody body text ∧ later = body ++ '"' :: rest)
    (read : (do
      let (text, after) ← decodeBody later
      return (c :: text, after)) = .ok (text, rest)) :
    ∃ body, SpellsBody body text ∧ unit ++ later = body ++ '"' :: rest := by
  obtain ⟨⟨remaining, after⟩, read, same⟩ := Outcome.bind_eq_ok.1 read
  cases Outcome.pure_eq_ok.1 same
  obtain ⟨body, spelled, rfl⟩ := others read
  exact ⟨unit ++ body, .cons first spelled, (List.append_assoc ..).symm⟩

theorem spellsChar_hexChar? {high low c : Char} (coded : hexChar? high low = some c) :
    SpellsChar ['\\', 'x', high, low] c := by
  rw [hexChar?] at coded
  cases first : Text.hexValue? high with
  | none => simp [first] at coded
  | some upper =>
    cases second : Text.hexValue? low with
    | none => simp [first, second] at coded
    | some lower =>
      obtain rfl : Char.ofNat (upper * 16 + lower) = c := by simpa [first, second] using coded
      exact .code first second

/-- What is read up to a closing quote is well-formed. -/
theorem spells_of_decodeBody {input text rest : List Char}
    (read : decodeBody input = .ok (text, rest)) :
    ∃ body, SpellsBody body text ∧ input = body ++ '"' :: rest := by
  fun_induction decodeBody input generalizing text rest with
  | case1 => cases read
  | case2 =>
    cases read
    exact ⟨[], .nil, rfl⟩
  | case3 => cases read
  | case4 => cases read
  | case5 high low later c coded ih => exact spells_of_unit (spellsChar_hexChar? coded) ih read
  | case6 => cases read
  | case7 => cases read
  | case8 letter later _ _ c known ih => exact spells_of_unit (spellsChar_escape known) ih read
  | case9 c later notQuote alone _ _ escape ih =>
    have notBackslash : c ≠ '\\' := by
      rintro rfl
      cases later with
      | nil => exact alone rfl rfl
      | cons letter others => exact escape letter others rfl rfl
    exact spells_of_unit (.plain notQuote notBackslash) ih read

/-- The reader accepts exactly the texts that start with a literal. -/
theorem decode_eq_ok {input text rest : List Char} :
    decode input = .ok (text, rest) ↔
      ∃ literal, Spells literal text ∧ input = literal ++ rest := by
  constructor
  · intro read
    rw [decode.eq_def] at read
    split at read
    next input =>
      obtain ⟨body, spelled, rfl⟩ := spells_of_decodeBody read
      exact ⟨_, .quoted spelled, by simp⟩
    next => cases read
  · rintro ⟨_, ⟨spelled⟩, rfl⟩
    rw [List.cons_append, List.append_assoc, decode]
    exact decodeBody_of_spells spelled rest

/-- A literal stands for one text. -/
theorem Spells.unique {literal text other : List Char} (spelled : Spells literal text)
    (again : Spells literal other) : text = other := by
  have read := decode_eq_ok.2 ⟨literal, spelled, (List.append_nil literal).symm⟩
  have readAgain := decode_eq_ok.2 ⟨literal, again, (List.append_nil literal).symm⟩
  cases read.symm.trans readAgain
  rfl

/-! ## Literals made for texts -/

theorem spellsChar_encodeChar (c : Char) : SpellsChar (encodeChar c) c := by
  rcases encodeChar_cases c with ⟨letter, known, -, escaped⟩ | ⟨control, escaped⟩ |
    ⟨notBackslash, notQuote, -, plain⟩
  · rw [escaped]
    exact spellsChar_escape known
  · rw [escaped]
    exact spellsChar_hexChar? (hexChar?_hexDigit (toNat_lt_of_isControl control))
  · rw [plain]
    exact .plain notQuote notBackslash

theorem spellsBody_flatMap (text : List Char) : SpellsBody (text.flatMap encodeChar) text := by
  induction text with
  | nil => exact .nil
  | cons c text ih => exact .cons (spellsChar_encodeChar c) ih

/-- The literal made for a text is a literal of it. -/
theorem spells_encode (text : List Char) : Spells (encode text) text :=
  .quoted (spellsBody_flatMap text)

end InstrumentBench.Literal
