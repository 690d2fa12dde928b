import InstrumentBench.Json.Printer
import InstrumentBench.Json.Tree
import Mathlib.Tactic.Common

/-!
# The tokens of what is printed

A text spells tokens if a scan of it gives them, whatever follows that does not
continue the last of them (`Token.Spells`).  This module says so of each piece of
a printed value: marks, gaps, strings with any characters (`Token.Spells.quoted`),
words and numbers.
-/

namespace InstrumentBench.Json

/-! ## Strings as they are written -/

/-- The unit that a character is written as: control characters without an escape
of their own are written by their code. -/
def writtenUnit (c : Char) : StringUnit :=
  if c.toNat < 32 ∧ c ∉ ['\n', '\r', '\t', '\x08', '\x0c'] then .code c.toNat else .char c

/-- The units that a text is written as. -/
def writtenUnits (text : String) : List StringUnit :=
  text.toList.map writtenUnit

/-- What is written is the text again: no code that is written is a surrogate. -/
theorem decodeUnits_writtenUnit (text : List Char) :
    decodeUnits (text.map writtenUnit) = some text := by
  induction text with
  | nil => rfl
  | cons c rest ih =>
    rw [List.map_cons, writtenUnit]
    split
    next control =>
      have high : ¬ (0xD800 ≤ c.toNat ∧ c.toNat < 0xDC00) := by omega
      have low : ¬ (0xDC00 ≤ c.toNat ∧ c.toNat < 0xE000) := by omega
      rw [decodeUnits.eq_def]
      simp only [if_neg high, if_neg low, ih, Char.ofNat_toNat, Option.map_some]
    next =>
      rw [decodeUnits, ih]
      rfl

theorem text?_writtenUnits (text : String) : Tree.text? (writtenUnits text) = some text := by
  rw [Tree.text?, writtenUnits, decodeUnits_writtenUnit, Option.map_some, String.ofList_toList]

namespace Token

theorem unit?_hexDigit {code : Nat} (small : code < 32) :
    unit? '0' '0' (Text.hexDigit (code / 16)) (Text.hexDigit (code % 16)) = some code := by
  have zero : Text.hexValue? '0' = some 0 := by decide
  have high : Text.hexValue? (Text.hexDigit (code / 16)) = some (code / 16) :=
    Text.hexValue?_hexDigit (by omega)
  have low : Text.hexValue? (Text.hexDigit (code % 16)) = some (code % 16) :=
    Text.hexValue?_hexDigit (by omega)
  simp only [unit?, zero, high, low, Option.bind_eq_bind, Option.bind_some, Option.pure_def,
    Option.some.injEq]
  omega

/-- Inside a string, a printed character is read as its unit. -/
theorem scan_quotedChar (c : Char) (readBack : List StringUnit) (rest : List Char) :
    scan (.string readBack) (quotedChar c ++ rest) =
      scan (.string (writtenUnit c :: readBack)) rest := by
  -- an escape of one letter, of which only the character it stands for matters
  have escaped : ∀ letter, letter ≠ 'u' → escape? letter = some c → writtenUnit c = .char c →
      scan (.string readBack) (['\\', letter] ++ rest) =
        scan (.string (writtenUnit c :: readBack)) rest := by
    intro letter other stands unit
    rw [List.cons_append, List.cons_append, List.nil_append, unit]
    rw [scan.eq_10 _ _ _ (by simp [other]), stands]
    rfl
  by_cases short : c ∈ ['"', '\\', '\n', '\r', '\t', '\x08', '\x0c']
  · simp only [List.mem_cons, List.not_mem_nil, or_false] at short
    rcases short with same | same | same | same | same | same | same
    · subst same; exact escaped '"' (by decide) (by decide) (by decide)
    · subst same; exact escaped '\\' (by decide) (by decide) (by decide)
    · subst same; exact escaped 'n' (by decide) (by decide) (by decide)
    · subst same; exact escaped 'r' (by decide) (by decide) (by decide)
    · subst same; exact escaped 't' (by decide) (by decide) (by decide)
    · subst same; exact escaped 'b' (by decide) (by decide) (by decide)
    · subst same; exact escaped 'f' (by decide) (by decide) (by decide)
  · simp only [List.mem_cons, List.not_mem_nil, or_false, not_or] at short
    obtain ⟨noQuote, noSlash, newline, carriage, tab, backspace, feed⟩ := short
    simp only [quotedChar, if_neg, writtenUnit, noQuote, noSlash, newline, carriage, tab,
      backspace, feed, not_false_eq_true, List.mem_cons, List.not_mem_nil, or_false, and_true]
    split
    next small =>
      simp only [List.cons_append, List.nil_append]
      rw [scan.eq_9, unit?_hexDigit small]
      rfl
    next visible =>
      rw [List.cons_append, List.nil_append]
      rw [scan.eq_11 _ _ _ (by simpa using noQuote) (by simp [noSlash]) (by simp [noSlash])]
      rw [if_neg (by simp [visible, noSlash])]

theorem scan_string (text : List Char) (readBack : List StringUnit) (rest : List Char) :
    scan (.string readBack) (text.flatMap quotedChar ++ '"' :: rest) =
      (scan .between rest).map (.string (readBack.reverse ++ text.map writtenUnit) :: ·) := by
  induction text generalizing readBack with
  | nil =>
    rw [List.flatMap_nil, List.nil_append, List.map_nil, List.append_nil, scan]
    cases scan .between rest <;> rfl
  | cons c text ih =>
    rw [List.flatMap_cons, List.append_assoc, scan_quotedChar, ih, List.reverse_cons,
      List.append_assoc, List.map_cons, List.singleton_append]

/-! ## Longer tokens

Words and numbers are scanned in the same way: a token goes on as long as its
characters do, and the first character after them starts the next one. -/

/-- A mode inside a token that ends where its characters end. -/
structure Mode.Lasting (inside : List Char → Mode) (continues : Char → Bool)
    (finish? : List Char → Option Token) : Prop where
  atEnd : ∀ readBack, scan (inside readBack) [] = (finish? readBack.reverse).map ([·])
  within : ∀ readBack c rest, continues c → scan (inside readBack) (c :: rest) =
    scan (inside (c :: readBack)) rest
  after : ∀ readBack c rest, continues c = false → scan (inside readBack) (c :: rest) =
    (finish? readBack.reverse).bind fun token => (scan .between (c :: rest)).map (token :: ·)

theorem Mode.Lasting.scan {inside : List Char → Mode} {continues : Char → Bool}
    {finish? : List Char → Option Token} (lasting : Mode.Lasting inside continues finish?)
    {text rest : List Char} (longer : ∀ c ∈ text, continues c)
    (ending : ∀ c ∈ rest.head?, continues c = false) (readBack : List Char) :
    scan (inside readBack) (text ++ rest) =
      (finish? (readBack.reverse ++ text)).bind fun token =>
        (scan .between rest).map (token :: ·) := by
  induction text generalizing readBack with
  | nil =>
    rw [List.nil_append, List.append_nil]
    cases rest with
    | nil =>
      rw [lasting.atEnd]
      cases finish? readBack.reverse <;> simp [Token.scan]
    | cons c rest => exact lasting.after readBack c rest (ending c rfl)
  | cons c text ih =>
    have others : ∀ other ∈ text, continues other := by
      intro other member
      exact longer other (List.mem_cons_of_mem _ member)
    rw [List.cons_append, lasting.within readBack c _ (longer c List.mem_cons_self), ih others,
      List.reverse_cons, List.append_assoc, List.singleton_append]

theorem lasting_word : Mode.Lasting .word isWordChar ofWord? where
  atEnd readBack := by
    rw [scan]
    cases ofWord? readBack.reverse <;> rfl
  within readBack c rest word := by
    rw [scan, if_pos word]
  after readBack c rest other := by
    rw [scan, scan, if_neg (by simp [other])]
    cases ofWord? readBack.reverse with
    | none => rfl
    | some token =>
      cases start? c with
      | none => rfl
      | some started =>
        cases inner : scan started.2 rest <;> simp [inner]

theorem lasting_number :
    Mode.Lasting .number isNumberChar fun text => (Lexeme.read? text).map .number where
  atEnd readBack := by
    rw [scan]
    cases Lexeme.read? readBack.reverse <;> rfl
  within readBack c rest digit := by
    rw [scan, if_pos digit]
  after readBack c rest other := by
    rw [scan, scan, if_neg (by simp [other])]
    cases Lexeme.read? readBack.reverse with
    | none => rfl
    | some lexeme =>
      cases start? c with
      | none => rfl
      | some started =>
        cases inner : scan started.2 rest <;> simp [inner]

/-! ## What spells tokens -/

/-- What may follow a word or a number: nothing, or a character that is in
neither. -/
def Ends (text : List Char) : Prop :=
  ∀ c ∈ text.head?, isWordChar c = false ∧ isNumberChar c = false

theorem Ends.nil : Ends [] := by
  intro c found
  cases found

theorem Ends.cons {c : Char} {text : List Char} (word : isWordChar c = false)
    (number : isNumberChar c = false) : Ends (c :: text) := by
  intro other found
  cases found
  exact ⟨word, number⟩

theorem Ends.append {first second : List Char} (atFirst : Ends first) (atSecond : Ends second) :
    Ends (first ++ second) := by
  cases first with
  | nil => exact atSecond
  | cons c first => exact atFirst

/-- A text spells tokens if a scan gives them and then goes on with what follows
the text, provided that this does not continue the last of them. -/
def Spells (tokens : List Token) (text : List Char) : Prop :=
  ∀ rest, Ends rest → scan .between (text ++ rest) = (scan .between rest).map (tokens ++ ·)

namespace Spells

variable {tokens others : List Token} {text more : List Char}

theorem nil : Spells [] [] := by
  intro rest _
  simp

theorem append (first : Spells tokens text) (second : Spells others more) (ends : Ends more) :
    Spells (tokens ++ others) (text ++ more) := by
  intro rest ending
  rw [List.append_assoc, first (more ++ rest) (ends.append ending), second rest ending,
    Option.map_map]
  simp [Function.comp_def]

/-- A character that starts no longer token spells what it starts. -/
theorem short {c : Char} {given : List Token} (start : start? c = some (given, .between))
    (following : Spells tokens text) : Spells (given ++ tokens) (c :: text) := by
  intro rest ending
  rw [List.cons_append, scan, start]
  simp only [Option.bind_eq_bind, Option.bind_some, following rest ending, Option.pure_def]
  cases scan .between rest with
  | none => rfl
  | some scanned => simp

theorem mark {c : Char} {token : Token} (start : start? c = some ([token], .between))
    (following : Spells tokens text) : Spells (token :: tokens) (c :: text) :=
  short start following

theorem gap {c : Char} (start : start? c = some ([], .between))
    (following : Spells tokens text) : Spells tokens (c :: text) :=
  short start following

/-- A line break and an indentation spell nothing. -/
theorem newline (depth : Nat) (following : Spells tokens text) :
    Spells tokens (Value.newline depth ++ text) := by
  have indented : ∀ width, Spells tokens (List.replicate width ' ' ++ text) := by
    intro width
    induction width with
    | zero => exact following
    | succ width ih =>
      rw [List.replicate_succ, List.cons_append]
      exact gap rfl ih
  exact gap rfl (indented (2 * depth))

/-- A quoted text spells its units, whatever its characters are. -/
theorem quoted (string : String) (following : Spells tokens text) :
    Spells (.string (writtenUnits string) :: tokens) (Json.quoted string ++ text) := by
  intro rest ending
  have opened : ∀ after, scan .between ('"' :: after) = scan (.string []) after := by
    intro after
    rw [scan, show start? '"' = some ([], .string []) by decide]
    simp
  rw [Json.quoted, List.append_assoc, List.append_assoc, List.singleton_append, List.cons_append,
    opened, scan_string, following rest ending, Option.map_map]
  rfl

/-- A word spells its token. -/
theorem word {first : Char} {letters : List Char} {token : Token}
    (start : start? first = some ([], .word [first])) (longer : letters.all isWordChar = true)
    (whole : ofWord? (first :: letters) = some token) : Spells [token] (first :: letters) := by
  intro rest ending
  rw [List.cons_append, scan, start]
  simp only [Option.bind_eq_bind, Option.bind_some, Option.pure_def]
  rw [lasting_word.scan (List.all_eq_true.mp longer) (fun c found => (ending c found).1)]
  rw [List.reverse_singleton, List.singleton_append, whole]
  cases scan .between rest <;> rfl

/-- A number spells its token. -/
theorem number {first : Char} {digits : List Char} {lexeme : Lexeme}
    (start : start? first = some ([], .number [first])) (longer : ∀ c ∈ digits, isNumberChar c)
    (whole : Lexeme.read? (first :: digits) = some lexeme) :
    Spells [.number lexeme] (first :: digits) := by
  intro rest ending
  rw [List.cons_append, scan, start]
  simp only [Option.bind_eq_bind, Option.bind_some, Option.pure_def]
  rw [lasting_number.scan longer (fun c found => (ending c found).2)]
  rw [List.reverse_singleton, List.singleton_append, whole]
  cases scan .between rest <;> rfl

theorem null : Spells [.null] ['n', 'u', 'l', 'l'] :=
  word (by decide) (by decide) (by decide)

theorem bool (value : Bool) : Spells [.bool value] (boolText value) := by
  cases value with
  | false => exact word (by decide) (by decide) (by decide)
  | true => exact word (by decide) (by decide) (by decide)

end Spells

theorem all?_of_spells {tokens : List Token} {text : List Char} (spells : Spells tokens text) :
    all? (String.ofList text) = some tokens := by
  have scanned := spells [] Ends.nil
  rw [List.append_nil] at scanned
  rw [all?, String.toList_ofList, scanned, scan, Option.map_some, List.append_nil]

end Token

end InstrumentBench.Json
