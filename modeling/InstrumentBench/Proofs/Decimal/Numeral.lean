import InstrumentBench.Decimal.Numeral
import InstrumentBench.Proofs.Decimal.Digits
import Mathlib.Data.List.TakeWhile

/-!
# The grammar of numerals

The number texts apart from their reader: an optional sign, digits with at most one point and at
least one digit beside it, and an optional power of ten; or a word for infinity or for "not a
number", in letters of either case.  The reader accepts exactly these texts
(`Numeral.read?_eq_some`).
-/

namespace InstrumentBench.Decimal.Numeral

/-- A text that may stand before a number, with whether it negates the number. -/
inductive SpellsSign : List Char → Bool → Prop where
  | absent : SpellsSign [] false
  | plus : SpellsSign ['+'] false
  | minus : SpellsSign ['-'] true

/-- The digits of a number, with those before and those after the point. -/
inductive SpellsDigits : List Char → List Char → List Char → Prop where
  | whole {whole : List Char} (digit : ∀ c ∈ whole, isDigit c = true) (nonempty : whole ≠ []) :
      SpellsDigits whole whole []
  | pointed {whole fraction : List Char} (digit : ∀ c ∈ whole ++ fraction, isDigit c = true)
      (nonempty : whole ++ fraction ≠ []) : SpellsDigits (whole ++ '.' :: fraction) whole fraction

/-- A text that may stand after the digits of a number, with the power of ten it stands for. -/
inductive SpellsPower : List Char → Int → Prop where
  | absent : SpellsPower [] 0
  | scaled {mark : Char} {sign ds : List Char} {negative : Bool} (letter : mark = 'e' ∨ mark = 'E')
      (signed : SpellsSign sign negative) (digit : ∀ c ∈ ds, isDigit c = true)
      (nonempty : ds ≠ []) :
      SpellsPower (mark :: (sign ++ ds)) (if negative then -(value ds : Int) else value ds)

/-- The number texts, with what they stand for. -/
inductive Spells : List Char → Numeral → Prop where
  | decimal {sign ds whole fraction scale : List Char} {negative : Bool} {power : Int}
      (signed : SpellsSign sign negative) (digits : SpellsDigits ds whole fraction)
      (scaled : SpellsPower scale power) :
      Spells (sign ++ (ds ++ scale))
        (.decimal negative (value (whole ++ fraction)) (power - fraction.length))
  | infinity {sign word : List Char} {negative : Bool} (signed : SpellsSign sign negative)
      (named : word.map Char.toLower = "inf".toList ∨ word.map Char.toLower = "infinity".toList) :
      Spells (sign ++ word) (.infinity negative)
  | notANumber {sign word : List Char} {negative : Bool} (signed : SpellsSign sign negative)
      (named : word.map Char.toLower = "nan".toList) : Spells (sign ++ word) .notANumber

/-- A decimal without a power of ten: a sign, and digits with a point among or beside them, or with
no point. -/
inductive SpellsPlain : List Char → Bool → List Char → List Char → Prop where
  | mk {sign ds whole fraction : List Char} {negative : Bool} (signed : SpellsSign sign negative)
      (digits : SpellsDigits ds whole fraction) : SpellsPlain (sign ++ ds) negative whole fraction

/-! ## The parts of a numeral -/

theorem exists_sign (text : List Char) :
    ∃ sign negative rest, SpellsSign sign negative ∧ text = sign ++ rest ∧
      readSign text = (negative, rest) := by
  unfold readSign
  split
  next rest => exact ⟨_, _, rest, .plus, rfl, rfl⟩
  next rest => exact ⟨_, _, rest, .minus, rfl, rfl⟩
  next => exact ⟨_, _, _, .absent, rfl, rfl⟩

/-- A sign is read before a text that does not start with one. -/
theorem SpellsSign.readSign {sign : List Char} {negative : Bool} (signed : SpellsSign sign negative)
    {rest : List Char} (unsigned : ∀ c ∈ rest.head?, c ≠ '+' ∧ c ≠ '-') :
    readSign (sign ++ rest) = (negative, rest) := by
  cases signed with
  | plus => rfl
  | minus => rfl
  | absent =>
    rw [List.nil_append, Numeral.readSign]
    all_goals
      rintro later rfl
      have := unsigned _ rfl
      simp at this

/-- A digit is none of the characters that have a meaning of their own in a numeral. -/
theorem ne_of_isDigit {c mark : Char} (digit : isDigit c = true) (other : isDigit mark = false) :
    c ≠ mark := by
  rintro rfl
  rw [digit] at other
  cases other

theorem unsigned_of_digits {text : List Char} (digit : ∀ c ∈ text, isDigit c = true) :
    ∀ c ∈ text.head?, c ≠ '+' ∧ c ≠ '-' := by
  intro c first
  have found := digit c (List.mem_of_head? first)
  exact ⟨ne_of_isDigit found rfl, ne_of_isDigit found rfl⟩

theorem readPower?_eq_some {text : List Char} {power : Int} :
    readPower? text = some power ↔ SpellsPower text power := by
  constructor
  · intro read
    unfold readPower? at read
    split at read
    next =>
      cases read
      exact .absent
    next mark rest =>
      obtain ⟨sign, negative, ds, signed, rfl, sign_eq⟩ := exists_sign rest
      rw [sign_eq] at read
      split at read
      next letter =>
        dsimp only at read
        split at read
        next spelled =>
          cases read
          exact .scaled letter signed (List.all_eq_true.1 spelled.2) spelled.1
        next => cases read
      next => cases read
  · rintro (_ | ⟨letter, signed, digit, nonempty⟩)
    · rfl
    · dsimp only [readPower?]
      rw [if_pos letter, signed.readSign (unsigned_of_digits digit)]
      exact if_pos ⟨nonempty, List.all_eq_true.2 digit⟩

/-- What is read as digits is spelled so, if there is a digit. -/
theorem spellsDigits_readDigits {text whole fraction rest : List Char}
    (read : readDigits text = (whole, fraction, rest)) (nonempty : whole ++ fraction ≠ []) :
    ∃ ds, SpellsDigits ds whole fraction ∧ text = ds ++ rest := by
  have taken : ∀ text : List Char, ∀ c ∈ text.takeWhile isDigit, isDigit c = true :=
    fun text c => List.mem_takeWhile_imp
  unfold readDigits at read
  dsimp only at read
  split at read
  next later pointed =>
    cases read
    refine ⟨_, .pointed (List.forall_mem_append.2 ⟨taken text, taken later⟩) nonempty, ?_⟩
    rw [List.append_assoc, List.cons_append, List.takeWhile_append_dropWhile, ← pointed,
      List.takeWhile_append_dropWhile]
  next =>
    cases read
    rw [List.append_nil] at nonempty
    exact ⟨_, .whole (taken text) nonempty, List.takeWhile_append_dropWhile.symm⟩

/-- Digits are read up to a text that does not continue them. -/
theorem SpellsDigits.readDigits {ds whole fraction : List Char}
    (digits : SpellsDigits ds whole fraction) {rest : List Char}
    (ended : ∀ c ∈ rest.head?, isDigit c = false ∧ c ≠ '.') :
    readDigits (ds ++ rest) = (whole, fraction, rest) := by
  have stop : rest.takeWhile isDigit = [] ∧ rest.dropWhile isDigit = rest := by
    cases rest with
    | nil => exact ⟨rfl, rfl⟩
    | cons c later =>
      have other := (ended c rfl).1
      simp [other]
  cases digits with
  | whole digit nonempty =>
    have taken : (ds ++ rest).takeWhile isDigit = ds := by
      rw [List.takeWhile_append_of_pos digit, stop.1, List.append_nil]
    have dropped : (ds ++ rest).dropWhile isDigit = rest := by
      rw [List.dropWhile_append_of_pos digit, stop.2]
    unfold Numeral.readDigits
    dsimp only
    rw [taken, dropped]
    split
    next later => exact absurd rfl (ended '.' rfl).2
    next => rfl
  | pointed digit nonempty =>
    rw [List.forall_mem_append] at digit
    unfold Numeral.readDigits
    dsimp only
    rw [List.append_assoc, List.takeWhile_append_of_pos digit.1,
      List.dropWhile_append_of_pos digit.1]
    simp [List.takeWhile_append_of_pos digit.2, List.dropWhile_append_of_pos digit.2, stop, isDigit]

/-! ## Numerals -/

theorem SpellsPower.ended {scale : List Char} {power : Int} (scaled : SpellsPower scale power) :
    ∀ c ∈ scale.head?, isDigit c = false ∧ c ≠ '.' := by
  intro c first
  cases scaled with
  | absent => cases first
  | scaled letter =>
    cases first
    rcases letter with rfl | rfl <;> decide

/-- What starts a text of digits is a digit or the point. -/
theorem SpellsDigits.head?_append {ds whole fraction : List Char}
    (digits : SpellsDigits ds whole fraction) (rest : List Char) :
    ∃ c, (ds ++ rest).head? = some c ∧ (isDigit c = true ∨ c = '.') := by
  cases digits with
  | whole digit nonempty =>
    obtain ⟨c, later, rfl⟩ := List.exists_cons_of_ne_nil nonempty
    exact ⟨c, rfl, .inl (digit c List.mem_cons_self)⟩
  | pointed digit nonempty =>
    cases whole with
    | nil => exact ⟨'.', rfl, .inr rfl⟩
    | cons c later => exact ⟨c, rfl, .inl (digit c List.mem_cons_self)⟩

theorem SpellsDigits.ne_nil {ds whole fraction : List Char}
    (digits : SpellsDigits ds whole fraction) : whole ++ fraction ≠ [] := by
  cases digits with
  | whole _ nonempty => rwa [List.append_nil]
  | pointed _ nonempty => exact nonempty

theorem SpellsDigits.unsigned {ds whole fraction : List Char}
    (digits : SpellsDigits ds whole fraction) (rest : List Char) :
    ∀ c ∈ (ds ++ rest).head?, c ≠ '+' ∧ c ≠ '-' := by
  intro c member
  obtain ⟨_, first, start⟩ := digits.head?_append rest
  obtain rfl := Option.some.inj (first.symm.trans member)
  rcases start with digit | rfl
  · exact ⟨ne_of_isDigit digit rfl, ne_of_isDigit digit rfl⟩
  · decide

/-- A number is not one of the words, which start with a letter. -/
theorem SpellsDigits.not_word {ds whole fraction : List Char}
    (digits : SpellsDigits ds whole fraction) (rest : List Char) {word : List Char}
    (lettered : ∃ letter ∈ word.head?, isDigit letter = false ∧ letter ≠ '.') :
    (ds ++ rest).map Char.toLower ≠ word := by
  rintro rfl
  obtain ⟨letter, lowered, noDigit, noPoint⟩ := lettered
  obtain ⟨c, first, start⟩ := digits.head?_append rest
  rw [List.head?_map, first] at lowered
  obtain rfl := Option.some.inj lowered
  rcases start with digit | rfl
  · obtain ⟨number, small, rfl⟩ := exists_digitChar digit
    have same : ∀ number < 10, (digitChar number).toLower = digitChar number := by decide
    rw [same number small, digit] at noDigit
    cases noDigit
  · exact noPoint rfl

/-- A word does not start with a sign. -/
theorem unsigned_of_word {word later : List Char} {letter : Char}
    (named : word.map Char.toLower = letter :: later) (unsigned : letter ≠ '+' ∧ letter ≠ '-') :
    ∀ c ∈ word.head?, c ≠ '+' ∧ c ≠ '-' := by
  intro c first
  have lowered : c.toLower ≠ '+' ∧ c.toLower ≠ '-' := by
    have same := congrArg List.head? named
    rw [List.head?_map, first] at same
    rwa [Option.some.inj same]
  constructor
  · rintro rfl
    exact lowered.1 rfl
  · rintro rfl
    exact lowered.2 rfl

theorem SpellsDigits.digit {ds whole fraction : List Char}
    (digits : SpellsDigits ds whole fraction) : ∀ c ∈ whole ++ fraction, isDigit c = true := by
  cases digits with
  | whole digit _ => rwa [List.append_nil]
  | pointed digit _ => exact digit

theorem SpellsPlain.digit {text whole fraction : List Char} {negative : Bool}
    (plain : SpellsPlain text negative whole fraction) :
    ∀ c ∈ whole ++ fraction, isDigit c = true := by
  obtain ⟨signed, digits⟩ := plain
  exact digits.digit

/-- The places of a plain decimal are the digits behind its point. -/
theorem SpellsPlain.spells {text whole fraction : List Char} {negative : Bool}
    (plain : SpellsPlain text negative whole fraction) :
    Spells text (.decimal negative (value (whole ++ fraction)) (-fraction.length)) := by
  obtain ⟨signed, digits⟩ := plain
  have spells := Spells.decimal signed digits .absent
  rwa [List.append_nil, zero_sub] at spells

/-- There is no blank in a decimal. -/
theorem Spells.visible {text : List Char} {negative : Bool} {significand : ℕ} {power : Int}
    (spells : Spells text (.decimal negative significand power)) :
    ∀ c ∈ text, Text.isBlank c = false := by
  have digits {ds : List Char} (digit : ∀ c ∈ ds, isDigit c = true) :
      ∀ c ∈ ds, Text.isBlank c = false :=
    fun c member => isBlank_of_isDigit (digit c member)
  have sign {sign : List Char} {negative : Bool} (signed : SpellsSign sign negative) :
      ∀ c ∈ sign, Text.isBlank c = false := by
    cases signed with
    | absent => exact List.forall_mem_nil _
    | plus | minus => exact List.forall_mem_singleton.2 (by decide)
  cases spells with
  | decimal signed spelled scaled =>
    rw [List.forall_mem_append, List.forall_mem_append]
    refine ⟨sign signed, ?_, ?_⟩
    · cases spelled with
      | whole digit nonempty => exact digits digit
      | pointed digit nonempty =>
        rw [List.forall_mem_append] at digit
        exact List.forall_mem_append.2
          ⟨digits digit.1, List.forall_mem_cons.2 ⟨by decide, digits digit.2⟩⟩
    · cases scaled with
      | absent => exact List.forall_mem_nil _
      | scaled letter signed digit nonempty =>
        refine List.forall_mem_cons.2 ⟨?_, List.forall_mem_append.2 ⟨sign signed, digits digit⟩⟩
        rcases letter with rfl | rfl <;> decide

/-- The reader accepts exactly the number texts. -/
theorem read?_eq_some {text : List Char} {numeral : Numeral} :
    read? text = some numeral ↔ Spells text numeral := by
  constructor
  · intro read
    obtain ⟨sign, negative, body, signed, rfl, sign_eq⟩ := exists_sign text
    unfold read? at read
    rw [sign_eq] at read
    dsimp only at read
    split at read
    next named =>
      cases read
      exact .infinity signed named
    next =>
    split at read
    next named =>
      cases read
      exact .notANumber signed named
    next =>
    rcases digits_eq : readDigits body with ⟨whole, fraction, rest⟩
    rw [digits_eq] at read
    dsimp only at read
    split at read
    next => cases read
    next digits =>
      obtain ⟨power, scaled, rfl⟩ := Option.map_eq_some_iff.1 read
      obtain ⟨ds, spelled, rfl⟩ := spellsDigits_readDigits digits_eq (by simpa using digits)
      exact .decimal signed spelled (readPower?_eq_some.1 scaled)
  · rintro (⟨signed, digits, scaled⟩ | ⟨signed, named⟩ | ⟨signed, named⟩)
    case decimal sign ds whole fraction scale negative power =>
      have noInfinity : ¬ ((ds ++ scale).map Char.toLower = "inf".toList ∨
          (ds ++ scale).map Char.toLower = "infinity".toList) :=
        not_or.2 ⟨digits.not_word scale ⟨'i', rfl, by decide⟩,
          digits.not_word scale ⟨'i', rfl, by decide⟩⟩
      have noWord : (ds ++ scale).map Char.toLower ≠ "nan".toList :=
        digits.not_word scale ⟨'n', rfl, by decide⟩
      unfold read?
      rw [signed.readSign (digits.unsigned scale)]
      dsimp only
      rw [digits.readDigits scaled.ended]
      dsimp only
      rw [if_neg noInfinity, if_neg noWord, if_neg (by simpa using digits.ne_nil),
        readPower?_eq_some.2 scaled]
      rfl
    case infinity sign word negative =>
      have unsigned : ∀ c ∈ word.head?, c ≠ '+' ∧ c ≠ '-' := by
        rcases named with named | named <;> exact unsigned_of_word named (by decide)
      unfold read?
      rw [signed.readSign unsigned]
      exact if_pos named
    case notANumber sign word negative =>
      have noInfinity : ¬ (word.map Char.toLower = "inf".toList ∨
          word.map Char.toLower = "infinity".toList) := by
        rw [named]
        decide
      unfold read?
      rw [signed.readSign (unsigned_of_word named (by decide))]
      dsimp only
      rw [if_neg noInfinity, if_pos named]

end InstrumentBench.Decimal.Numeral
