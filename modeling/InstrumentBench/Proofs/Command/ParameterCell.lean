import InstrumentBench.Command.ParameterCell
import InstrumentBench.Proofs.Outcome
import InstrumentBench.Proofs.Text.Cutting
import InstrumentBench.Proofs.Text.Fields
import Mathlib.Data.List.Forall2

/-!
# Well-formed parameter cells

The grammar of parameter cells, apart from the reader: specifications between bars, no
two of the same name, each a bare name or a name with a format token or with options
behind a colon.  `read_eq_ok` says that the reader accepts exactly these cells and gives
the parameters of the grammar.
-/

namespace InstrumentBench.ParameterCell

/-- The options in the pieces between semicolons: trimmed, empty ones left out. -/
def optionsOf (pieces : List (List Char)) : List String :=
  ((pieces.map Text.trim).filter (· ≠ [])).map String.ofList

/-- What may stand behind the colon of a specification, blanks around it apart. -/
inductive SpellsKind : List Char → ParameterKind → Prop where
  | fixed {letter ending : Char} {digits : List Char} (opening : letter = 'V' ∨ letter = 'v')
      (closing : ending = 'f' ∨ ending = 'F') (some : digits ≠ [])
      (numeral : ∀ c ∈ digits, Decimal.isDigit c) (small : Decimal.value digits ≤ 30) :
      SpellsKind (letter :: '.' :: (digits ++ [ending])) (.fixed (Decimal.value digits))
  | choice {suffix : List Char} (separated : ';' ∈ suffix)
      (some : optionsOf (Text.fields ';' suffix) ≠ [])
      (distinct : (optionsOf (Text.fields ';' suffix)).Nodup) :
      SpellsKind suffix (.choice (optionsOf (Text.fields ';' suffix)))

/-- One specification without blanks around it. -/
inductive SpellsOne : List Char → Parameter → Prop where
  | free {name : List Char} (bare : ':' ∉ name) : SpellsOne name ⟨String.ofList name, .free⟩
  | kinded {before after : List Char} {kind : ParameterKind} (first : ':' ∉ before)
      (named : Text.trim before ≠ []) (spelled : SpellsKind (Text.trim after) kind) :
      SpellsOne (before ++ ':' :: after) ⟨String.ofList (Text.trim before), kind⟩

/-- The well-formed cells and their parameters. -/
inductive Spells (cell : List Char) : List Parameter → Prop where
  | blank (blank : Text.trim cell = []) : Spells cell []
  | listed {parameters : List Parameter} (some : Text.trim cell ≠ [])
      (spelled : List.Forall₂
        (fun segment parameter => segment ≠ [] ∧ SpellsOne segment parameter)
        ((Text.fields '|' cell).map Text.trim) parameters)
      (distinct : (parameters.map Parameter.name).Nodup) : Spells cell parameters

/-! ## Format tokens and options -/

/-- The shape of a format token. -/
theorem precision?_eq_some {suffix digits : List Char} :
    precision? suffix = some digits ↔
      ∃ letter ending, (letter = 'V' ∨ letter = 'v') ∧ (ending = 'f' ∨ ending = 'F') ∧
        digits ≠ [] ∧ (∀ c ∈ digits, Decimal.isDigit c) ∧
        suffix = letter :: '.' :: (digits ++ [ending]) := by
  constructor
  · intro found
    unfold precision? at found
    split at found
    next letter rest =>
      dsimp only at found
      split at found
      next shape =>
        cases found
        obtain ⟨opening, closing, some, numeral⟩ := shape
        obtain ⟨ending, last, which⟩ : ∃ ending, rest.getLast? = .some ending ∧
            (ending = 'f' ∨ ending = 'F') :=
          closing.elim (fun last => ⟨_, last, .inl rfl⟩) fun last => ⟨_, last, .inr rfl⟩
        refine ⟨letter, ending, opening, which, some, List.all_eq_true.1 numeral, ?_⟩
        rw [List.dropLast_append_getLast? ending last]
      next => cases found
    next => cases found
  · rintro ⟨letter, ending, opening, closing, some, numeral, rfl⟩
    have digitsOnly : digits.all Decimal.isDigit := List.all_eq_true.2 numeral
    simp [precision?, opening, closing, some, digitsOnly]

/-- A format token has no semicolon. -/
theorem semicolon_not_mem_of_precision? {suffix digits : List Char}
    (token : precision? suffix = some digits) : ';' ∉ suffix := by
  obtain ⟨letter, ending, opening, closing, -, numeral, rfl⟩ := precision?_eq_some.1 token
  have digitless : ';' ∉ digits := fun member => absurd (numeral ';' member) (by decide)
  rcases opening with rfl | rfl <;> rcases closing with rfl | rfl <;> simp [digitless]

theorem optionsOf_cons (piece : List Char) (pieces : List (List Char)) :
    optionsOf (piece :: pieces) =
      if Text.trim piece = [] then optionsOf pieces
      else String.ofList (Text.trim piece) :: optionsOf pieces := by
  unfold optionsOf
  split
  next blank => simp [blank]
  next some => simp [some]

/-- The options are read if none is listed twice and none was met before. -/
theorem readOptions_eq_ok {seen options : List String} {pieces : List (List Char)} :
    readOptions seen pieces = .ok options ↔
      options = optionsOf pieces ∧ options.Nodup ∧ ∀ option ∈ options, option ∉ seen := by
  induction pieces generalizing seen options with
  | nil =>
    rw [readOptions]
    constructor
    · rintro ⟨⟩
      exact ⟨rfl, List.nodup_nil, List.forall_mem_nil _⟩
    · rintro ⟨rfl, -, -⟩
      rfl
  | cons piece rest ih =>
    rw [readOptions, optionsOf_cons]
    simp only [String.ofList_eq_empty_iff]
    by_cases blank : Text.trim piece = []
    · rw [if_pos blank, if_pos blank, ih]
    rw [if_neg blank, if_neg blank]
    by_cases met : String.ofList (Text.trim piece) ∈ seen
    · rw [if_pos met]
      constructor
      · rintro ⟨⟩
      · rintro ⟨rfl, -, fresh⟩
        exact absurd met (fresh _ List.mem_cons_self)
    · rw [if_neg met, Outcome.bind_eq_ok]
      constructor
      · rintro ⟨others, later, same⟩
        obtain rfl := Outcome.pure_eq_ok.1 same
        obtain ⟨rfl, distinct, fresh⟩ := ih.1 later
        refine ⟨rfl, List.nodup_cons.2 ⟨fun member => ?_, distinct⟩,
          List.forall_mem_cons.2 ⟨met, fun option member => ?_⟩⟩
        · exact fresh _ member List.mem_cons_self
        · exact List.not_mem_of_not_mem_cons (fresh option member)
      · rintro ⟨rfl, distinct, fresh⟩
        obtain ⟨new, distinct⟩ := List.nodup_cons.1 distinct
        obtain ⟨-, fresh⟩ := List.forall_mem_cons.1 fresh
        refine ⟨_, ih.2 ⟨rfl, distinct, fun option member => ?_⟩, rfl⟩
        exact List.not_mem_cons_of_ne_of_not_mem (fun same => new (same ▸ member))
          (fresh option member)

theorem readKind_eq_ok {suffix : List Char} {kind : ParameterKind} :
    readKind suffix = .ok kind ↔ SpellsKind suffix kind := by
  rw [readKind]
  constructor
  · intro found
    split at found
    next digits token =>
      split at found
      next small =>
        cases found
        obtain ⟨letter, ending, opening, closing, some, numeral, rfl⟩ :=
          precision?_eq_some.1 token
        exact .fixed opening closing some numeral small
      next => cases found
    next =>
      split at found
      next separated =>
        obtain ⟨options, read, found⟩ := Outcome.bind_eq_ok.1 found
        obtain ⟨rfl, distinct, -⟩ := readOptions_eq_ok.1 read
        split at found
        next => cases found
        next some =>
          cases found
          exact .choice separated some distinct
      next => cases found
  · intro spelled
    cases spelled with
    | fixed opening closing some numeral small =>
      rw [precision?_eq_some.2 ⟨_, _, opening, closing, some, numeral, rfl⟩]
      exact if_pos small
    | choice separated some distinct =>
      have options : readOptions [] (Text.fields ';' suffix) =
          .ok (optionsOf (Text.fields ';' suffix)) :=
        readOptions_eq_ok.2 ⟨rfl, distinct, fun _ _ => List.not_mem_nil⟩
      cases token : precision? suffix with
      | some digits => exact absurd separated (semicolon_not_mem_of_precision? token)
      | none =>
        dsimp only
        rw [if_pos separated, options]
        exact if_neg some

/-! ## Specifications and cells -/

theorem readSegment_eq_ok {segment : List Char} {parameter : Parameter} :
    readSegment segment = .ok parameter ↔ SpellsOne segment parameter := by
  rw [readSegment]
  constructor
  · intro found
    split at found
    next uncut =>
      cases found
      exact .free (Text.cutAtChar_eq_none.1 uncut)
    next before after cut =>
      obtain ⟨first, rfl⟩ := Text.cutAtChar_eq_some.1 cut
      dsimp only at found
      split at found
      next => cases found
      next named =>
        obtain ⟨kind, read, same⟩ := Outcome.bind_eq_ok.1 found
        obtain rfl := Outcome.pure_eq_ok.1 same
        exact .kinded first named (readKind_eq_ok.1 read)
  · intro spelled
    cases spelled with
    | free bare => rw [Text.cutAtChar_eq_none.2 bare]
    | kinded first named spelled =>
      rw [Text.cutAtChar_eq_some.2 ⟨first, rfl⟩]
      dsimp only
      rw [if_neg named, readKind_eq_ok.2 spelled]
      rfl

/-- The specifications are read if each is well-formed, no two have the same name, and no
name was met before. -/
theorem readSegments_eq_ok {cell : String} {seen : List String} {pieces : List (List Char)}
    {parameters : List Parameter} :
    readSegments cell seen pieces = .ok parameters ↔
      List.Forall₂ (fun segment parameter => segment ≠ [] ∧ SpellsOne segment parameter)
          (pieces.map Text.trim) parameters ∧
        (parameters.map Parameter.name).Nodup ∧
        ∀ parameter ∈ parameters, parameter.name ∉ seen := by
  induction pieces generalizing seen parameters with
  | nil =>
    rw [readSegments, List.map_nil, List.forall₂_nil_left_iff]
    constructor
    · rintro ⟨⟩
      exact ⟨rfl, List.nodup_nil, List.forall_mem_nil _⟩
    · rintro ⟨rfl, -, -⟩
      rfl
  | cons piece rest ih =>
    rw [readSegments, List.map_cons, List.forall₂_cons_left_iff]
    constructor
    · intro found
      split at found
      next => cases found
      next some =>
        split at found
        next => cases found
        next head spelled =>
          split at found
          next => cases found
          next fresh =>
            obtain ⟨others, later, same⟩ := Outcome.bind_eq_ok.1 found
            obtain rfl := Outcome.pure_eq_ok.1 same
            obtain ⟨all, distinct, unseen⟩ := ih.1 later
            refine ⟨⟨head, others, ⟨some, readSegment_eq_ok.1 spelled⟩, all, rfl⟩,
              List.nodup_cons.2 ⟨fun member => ?_, distinct⟩,
              List.forall_mem_cons.2 ⟨fresh, fun other member => ?_⟩⟩
            · obtain ⟨other, inOthers, sameName⟩ := List.mem_map.1 member
              exact unseen other inOthers (by simp [sameName])
            · exact List.not_mem_of_not_mem_cons (unseen other member)
    · rintro ⟨⟨head, others, ⟨some, spelled⟩, all, rfl⟩, distinct, fresh⟩
      rw [List.map_cons, List.nodup_cons] at distinct
      obtain ⟨unmet, fresh⟩ := List.forall_mem_cons.1 fresh
      have later : readSegments cell (head.name :: seen) rest = .ok others := by
        refine ih.2 ⟨all, distinct.2, fun other member => ?_⟩
        refine List.not_mem_cons_of_ne_of_not_mem (fun same => distinct.1 ?_) (fresh other member)
        exact same ▸ List.mem_map_of_mem member
      rw [if_neg some, readSegment_eq_ok.2 spelled]
      dsimp only
      rw [if_neg unmet, later]
      rfl

/-- The reader accepts exactly the well-formed cells. -/
theorem read_eq_ok {cell : String} {parameters : List Parameter} :
    read cell = .ok parameters ↔ Spells cell.toList parameters := by
  rw [read]
  constructor
  · intro found
    split at found
    next blank =>
      cases found
      exact .blank blank
    next some =>
      obtain ⟨spelled, distinct, -⟩ := readSegments_eq_ok.1 found
      exact .listed some spelled distinct
  · intro spelled
    cases spelled with
    | blank blank => rw [if_pos blank]
    | listed some spelled distinct =>
      rw [if_neg some]
      exact readSegments_eq_ok.2 ⟨spelled, distinct, fun _ _ => List.not_mem_nil⟩

/-- A cell has one list of parameters. -/
theorem Spells.unique {cell : List Char} {parameters others : List Parameter}
    (spelled : Spells cell parameters) (again : Spells cell others) : parameters = others := by
  rw [← String.toList_ofList (l := cell)] at spelled again
  exact Except.ok.inj ((read_eq_ok.2 spelled).symm.trans (read_eq_ok.2 again))

/-- No two parameters of a cell have the same name. -/
theorem Spells.distinct {cell : List Char} {parameters : List Parameter}
    (spelled : Spells cell parameters) : (parameters.map Parameter.name).Nodup := by
  cases spelled with
  | blank => exact List.nodup_nil
  | listed _ _ distinct => exact distinct

/-! ## Blanks around a cell -/

/-- Specifications are read without the blanks around them. -/
theorem readSegments_map_trim (cell : String) (seen : List String) (pieces : List (List Char)) :
    readSegments cell seen (pieces.map Text.trim) = readSegments cell seen pieces := by
  induction pieces generalizing seen with
  | nil => rfl
  | cons piece rest ih =>
    rw [List.map_cons, readSegments, readSegments, Text.trim_trim]
    simp only [ih]

/-- Blanks around a cell make no difference, not even to an error. -/
theorem read_padded {before after : String} (blankBefore : Text.allBlank before)
    (blankAfter : Text.allBlank after) (cell : String) :
    read (before ++ cell ++ after) = read cell := by
  have startBlank := List.all_eq_true.1 blankBefore
  have endBlank := List.all_eq_true.1 blankAfter
  have pieces := Text.map_trim_fields_padded (by decide : Text.isBlank '|' = false) startBlank
    endBlank cell.toList
  rw [read, read]
  simp only [String.toList_append]
  rw [Text.trim_padded startBlank endBlank, ← readSegments_map_trim, pieces,
    readSegments_map_trim]

/-! ## What is reported -/

theorem code_of_readSegments_eq_error {cell : String} {seen : List String}
    {pieces : List (List Char)} {error : DescriptorError}
    (failed : readSegments cell seen pieces = .error error) :
    error.code = "MalformedParameterSpec" ∨ error.code = "DuplicateParameterName" := by
  induction pieces generalizing seen with
  | nil => cases failed
  | cons piece rest ih =>
    rw [readSegments] at failed
    split at failed
    next =>
      cases failed
      exact .inl rfl
    next =>
      split at failed
      next =>
        cases failed
        exact .inl rfl
      next =>
        split at failed
        next =>
          cases failed
          exact .inr rfl
        next =>
          rcases Outcome.bind_eq_error.1 failed with later | ⟨_, _, same⟩
          · exact ih later
          · cases same

/-- A cell that is not well-formed is reported as such. -/
theorem code_of_read_eq_error {cell : String} {error : DescriptorError}
    (failed : read cell = .error error) :
    error.code = "MalformedParameterSpec" ∨ error.code = "DuplicateParameterName" := by
  rw [read] at failed
  split at failed
  next => cases failed
  next => exact code_of_readSegments_eq_error failed

end InstrumentBench.ParameterCell
