import InstrumentBench.Proofs.Command.ParameterCell
import InstrumentBench.Proofs.Decimal.Digits

/-!
# Printed parameter cells

A list of parameters is printed as a cell: the specifications between bars, each a name, a
name with a format token, or a name with its options, every option closed by a semicolon.
Lists are well-formed if nothing in them can be mistaken for a separator or is lost by
trimming.  `read_print` says that a well-formed list is read back from its cell, and that
reading gives no other lists: the lists that some cell spells are the well-formed ones.
-/

namespace InstrumentBench

/-! ## Texts between separators -/

/-- A text that can stand between separators: it is not empty, it has no blanks around it,
and none of the separators stands in it. -/
structure Text.IsItem (separators : List Char) (text : String) : Prop where
  some : text ≠ ""
  tight : Text.trimmed text = text
  free : ∀ separator ∈ separators, separator ∉ text.toList

namespace Text

theorem mem_of_mem_trim {text : List Char} {c : Char} (member : c ∈ trim text) : c ∈ text := by
  obtain ⟨before, after, -, -, whole⟩ := exists_padding text
  rw [whole]
  simp [member]

/-- A trimmed text does not start with a blank. -/
theorem isBlank_of_mem_head? {text : List Char} (tight : trim text = text) :
    ∀ c ∈ text.head?, isBlank c = false := by
  intro c first
  obtain ⟨rest, rfl⟩ := List.head?_eq_some_iff.1 first
  by_contra blank
  have shorter : trim (c :: rest) = trim rest := by
    have single : ∀ other ∈ [c], isBlank other := by simpa using blank
    simpa using trim_padded single (List.forall_mem_nil _) rest
  obtain ⟨before, after, -, -, whole⟩ := exists_padding rest
  have lengths := congrArg List.length whole
  rw [← shorter, tight] at lengths
  simp only [List.length_append, List.length_cons] at lengths
  omega

/-- A text whose last character, if there is one, is not blank. -/
def EndsVisibly (text : List Char) : Prop :=
  ∀ c ∈ text.getLast?, isBlank c = false

namespace EndsVisibly

theorem of_trim {text : List Char} (tight : trim text = text) : EndsVisibly text := by
  obtain ⟨-, -, -, visible⟩ := trimEndOf_append isBlank (trimStart text)
  intro c last
  rw [← tight] at last
  exact visible c last

theorem nil : EndsVisibly [] := by
  intro c last
  cases last

theorem append {before after : List Char} (first : EndsVisibly before)
    (second : EndsVisibly after) : EndsVisibly (before ++ after) := by
  cases after with
  | nil => rwa [List.append_nil]
  | cons head rest =>
    intro c last
    rw [List.getLast?_append_of_ne_nil _ (List.cons_ne_nil head rest)] at last
    exact second c last

theorem cons {head : Char} {rest : List Char} (visible : isBlank head = false)
    (later : EndsVisibly rest) : EndsVisibly (head :: rest) := by
  have single : EndsVisibly [head] := by
    intro c last
    obtain rfl := Option.some.inj last
    exact visible
  exact single.append later

end EndsVisibly

theorem mem_joined {separator : Char} {pieces : List (List Char)} {piece : List Char} {c : Char}
    (listed : piece ∈ pieces) (member : c ∈ piece) : c ∈ joined separator pieces := by
  induction pieces with
  | nil => cases listed
  | cons first others ih =>
    cases others with
    | nil =>
      obtain rfl := List.mem_singleton.1 listed
      exact member
    | cons next more =>
      rw [joined.eq_3 _ _ _ (List.cons_ne_nil next more), List.mem_append, List.mem_cons]
      rcases List.mem_cons.1 listed with rfl | later
      · exact .inl member
      · exact .inr (.inr (ih later))

/-- What stands in a field stands in the text. -/
theorem mem_of_mem_fields {separator : Char} {text piece : List Char} {c : Char}
    (listed : piece ∈ fields separator text) (member : c ∈ piece) : c ∈ text := by
  rw [← joined_fields separator text]
  exact mem_joined listed member

namespace IsItem

variable {separators : List Char} {text : String}

theorem toList_ne_nil (item : IsItem separators text) : text.toList ≠ [] := by
  simpa using item.some

theorem trim_toList (item : IsItem separators text) : trim text.toList = text.toList := by
  rw [← toList_trimmed, item.tight]

theorem not_mem (item : IsItem separators text) {separator : Char}
    (listed : separator ∈ separators) : separator ∉ text.toList :=
  item.free separator listed

/-- A trimmed text is an item if something is left of it and it has no separators. -/
theorem of_trim {inner : List Char} (some : trim inner ≠ [])
    (free : ∀ separator ∈ separators, separator ∉ inner) :
    IsItem separators (String.ofList (trim inner)) where
  some := by simpa using some
  tight := by rw [trimmed, String.toList_ofList, trim_trim]
  free separator listed member :=
    free separator listed (mem_of_mem_trim (by simpa using member))

/-- An item before a text that ends visibly has no blanks around it. -/
theorem trim_append (item : IsItem separators text) {after : List Char}
    (visible : EndsVisibly after) : trim (text.toList ++ after) = text.toList ++ after := by
  apply trim_eq_self
  · intro c first
    rw [List.head?_append_of_ne_nil _ item.toList_ne_nil] at first
    exact isBlank_of_mem_head? item.trim_toList c first
  · exact (EndsVisibly.of_trim item.trim_toList).append visible

end IsItem

end Text

/-! ## Well-formed parameters and how they are printed -/

/-- The most decimal places are thirty; options are items without bars and semicolons, at
least one and none twice. -/
def ParameterKind.WellFormed : ParameterKind → Prop
  | free => True
  | fixed places => places ≤ 30
  | choice options =>
    options ≠ [] ∧ options.Nodup ∧ ∀ option ∈ options, Text.IsItem ['|', ';'] option

/-- The name is an item without bars and colons. -/
structure Parameter.WellFormed (parameter : Parameter) : Prop where
  name : Text.IsItem ['|', ':'] parameter.name
  kind : parameter.kind.WellFormed

/-- The format token for a number of decimal places. -/
def ParameterKind.formatToken (places : Nat) : List Char :=
  'V' :: '.' :: (Decimal.digits places ++ ['f'])

/-- Options, each closed by a semicolon. -/
def ParameterKind.closed (options : List String) : List Char :=
  options.flatMap fun option => option.toList ++ [';']

/-- What a specification has after the name. -/
def ParameterKind.suffix : ParameterKind → List Char
  | free => []
  | fixed places => ':' :: formatToken places
  | choice options => ':' :: closed options

/-- A parameter as a specification. -/
def Parameter.specification (parameter : Parameter) : List Char :=
  parameter.name.toList ++ parameter.kind.suffix

namespace ParameterCell

/-- A list of well-formed parameters, no two of the same name. -/
structure WellFormed (parameters : List Parameter) : Prop where
  each : ∀ parameter ∈ parameters, parameter.WellFormed
  distinct : (parameters.map Parameter.name).Nodup

/-- The cell that lists some parameters. -/
def print (parameters : List Parameter) : String :=
  String.ofList (Text.joined '|' (parameters.map Parameter.specification))

end ParameterCell

/-! ## What is printed is read back -/

namespace ParameterKind

theorem closed_cons (option : String) (rest : List String) :
    closed (option :: rest) = option.toList ++ ';' :: closed rest := by
  simp [closed]

variable {options : List String}

theorem endsVisibly_closed (items : ∀ option ∈ options, Text.IsItem ['|', ';'] option) :
    Text.EndsVisibly (closed options) := by
  induction options with
  | nil => exact .nil
  | cons option rest ih =>
    obtain ⟨item, items⟩ := List.forall_mem_cons.1 items
    rw [closed_cons]
    exact (Text.EndsVisibly.of_trim item.trim_toList).append (.cons (by decide) (ih items))

theorem trim_closed (items : ∀ option ∈ options, Text.IsItem ['|', ';'] option) :
    Text.trim (closed options) = closed options := by
  cases options with
  | nil => rfl
  | cons option rest =>
    obtain ⟨item, items⟩ := List.forall_mem_cons.1 items
    rw [closed_cons]
    exact item.trim_append (.cons (by decide) (endsVisibly_closed items))

/-- The options are what stands between the semicolons. -/
theorem optionsOf_closed (items : ∀ option ∈ options, Text.IsItem ['|', ';'] option) :
    ParameterCell.optionsOf (Text.fields ';' (closed options)) = options := by
  induction options with
  | nil => rfl
  | cons option rest ih =>
    obtain ⟨item, items⟩ := List.forall_mem_cons.1 items
    have absent : ';' ∉ option.toList := item.not_mem (by simp)
    rw [closed_cons, Text.fields_append absent, ParameterCell.optionsOf_cons, item.trim_toList,
      if_neg item.toList_ne_nil, ih items, String.ofList_toList]

/-- A format token has no blanks. -/
theorem trim_formatToken (places : Nat) :
    Text.trim (formatToken places) = formatToken places := by
  apply Text.trim_of_visible
  intro c member
  rw [formatToken, List.mem_cons, List.mem_cons, List.mem_append, List.mem_singleton] at member
  rcases member with rfl | rfl | digit | rfl
  · decide
  · decide
  · exact Decimal.isBlank_of_isDigit (Decimal.isDigit_of_mem_digits digit)
  · decide

variable {kind : ParameterKind}

theorem WellFormed.bar_not_mem_suffix (wellFormed : kind.WellFormed) : '|' ∉ kind.suffix := by
  cases kind with
  | free => exact List.not_mem_nil
  | fixed places =>
    have digits : '|' ∉ Decimal.digits places := fun member =>
      absurd (Decimal.isDigit_of_mem_digits member) (by decide)
    simp [suffix, formatToken, digits]
  | choice options =>
    obtain ⟨-, -, items⟩ := wellFormed
    have absent : ∀ option ∈ options, '|' ∉ option.toList := fun option member =>
      (items option member).not_mem (by simp)
    simpa [suffix, closed] using absent

theorem WellFormed.endsVisibly_suffix (wellFormed : kind.WellFormed) :
    Text.EndsVisibly kind.suffix := by
  cases kind with
  | free => exact .nil
  | fixed places => exact .cons (by decide) (.of_trim (trim_formatToken places))
  | choice options =>
    obtain ⟨-, -, items⟩ := wellFormed
    exact .cons (by decide) (endsVisibly_closed items)

theorem spellsKind_formatToken {places : Nat} (small : places ≤ 30) :
    ParameterCell.SpellsKind (formatToken places) (.fixed places) := by
  have spelled := ParameterCell.SpellsKind.fixed (.inl rfl) (.inl rfl)
    (Decimal.digits_ne_nil places) (fun c member => Decimal.isDigit_of_mem_digits member)
    (by rw [Decimal.value_digits]; exact small)
  rw [Decimal.value_digits] at spelled
  exact spelled

theorem spellsKind_closed {options : List String} (wellFormed : (choice options).WellFormed) :
    ParameterCell.SpellsKind (closed options) (.choice options) := by
  obtain ⟨some, distinct, items⟩ := wellFormed
  have separated : ';' ∈ closed options := by
    obtain ⟨option, rest, rfl⟩ := List.exists_cons_of_ne_nil some
    simp [closed]
  have read := optionsOf_closed items
  have spelled := ParameterCell.SpellsKind.choice separated (by rwa [read]) (by rwa [read])
  rwa [read] at spelled

end ParameterKind

namespace Parameter.WellFormed

variable {parameter : Parameter}

theorem trim_specification (wellFormed : parameter.WellFormed) :
    Text.trim parameter.specification = parameter.specification :=
  wellFormed.name.trim_append wellFormed.kind.endsVisibly_suffix

theorem specification_ne_nil (wellFormed : parameter.WellFormed) :
    parameter.specification ≠ [] := by
  simp [specification, wellFormed.name.toList_ne_nil]

theorem bar_not_mem_specification (wellFormed : parameter.WellFormed) :
    '|' ∉ parameter.specification := by
  have named : '|' ∉ parameter.name.toList := wellFormed.name.not_mem (by simp)
  simp [specification, named, wellFormed.kind.bar_not_mem_suffix]

/-- The specification of a parameter spells it. -/
theorem spellsOne_specification (wellFormed : parameter.WellFormed) :
    ParameterCell.SpellsOne parameter.specification parameter := by
  have bare : ':' ∉ parameter.name.toList := wellFormed.name.not_mem (by simp)
  have named : Text.trim parameter.name.toList ≠ [] := by
    rw [wellFormed.name.trim_toList]
    exact wellFormed.name.toList_ne_nil
  have kinded : ∀ {after : List Char}, Text.trim after = after →
      ParameterCell.SpellsKind after parameter.kind →
        ParameterCell.SpellsOne (parameter.name.toList ++ ':' :: after) parameter := by
    intro after tight spelled
    have one := ParameterCell.SpellsOne.kinded bare named (by rwa [tight])
    rwa [wellFormed.name.trim_toList, String.ofList_toList] at one
  have kind := wellFormed.kind
  obtain ⟨name, _ | places | options⟩ := parameter
  case free =>
    have free := ParameterCell.SpellsOne.free bare
    rw [String.ofList_toList] at free
    simpa [specification, ParameterKind.suffix] using free
  case fixed =>
    exact kinded (ParameterKind.trim_formatToken places) (ParameterKind.spellsKind_formatToken kind)
  case choice =>
    exact kinded (ParameterKind.trim_closed kind.2.2) (ParameterKind.spellsKind_closed kind)

end Parameter.WellFormed

namespace ParameterCell

/-- A printed cell spells what was printed. -/
theorem WellFormed.spells_print {parameters : List Parameter} (wellFormed : WellFormed parameters) :
    Spells (print parameters).toList parameters := by
  rw [print, String.toList_ofList]
  cases parameters with
  | nil => exact .blank rfl
  | cons first rest =>
    have each := wellFormed.each
    have whole : Text.fields '|' (Text.joined '|' ((first :: rest).map Parameter.specification)) =
        (first :: rest).map Parameter.specification := by
      refine Text.fields_eq_iff.2 ⟨by simp, ?_, rfl⟩
      rw [List.forall_mem_map]
      exact fun parameter member => (each parameter member).bar_not_mem_specification
    have tight : ((first :: rest).map Parameter.specification).map Text.trim =
        (first :: rest).map Parameter.specification := by
      rw [List.map_map]
      exact List.map_congr_left fun parameter member => (each parameter member).trim_specification
    refine .listed ?_ ?_ wellFormed.distinct
    case refine_1 =>
      have named := (each first List.mem_cons_self).name
      intro blank
      refine named.toList_ne_nil (named.trim_toList ▸ Text.trim_eq_nil.2 fun c member => ?_)
      refine Text.trim_eq_nil.1 blank c (Text.mem_joined List.mem_cons_self ?_)
      exact List.mem_append_left _ member
    case refine_2 =>
      rw [whole, tight, List.forall₂_map_left_iff, List.forall₂_same]
      exact fun parameter member =>
        ⟨(each parameter member).specification_ne_nil,
          (each parameter member).spellsOne_specification⟩

/-! ## What is read is well-formed -/

theorem SpellsKind.wellFormed {suffix : List Char} {kind : ParameterKind}
    (spelled : SpellsKind suffix kind) (bare : '|' ∉ suffix) : kind.WellFormed := by
  cases spelled with
  | fixed _ _ _ _ small => exact small
  | choice _ some distinct =>
    refine ⟨some, distinct, fun option member => ?_⟩
    obtain ⟨piece, kept, rfl⟩ := List.mem_map.1 member
    obtain ⟨trimmed, nonempty⟩ := List.mem_filter.1 kept
    obtain ⟨field, listed, rfl⟩ := List.mem_map.1 trimmed
    refine Text.IsItem.of_trim (of_decide_eq_true nonempty) ?_
    simp only [List.forall_mem_cons]
    exact ⟨fun inside => bare (Text.mem_of_mem_fields listed inside),
      Text.not_mem_of_mem_fields listed, List.forall_mem_nil _⟩

theorem SpellsOne.wellFormed {segment : List Char} {parameter : Parameter}
    (spelled : SpellsOne segment parameter) (some : segment ≠ [])
    (tight : Text.trim segment = segment) (bare : '|' ∉ segment) : parameter.WellFormed := by
  cases spelled with
  | free free =>
    refine ⟨?_, trivial⟩
    rw [← tight]
    refine Text.IsItem.of_trim (by rwa [tight]) ?_
    simp [bare, free]
  | kinded first named spelled =>
    simp only [List.mem_append, List.mem_cons, not_or] at bare
    refine ⟨Text.IsItem.of_trim named (by simp [bare, first]), spelled.wellFormed ?_⟩
    exact fun inside => bare.2.2 (Text.mem_of_mem_trim inside)

theorem wellFormed_of_forall₂ {segments : List (List Char)} {parameters : List Parameter}
    (pieces : ∀ segment ∈ segments, Text.trim segment = segment ∧ '|' ∉ segment)
    (spelled : List.Forall₂ (fun segment parameter => segment ≠ [] ∧ SpellsOne segment parameter)
      segments parameters) :
    ∀ parameter ∈ parameters, parameter.WellFormed := by
  induction spelled with
  | nil => exact List.forall_mem_nil _
  | cons head _ ih =>
    obtain ⟨⟨tight, bare⟩, pieces⟩ := List.forall_mem_cons.1 pieces
    exact List.forall_mem_cons.2 ⟨head.2.wellFormed head.1 tight bare, ih pieces⟩

/-- Whatever a cell spells is well-formed. -/
theorem Spells.wellFormed {cell : List Char} {parameters : List Parameter}
    (spelled : Spells cell parameters) : WellFormed parameters := by
  cases spelled with
  | blank => exact ⟨List.forall_mem_nil _, List.nodup_nil⟩
  | listed _ spelled distinct =>
    refine ⟨wellFormed_of_forall₂ ?_ spelled, distinct⟩
    rw [List.forall_mem_map]
    intro field listed
    exact ⟨Text.trim_trim field, fun inside =>
      Text.not_mem_of_mem_fields listed (Text.mem_of_mem_trim inside)⟩

/-- A well-formed list is read back from the cell it is printed as, and every list that is
read from a cell is well-formed.  So the lists that can be read are the well-formed ones. -/
theorem read_print :
    (∀ parameters, WellFormed parameters → read (print parameters) = .ok parameters) ∧
    (∀ cell parameters, read cell = .ok parameters → WellFormed parameters) ∧
    ∀ parameters, (∃ cell, read cell = .ok parameters) ↔ WellFormed parameters := by
  have back : ∀ parameters, WellFormed parameters → read (print parameters) = .ok parameters :=
    fun parameters wellFormed => read_eq_ok.2 wellFormed.spells_print
  have only : ∀ cell parameters, read cell = .ok parameters → WellFormed parameters :=
    fun cell parameters found => (read_eq_ok.1 found).wellFormed
  refine ⟨back, only, fun parameters => ⟨?_, ?_⟩⟩
  · rintro ⟨cell, found⟩
    exact only cell parameters found
  · intro wellFormed
    exact ⟨print parameters, back parameters wellFormed⟩

/-- A single option that looks like a format token, options with colons, the most decimal
places, and a name with a blank inside. -/
theorem read_print_lookalikes :
    let parameters : List Parameter := [⟨"CH", .choice ["V.3f"]⟩,
      ⟨"MODE", .choice ["SRC:A", "V.f:"]⟩, ⟨"V.3f", .fixed 30⟩, ⟨"rise time", .free⟩]
    print parameters = "CH:V.3f;|MODE:SRC:A;V.f:;|V.3f:V.30f|rise time" ∧
      WellFormed parameters ∧ read (print parameters) = .ok parameters ∧
      read " CH : V.3f ; |MODE:SRC:A;;V.f:|V.3f:v.0030F|rise time " = .ok parameters := by
  intro parameters
  have padded : read " CH : V.3f ; |MODE:SRC:A;;V.f:|V.3f:v.0030F|rise time " =
      .ok parameters := by decide
  have wellFormed := read_print.2.1 _ _ padded
  exact ⟨by decide, wellFormed, read_print.1 parameters wellFormed, padded⟩

end ParameterCell

end InstrumentBench
