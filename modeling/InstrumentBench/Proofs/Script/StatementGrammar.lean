import InstrumentBench.Proofs.Script.LiteralGrammar
import InstrumentBench.Proofs.Text.Fields
import InstrumentBench.Script.Statement

/-!
# Well-formed statements

The grammar of the lines of a script, apart from the reader: lines that do nothing, lines
that open a resource under a name, and calls that send a command through a handle.  The
reader looks for keywords in a fixed order, and its forms overlap.  `read_of_spells` says
that this never keeps it from reading a well-formed line, and `spells_iff` that it accepts
no other line but one that sends through something that is no name.
-/

namespace InstrumentBench.Statement

/-- The well-formed lines, without blanks around them, and their statements. -/
inductive Spells : List Char → Statement → Prop where
  | empty : Spells [] .nothing
  | comment {text : List Char} : Spells ('#' :: text) .nothing
  | imports : Spells "import pyvisa".toList .nothing
  | manager : Spells "rm = pyvisa.ResourceManager()".toList .nothing
  | opens {handle literal text : List Char} (named : isIdentifier handle)
      (quoted : Literal.Spells literal text) :
      Spells (handle ++ " = rm.open_resource(".toList ++ literal ++ ")".toList)
        (.opens (String.ofList handle) (String.ofList text))
  | writes {handle literal text : List Char} (named : isIdentifier (Text.trim handle))
      (quoted : Literal.Spells literal text) :
      Spells (handle ++ ".write(".toList ++ literal ++ ")".toList)
        (.sends (String.ofList (Text.trim handle)) .set (String.ofList text))
  | queries {handle literal text : List Char} (named : isIdentifier (Text.trim handle))
      (quoted : Literal.Spells literal text) :
      Spells ("print(".toList ++ handle ++ ".query(".toList ++ literal ++ "))".toList)
        (.sends (String.ofList (Text.trim handle)) .get (String.ofList text))

/-! ## Names -/

/-- The characters of names lie between the digits and the small letters. -/
theorem toNat_of_isNameChar {c : Char} (named : isNameChar c) :
    48 ≤ c.toNat ∧ c.toNat ≤ 122 := by
  have cases : (decide (65 ≤ c.val ∧ c.val ≤ 90) || decide (97 ≤ c.val) && decide (c.val ≤ 122) ||
      decide (48 ≤ c.val) && decide (c.val ≤ 57) || decide (c = '_')) = true := named
  simp only [Bool.or_eq_true, Bool.and_eq_true, decide_eq_true_eq, UInt32.le_iff_toNat_le,
    Char.toNat_val, UInt32.reduceToNat] at cases
  rcases cases with ((upper | lower) | digit) | rfl
  · omega
  · omega
  · omega
  · decide

theorem isBlank_of_isNameChar {c : Char} (named : isNameChar c) : Text.isBlank c = false := by
  have bounds := toNat_of_isNameChar named
  simp only [Text.isBlank, Bool.or_eq_false_iff, Bool.and_eq_false_iff, decide_eq_false_iff_not,
    beq_eq_false_iff_ne]
  omega

theorem isControl_of_isNameChar {c : Char} (named : isNameChar c) :
    Literal.isControl c = false := by
  have bounds := toNat_of_isNameChar named
  simp only [Literal.isControl, Bool.or_eq_false_iff, Bool.and_eq_false_iff,
    decide_eq_false_iff_not]
  omega

theorem isNameChar_of_mem {name : List Char} (named : isIdentifier name) {c : Char}
    (member : c ∈ name) : isNameChar c := by
  cases name with
  | nil => cases member
  | cons first others =>
    simp only [isIdentifier, Bool.and_eq_true, List.all_eq_true] at named
    rcases List.mem_cons.1 member with rfl | later
    · simp only [isNameStart, isNameChar, Char.isAlphanum, Bool.or_eq_true] at named ⊢
      exact named.1.imp_left .inl
    · exact named.2 c later

/-- A character that is neither blank nor part of names is not in a handle. -/
theorem not_mem_handle {handle : List Char} (named : isIdentifier (Text.trim handle)) {c : Char}
    (visible : Text.isBlank c = false) (notNamed : isNameChar c = false) : c ∉ handle := by
  intro member
  obtain ⟨before, after, blankBefore, blankAfter, whole⟩ := Text.exists_padding handle
  rw [whole, List.mem_append, List.mem_append] at member
  rcases member with (blank | inName) | blank
  · simp [blankBefore c blank] at visible
  · simp [isNameChar_of_mem named inName] at notNamed
  · simp [blankAfter c blank] at visible

/-- A character that is not part of names is not in a name. -/
theorem not_mem_name {name : List Char} (named : isIdentifier name) {c : Char}
    (notNamed : isNameChar c = false) : c ∉ name := fun member => by
  simp [isNameChar_of_mem named member] at notNamed

/-- There are no blanks around a name. -/
theorem trim_name {name : List Char} (named : isIdentifier name) : Text.trim name = name := by
  refine Text.trim_eq_self (fun c first => ?_) (fun c last => ?_)
  · exact isBlank_of_isNameChar (isNameChar_of_mem named (List.mem_of_head? first))
  · exact isBlank_of_isNameChar (isNameChar_of_mem named (List.mem_of_getLast? last))

/-! ## Well-formed lines are read -/

theorem quote_mem_literal {literal text : List Char} (quoted : Literal.Spells literal text) :
    '"' ∈ literal := by
  cases quoted with
  | quoted => exact List.mem_cons_self

/-- A line with a literal does something unless it is a comment. -/
theorem isIdle_of_quote_mem {line : List Char} (quote : '"' ∈ line)
    (noComment : line.head? ≠ some '#') :
    isIdle line = false := by
  have differs : ∀ other : String, '"' ∉ other.toList → line ≠ other.toList :=
    fun other absent same => absent (same ▸ quote)
  have notEmpty : line ≠ [] := List.ne_nil_of_mem quote
  simp [isIdle, notEmpty, noComment, differs importLine (by decide),
    differs managerLine (by decide)]

/-- A line that shows a reply has its first parenthesis behind `print`. -/
theorem query?_eq_none {start rest : List Char} (first : '(' ∉ start)
    (elsewhere : start ≠ "print".toList) : query? (start ++ '(' :: rest) = none := by
  have unopened : Text.afterOpening printCall.toList (start ++ '(' :: rest) = none := by
    rw [Option.eq_none_iff_forall_ne_some]
    intro after opened
    have whole : start ++ '(' :: rest = "print".toList ++ '(' :: after := by
      rw [Text.afterOpening_eq_some.1 opened]
      simp [printCall]
    exact elsewhere (Text.eq_of_append_cons first (by decide) whole).1
  rw [query?, unopened]
  rfl

/-- A line that opens a resource has an assignment before its first parenthesis. -/
theorem opening?_eq_none {start rest : List Char} (first : '(' ∉ start)
    (unassigned : '=' ∉ start) : opening? (start ++ '(' :: rest) = none := by
  rw [opening?]
  split
  next => rfl
  next handle right assigned =>
    split
    next named =>
      rw [Option.map_eq_none_iff, Option.eq_none_iff_forall_ne_some]
      intro after opened
      have whole : start ++ '(' :: rest =
          (handle ++ " = rm.open_resource".toList) ++ '(' :: after := by
        rw [Text.eq_append_of_cutAt assigned, Text.afterOpening_eq_some.1 opened]
        simp [assignment, openCall]
      have absent : '(' ∉ handle ++ " = rm.open_resource".toList := by
        simp [not_mem_name named (by decide : isNameChar '(' = false)]
      obtain ⟨rfl, -⟩ := Text.eq_of_append_cons first absent whole
      simp at unassigned
    next => rfl

/-- A literal that is closed as it should be is the argument. -/
theorem argument_of_spells {literal text : List Char} (quoted : Literal.Spells literal text)
    {closing : String} (tight : Text.trimEnd closing.toList = closing.toList)
    (fault : StatementFault) :
    argument closing fault (literal ++ closing.toList) = .ok (String.ofList text) := by
  rw [argument, Literal.decode_eq_ok.2 ⟨literal, quoted, rfl⟩]
  exact if_pos tight

/-- The call of a method is found behind a handle. -/
theorem call?_of_spells {handle literal text : List Char} (dotless : '.' ∉ handle)
    (quoted : Literal.Spells literal text) (method : List Char) {closing : String}
    (tight : Text.trimEnd closing.toList = closing.toList) (direction : Direction) :
    call? (String.ofList ('.' :: method)) closing direction
      (handle ++ ('.' :: method ++ (literal ++ closing.toList))) =
      some (.ok (.sends (String.ofList (Text.trim handle)) direction (String.ofList text))) := by
  rw [call?, String.toList_ofList, Text.cutAt_append dotless, Option.map_some]
  dsimp only
  rw [argument_of_spells quoted tight]
  rfl

/-- An opening is found if nothing in the handle looks like an assignment. -/
theorem opening?_of_spells {handle literal text : List Char} (named : isIdentifier handle)
    (quoted : Literal.Spells literal text) :
    opening? (handle ++ (assignment.toList ++ (openCall.toList ++ (literal ++ ")".toList)))) =
      some (.ok (.opens (String.ofList handle) (String.ofList text))) := by
  have cut := Text.cutAt_append (not_mem_name named (by decide : isNameChar ' ' = false))
    "= ".toList (openCall.toList ++ (literal ++ ")".toList))
  have pattern : assignment.toList = ' ' :: "= ".toList := rfl
  rw [opening?, pattern, cut]
  dsimp only
  rw [if_pos named, Text.afterOpening_append, Option.map_some,
    argument_of_spells quoted (by decide)]
  rfl

theorem head?_append_ne {c : Char} {start rest : List Char} (absent : c ∉ start)
    (other : rest.head? ≠ some c) : (start ++ rest).head? ≠ some c := by
  cases start with
  | nil => exact other
  | cons first others =>
    intro same
    obtain rfl : first = c := by simpa using same
    exact absent List.mem_cons_self

section Forms

variable {handle literal text : List Char}

theorem read_opens (named : isIdentifier handle) (quoted : Literal.Spells literal text) :
    read (handle ++ " = rm.open_resource(".toList ++ literal ++ ")".toList) =
      .ok (.opens (String.ofList handle) (String.ofList text)) := by
  obtain ⟨line, whole⟩ : ∃ line,
      line = handle ++ " = rm.open_resource(".toList ++ literal ++ ")".toList := ⟨_, rfl⟩
  have absent : ∀ {c : Char}, isNameChar c = false → c ∉ handle := fun other =>
    not_mem_name named other
  have assigned : line =
      handle ++ (assignment.toList ++ (openCall.toList ++ (literal ++ ")".toList))) := by
    simp [whole, assignment, openCall]
  have called : line =
      (handle ++ " = rm.open_resource".toList) ++ '(' :: (literal ++ ")".toList) := by
    simp [whole]
  have busy : isIdle line = false := by
    refine isIdle_of_quote_mem (by simp [whole, quote_mem_literal quoted]) ?_
    rw [assigned]
    exact head?_append_ne (absent (by decide)) (by simp [assignment])
  have notShown : query? line = none := by
    rw [called]
    refine query?_eq_none (by simp [absent (by decide : isNameChar '(' = false)]) fun same => ?_
    have space : ' ' ∈ "print".toList := by simp [← same]
    exact absurd space (by decide)
  have opened := opening?_of_spells named quoted
  rw [← assigned] at opened
  rw [← whole, read, busy, notShown, opened]
  rfl

theorem read_writes (named : isIdentifier (Text.trim handle))
    (quoted : Literal.Spells literal text) :
    read (handle ++ ".write(".toList ++ literal ++ ")".toList) =
      .ok (.sends (String.ofList (Text.trim handle)) .set (String.ofList text)) := by
  obtain ⟨line, whole⟩ : ∃ line, line = handle ++ ".write(".toList ++ literal ++ ")".toList :=
    ⟨_, rfl⟩
  have absent : ∀ {c : Char}, Text.isBlank c = false → isNameChar c = false → c ∉ handle :=
    fun visible other => not_mem_handle named visible other
  have pointed : line = handle ++ ('.' :: "write(".toList ++ (literal ++ ")".toList)) := by
    simp [whole]
  have called : line = (handle ++ ".write".toList) ++ '(' :: (literal ++ ")".toList) := by
    simp [whole]
  have first : '(' ∉ handle ++ ".write".toList := by
    simp [absent (by decide) (by decide : isNameChar '(' = false)]
  have busy : isIdle line = false := by
    refine isIdle_of_quote_mem (by simp [whole, quote_mem_literal quoted]) ?_
    rw [pointed]
    exact head?_append_ne (absent (by decide) (by decide)) (by simp)
  have notShown : query? line = none := by
    rw [called]
    refine query?_eq_none first fun same => ?_
    have point : '.' ∈ "print".toList := by simp [← same]
    exact absurd point (by decide)
  have notOpened : opening? line = none := by
    rw [called]
    exact opening?_eq_none first
      (by simp [absent (by decide) (by decide : isNameChar '=' = false)])
  have written := call?_of_spells (absent (by decide) (by decide)) quoted "write(".toList
    (by decide : Text.trimEnd ")".toList = ")".toList) .set
  rw [← pointed] at written
  rw [← whole, read, busy, notShown, notOpened]
  exact congrArg (Option.getD · _) written

theorem read_queries (named : isIdentifier (Text.trim handle))
    (quoted : Literal.Spells literal text) :
    read ("print(".toList ++ handle ++ ".query(".toList ++ literal ++ "))".toList) =
      .ok (.sends (String.ofList (Text.trim handle)) .get (String.ofList text)) := by
  obtain ⟨line, whole⟩ : ∃ line,
      line = "print(".toList ++ handle ++ ".query(".toList ++ literal ++ "))".toList := ⟨_, rfl⟩
  have printed : line =
      printCall.toList ++ (handle ++ ('.' :: "query(".toList ++ (literal ++ "))".toList))) := by
    simp [whole, printCall]
  have busy : isIdle line = false :=
    isIdle_of_quote_mem (by simp [whole, quote_mem_literal quoted]) (by simp [whole])
  have shown : query? line =
      some (.ok (.sends (String.ofList (Text.trim handle)) .get (String.ofList text))) := by
    rw [printed, query?, Text.afterOpening_append]
    exact call?_of_spells (not_mem_handle named (by decide) (by decide)) quoted "query(".toList
      (by decide : Text.trimEnd "))".toList = "))".toList) .get
  rw [← whole, read, busy, shown]
  rfl

end Forms

/-- A well-formed line is read as its statement. -/
theorem read_of_spells {line : List Char} {statement : Statement}
    (spelled : Spells line statement) : read line = .ok statement := by
  cases spelled with
  | empty => rfl
  | comment => rfl
  | imports => decide
  | manager => decide
  | opens named quoted => exact read_opens named quoted
  | writes named quoted => exact read_writes named quoted
  | queries named quoted => exact read_queries named quoted

/-- A line is well-formed in one way only. -/
theorem Spells.unique {line : List Char} {statement other : Statement}
    (spelled : Spells line statement) (again : Spells line other) : statement = other :=
  Except.ok.inj ((read_of_spells spelled).symm.trans (read_of_spells again))

/-! ## What is read is well-formed -/

/-- Whether a statement sends through a name, if it sends at all. -/
def Named : Statement → Prop
  | .sends handle _ _ => isIdentifier handle.toList
  | _ => True

theorem Spells.named {line : List Char} {statement : Statement}
    (spelled : Spells line statement) : statement.Named := by
  cases spelled with
  | writes named => simpa [Named] using named
  | queries named => simpa [Named] using named
  | _ => trivial

theorem argument_eq_ok {closing value : String} {fault : StatementFault} {text : List Char} :
    argument closing fault text = .ok value ↔
      ∃ literal rest, Literal.Spells literal value.toList ∧ text = literal ++ rest ∧
        Text.trimEnd rest = closing.toList := by
  rw [argument]
  constructor
  · intro accepted
    split at accepted
    next => cases accepted
    next decoded rest found =>
      split at accepted
      next closed =>
        cases accepted
        obtain ⟨literal, spelled, whole⟩ := Literal.decode_eq_ok.1 found
        exact ⟨literal, rest, by rwa [String.toList_ofList], whole, closed⟩
      next => cases accepted
  · rintro ⟨literal, rest, spelled, whole, closed⟩
    rw [Literal.decode_eq_ok.2 ⟨literal, spelled, whole⟩]
    simp [closed]

/-- A closing at the end of a text without blanks around it has none after it. -/
theorem closing_of_tight {start rest : List Char} {closing : String}
    (tight : Text.trim (start ++ rest) = start ++ rest)
    (closed : Text.trimEnd rest = closing.toList) : rest = closing.toList :=
  (Text.trimEnd_eq_self_of_trim_append tight).symm.trans closed

theorem call?_eq_some_ok {method closing : String} {direction : Direction} {line : List Char}
    {statement : Statement} (called : call? method closing direction line = some (.ok statement)) :
    ∃ handle literal rest text, line = handle ++ method.toList ++ literal ++ rest ∧
      Literal.Spells literal text ∧ Text.trimEnd rest = closing.toList ∧
      statement = .sends (String.ofList (Text.trim handle)) direction (String.ofList text) := by
  obtain ⟨⟨handle, after⟩, cut, accepted⟩ := Option.map_eq_some_iff.1 called
  obtain ⟨value, argued, same⟩ := Outcome.bind_eq_ok.1 accepted
  obtain ⟨literal, rest, spelled, rfl, closed⟩ := argument_eq_ok.1 argued
  refine ⟨handle, literal, rest, value.toList, ?_, spelled, closed, ?_⟩
  · simpa using Text.eq_append_of_cutAt cut
  · simpa using (Outcome.pure_eq_ok.1 same).symm

theorem opening?_eq_some_ok {line : List Char} {statement : Statement}
    (opened : opening? line = some (.ok statement)) :
    ∃ handle literal rest text, line = handle ++ " = rm.open_resource(".toList ++ literal ++ rest ∧
      isIdentifier handle ∧ Literal.Spells literal text ∧ Text.trimEnd rest = ")".toList ∧
      statement = .opens (String.ofList handle) (String.ofList text) := by
  rw [opening?] at opened
  split at opened
  next => cases opened
  next handle right assigned =>
    split at opened
    next named =>
      obtain ⟨after, called, accepted⟩ := Option.map_eq_some_iff.1 opened
      obtain ⟨value, argued, same⟩ := Outcome.bind_eq_ok.1 accepted
      obtain ⟨literal, rest, spelled, rfl, closed⟩ := argument_eq_ok.1 argued
      refine ⟨handle, literal, rest, value.toList, ?_, named, spelled, closed, ?_⟩
      · rw [Text.eq_append_of_cutAt assigned, Text.afterOpening_eq_some.1 called]
        simp [assignment, openCall]
      · simpa using (Outcome.pure_eq_ok.1 same).symm
    next => cases opened

theorem spells_of_isIdle {line : List Char} (idle : isIdle line) : Spells line .nothing := by
  simp only [isIdle, Bool.or_eq_true, List.isEmpty_iff, decide_eq_true_eq] at idle
  rcases idle with ((rfl | comment) | rfl) | rfl
  · exact .empty
  · cases line with
    | nil => cases comment
    | cons first others =>
      cases comment
      exact .comment
  · exact .imports
  · exact .manager

/-- A statement is found by the first of the three forms that the line looks like. -/
theorem read_eq_ok {line : List Char} {statement : Statement}
    (accepted : read line = .ok statement) :
    (isIdle line ∧ statement = .nothing) ∨ query? line = some (.ok statement) ∨
      opening? line = some (.ok statement) ∨
        call? writeCall ")" .set line = some (.ok statement) := by
  rw [read] at accepted
  split at accepted
  next idle => exact .inl ⟨idle, (Except.ok.inj accepted).symm⟩
  next =>
    cases shown : query? line with
    | some outcome => simp_all
    | none =>
      cases opened : opening? line with
      | some outcome => simp_all
      | none =>
        cases written : call? writeCall ")" .set line with
        | some outcome => simp_all
        | none => simp_all

/-- Without blanks around it, a line is well-formed exactly if it is read as a statement
that sends through a name, if it sends at all. -/
theorem spells_iff {line : List Char} (tight : Text.trim line = line) {statement : Statement} :
    Spells line statement ↔ read line = .ok statement ∧ statement.Named := by
  refine ⟨fun spelled => ⟨read_of_spells spelled, spelled.named⟩, ?_⟩
  rintro ⟨accepted, named⟩
  rcases read_eq_ok accepted with ⟨idle, rfl⟩ | shown | opened | written
  · exact spells_of_isIdle idle
  · obtain ⟨after, start, called⟩ := Option.bind_eq_some_iff.1 shown
    obtain ⟨handle, literal, rest, text, rfl, quoted, closed, rfl⟩ := call?_eq_some_ok called
    obtain rfl := Text.afterOpening_eq_some.1 start
    rw [← List.append_assoc] at tight ⊢
    obtain rfl := closing_of_tight tight closed
    rw [← List.append_assoc, ← List.append_assoc]
    exact .queries (by simpa [Named] using named) quoted
  · obtain ⟨handle, literal, rest, text, rfl, identifier, quoted, closed, rfl⟩ :=
      opening?_eq_some_ok opened
    obtain rfl := closing_of_tight tight closed
    exact .opens identifier quoted
  · obtain ⟨handle, literal, rest, text, rfl, quoted, closed, rfl⟩ := call?_eq_some_ok written
    obtain rfl := closing_of_tight tight closed
    exact .writes (by simpa [Named] using named) quoted

end InstrumentBench.Statement
