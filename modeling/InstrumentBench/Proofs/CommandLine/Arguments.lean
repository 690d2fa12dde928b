import InstrumentBench.CommandLine.Invocation
import InstrumentBench.Proofs.Text.Fields

/-!
# Options before a divider

A task can be spelled with all of its options first, each as one argument, and after a
divider the arguments known by position, so that nothing of what they hold is taken for an
option.  Such arguments are read as they are meant if every value may be one, and are refused
if not (`Invocation.read_arguments`).
-/

namespace InstrumentBench.CommandLine

/-- An option as one argument.  A flag has no value. -/
def Setting.argument (setting : Setting) (value : String) : String :=
  match setting.value with
  | some _ => "--" ++ setting.name ++ "=" ++ value
  | none => "--" ++ setting.name

/-- The arguments for a level: its word, options, and the arguments known by position. -/
def Level.arguments (level : Level) (options : List (Setting × String))
    (positionals : List String) : List String :=
  level.name :: (options.map fun option => option.1.argument option.2) ++ "--" :: positionals

/-- Whether an option of a level is given with a value that it may have; that of a flag is
empty. -/
structure Level.Takes (level : Level) (option : Setting × String) : Prop where
  known : level.setting? option.1.name = some option.1
  flag : option.1.value = none → option.2 = ""

/-- An option before the equals sign has none. -/
theorem Setting.equals_not_mem_name (setting : Setting) : '=' ∉ setting.name.toList := by
  cases setting <;> decide

theorem Setting.name_ne_nil (setting : Setting) : setting.name.toList ≠ [] := by
  cases setting <;> decide

/-- Two dashes with something behind them introduce a name. -/
theorem Token.of_dashes {argument : String} {body : List Char}
    (text : argument.toList = '-' :: '-' :: body) (more : body ≠ []) :
    Token.of argument =
      match Text.cutAtChar '=' body with
      | some (name, value) => .long (String.ofList name) (some (String.ofList value))
      | none => .long (String.ofList body) none := by
  cases body with
  | nil => exact absurd rfl more
  | cons c rest =>
    rw [Token.of, text]
    rfl

theorem Token.of_argument (setting : Setting) (value : String) :
    Token.of (setting.argument value) =
      .long setting.name (setting.value.map fun _ => value) := by
  rw [Setting.argument]
  cases setting.value with
  | none =>
    have text : ("--" ++ setting.name).toList = '-' :: '-' :: setting.name.toList := by
      rw [String.toList_append]
      rfl
    rw [of_dashes text setting.name_ne_nil,
      Text.cutAtChar_eq_none.2 setting.equals_not_mem_name]
    exact congrArg (Token.long · none) String.ofList_toList
  | some slot =>
    have text : ("--" ++ setting.name ++ "=" ++ value).toList =
        '-' :: '-' :: (setting.name.toList ++ '=' :: value.toList) := by
      simp only [String.toList_append, List.append_assoc]
      rfl
    rw [of_dashes text (by simp), Text.cutAtChar_eq_some.2 ⟨setting.equals_not_mem_name, rfl⟩]
    simp

/-! ## Options -/

/-- Whether the value of an option may be one. -/
def accepted (option : Setting × String) : Bool :=
  option.1.value.all (·.rule.accepts option.2)

/-- Whether no option but a repeated one is given twice. -/
def Distinct (options : List (Setting × String)) : Prop :=
  options.Pairwise fun earlier later =>
    later.1.occurrence = .repeated ∨ earlier.1 ≠ later.1

namespace Given

/-- What has been given with one more option, if its value may be one. -/
def admit? (given : Given) (option : Setting × String) : Option Given :=
  if accepted option then given.add? option.1 option.2 else .none

theorem waiting_of_admit? {given next : Given} {option : Setting × String}
    (admitted : given.admit? option = some next) : next.waiting = .nothing := by
  rw [admit?, add?] at admitted
  split at admitted
  next =>
    split at admitted
    next => cases admitted
    next =>
      cases admitted
      rfl
  next => cases admitted

/-- Distinct options are admitted if their values may be ones. -/
theorem foldlM_admit? {options : List (Setting × String)} {given : Given}
    (settled : given.waiting = .nothing) (distinct : Distinct (given.options ++ options)) :
    options.foldlM admit? given =
      if options.all accepted then
        some { given with options := given.options ++ options }
      else .none := by
  induction options generalizing given with
  | nil => simp
  | cons option rest ih =>
    rw [List.foldlM_cons, admit?, List.all_cons]
    cases accepted option with
    | false => rfl
    | true =>
      have new : ¬(given.has option.1 ∧ option.1.occurrence ≠ .repeated) := by
        rintro ⟨before, single⟩
        obtain ⟨earlier, member, same⟩ := List.any_eq_true.1 before
        rcases (List.pairwise_append.1 distinct).2.2 earlier member option List.mem_cons_self with
          repeats | other
        · exact single repeats
        · exact other (of_decide_eq_true same)
      rw [← List.singleton_append, ← List.append_assoc] at distinct
      rw [if_pos rfl, add?, if_neg new, Bool.true_and]
      change rest.foldlM admit? { given with
        options := given.options ++ [option], waiting := .nothing } = _
      rw [ih rfl distinct, List.append_assoc, List.singleton_append, settled]

end Given

section Level

variable {level : Level} {options : List (Setting × String)} {given : Given}

theorem readLong_argument {option : Setting × String} (takes : level.Takes option)
    (settled : given.waiting = .nothing) :
    readLong level given option.1.name (option.1.value.map fun _ => option.2) =
      orMisuse level (given.admit? option) := by
  have settles : given.settle? = some given := by rw [Given.settle?, settled]
  unfold readLong
  rw [takes.known, Given.admit?, accepted, settles]
  cases valued : option.1.value with
  | none =>
    rw [takes.flag valued]
    simp [valued]
  | some slot =>
    simp only [Option.map_some, Option.isNone_some, Bool.false_eq_true, if_false,
      Option.bind_some, Given.settle?, valued]
    rfl

/-- Options are read one after the other. -/
theorem readFrom_options (leaf : level.children = [])
    (takes : ∀ option ∈ options, level.Takes option) (settled : given.waiting = .nothing)
    (rest : List String) :
    readFrom level given false ((options.map fun option => option.1.argument option.2) ++ rest) =
      (do
        let given ← orMisuse level (options.foldlM Given.admit? given)
        readFrom level given false rest) := by
  have childless : ∀ word, level.child? word = none := fun word => by
    rw [Level.child?, leaf, List.find?_nil]
  induction options generalizing given with
  | nil => rfl
  | cons option others ih =>
    have free : given.awaitsValue = false := by rw [Given.awaitsValue, settled]
    rw [List.forall_mem_cons] at takes
    rw [List.map_cons, List.cons_append, readFrom, childless, ite_self]
    dsimp only
    rw [if_neg Bool.false_ne_true, if_neg (by simp [leaf]), Token.of_argument]
    dsimp only
    rw [readLong_argument takes.1 settled, List.foldlM_cons]
    cases admitted : given.admit? option with
    | none => rfl
    | some next => exact ih takes.2 (Given.waiting_of_admit? admitted)

end Level

/-! ## Levels of commands -/

/-- A level of the program itself that takes the name of a model and that of a command. -/
structure Level.TakesCommand (level : Level) : Prop where
  reached : Level.program.child? level.name = some level
  leaf : level.children = []
  slots : level.slots = [⟨"MODEL", .any⟩, ⟨"COMMAND", .any⟩]
  bottom : level.needsChild = false

/-- Options that may be given on a level: each is one of the level, none is given twice, and
all that are required are given. -/
structure Level.TakesAll (level : Level) (options : List (Setting × String)) : Prop where
  takes : ∀ option ∈ options, level.Takes option
  distinct : Distinct options
  required : ∀ setting ∈ level.settings, setting.occurrence = .required →
    options.any (·.1 = setting)

section Command

variable {level : Level} {options : List (Setting × String)}

/-- After a divider the next argument is known by its position. -/
theorem readFrom_positional (given : Given) (argument : String) (rest : List String) :
    readFrom level given true (argument :: rest) =
      (do readFrom level (← readPositional level given argument) true rest) := by
  rw [readFrom]
  rfl

theorem finish_command (command : level.TakesCommand) (all : level.TakesAll options)
    (slot : Slot) (any : slot.rule = .any) (model name : String) :
    finish level false ⟨options, [model], .positional slot name⟩ =
      .ok ⟨options, [model, name], .nothing⟩ := by
  have complete : Given.complete ⟨options, [model, name], .nothing⟩ level := by
    rw [Given.complete, command.slots]
    simp only [List.length_cons, List.length_nil, decide_true, Bool.true_and, List.all_eq_true,
      Bool.or_eq_true, decide_eq_true_eq]
    intro setting member
    by_cases required : setting.occurrence = .required
    · exact .inr (all.required setting member required)
    · exact .inl required
  have settles : Given.settle? ⟨options, [model], .positional slot name⟩ =
      some ⟨options, [model, name], .nothing⟩ := by
    rw [Given.settle?]
    dsimp only
    rw [any]
    rfl
  rw [finish, settles]
  change orMisuse level (if Given.complete ⟨options, [model, name], .nothing⟩ level &&
    (false || !level.needsChild) then _ else none) = _
  rw [complete, command.bottom]
  rfl

/-- What follows a divider is the model and the command. -/
theorem readFrom_divider (command : level.TakesCommand) (all : level.TakesAll options)
    (model name : String) :
    readFrom level ⟨options, [], .nothing⟩ false ["--", model, name] =
      .ok [(level, ⟨options, [model, name], .nothing⟩)] := by
  have childless : level.child? "--" = none := by rw [Level.child?, command.leaf, List.find?_nil]
  have divided : readFrom level ⟨options, [], .nothing⟩ false ["--", model, name] =
      readFrom level ⟨options, [], .nothing⟩ true [model, name] := by
    rw [readFrom, childless, ite_self]
    dsimp only
    rw [if_neg Bool.false_ne_true, if_neg (by simp [command.leaf]), show Token.of "--" = .divider
      from rfl]
  have first : readPositional level ⟨options, [], .nothing⟩ model =
      .ok ⟨options, [], .positional ⟨"MODEL", .any⟩ model⟩ := by
    rw [readPositional, command.slots]
    rfl
  have second : readPositional level ⟨options, [], .positional ⟨"MODEL", .any⟩ model⟩ name =
      .ok ⟨options, [model], .positional ⟨"COMMAND", .any⟩ name⟩ := by
    rw [readPositional, command.slots]
    rfl
  rw [divided, readFrom_positional, first]
  change readFrom level _ true [name] = _
  rw [readFrom_positional, second]
  change readFrom level _ true [] = _
  rw [readFrom, finish_command command all _ rfl]
  rfl

/-- The arguments of a command are read as they are meant if the values of the options may
be ones, and are refused if not. -/
theorem readFrom_arguments (command : level.TakesCommand) (all : level.TakesAll options)
    (model name : String) :
    readFrom .program .none false (level.arguments options [model, name]) =
      if options.all accepted then
        .ok [(.program, .none), (level, ⟨options, [model, name], .nothing⟩)]
      else .error (.misuse level) := by
  have below : readFrom level .none false
      ((options.map fun option => option.1.argument option.2) ++ ["--", model, name]) =
        if options.all accepted then .ok [(level, ⟨options, [model, name], .nothing⟩)]
        else .error (.misuse level) := by
    have admitted : options.foldlM Given.admit? .none =
        if options.all accepted then some ⟨options, [], .nothing⟩ else .none :=
      Given.foldlM_admit? rfl all.distinct
    rw [readFrom_options command.leaf all.takes rfl, admitted]
    cases options.all accepted with
    | false => rfl
    | true => exact readFrom_divider command all model name
  have chosen : readFrom .program .none false (level.arguments options [model, name]) =
      (do
        let below ← readFrom level .none false
          ((options.map fun option => option.1.argument option.2) ++ ["--", model, name])
        return (.program, ← finish .program true .none) :: below) := by
    rw [Level.arguments, List.cons_append, readFrom.eq_def]
    dsimp only
    rw [show (false || Given.none.awaitsValue) = false from rfl, if_neg Bool.false_ne_true,
      command.reached]
  rw [chosen, below]
  cases options.all accepted <;> rfl

/-- The task of the arguments of a command, with the options that all tasks share. -/
theorem Invocation.read_arguments (command : level.TakesCommand) (all : level.TakesAll options)
    {model name : String} {task : Task}
    (means : task? level ⟨options, [model, name], .nothing⟩ = some task) :
    Invocation.read (level.arguments options [model, name]) =
      if options.all accepted then
        .ok ⟨options.lookup .workbook, options.lookup .configDirectory,
          (options.lookup .json).isSome, task⟩
      else .error (.misuse level) := by
  have shared : ∀ setting, sharedValue? [(.program, .none),
      (level, ⟨options, [model, name], .nothing⟩)] setting = options.lookup setting := by
    intro setting
    simp only [sharedValue?, List.reverse_cons, List.reverse_nil, List.nil_append,
      List.singleton_append, List.findSome?_cons, List.findSome?_nil, Given.value?, Given.none,
      List.lookup_nil]
    cases options.lookup setting <;> rfl
  rw [Invocation.read, readFrom_arguments command all]
  cases options.all accepted with
  | false => rfl
  | true =>
    change (do
      let task ← orMisuse .program (task? level ⟨options, [model, name], .nothing⟩)
      return (⟨sharedValue? _ .workbook, sharedValue? _ .configDirectory,
        (sharedValue? _ .json).isSome, task⟩ : Invocation)) = _
    rw [means, shared, shared, shared]
    rfl

end Command

/-! ## Rendering and executing -/

/-- The options that all tasks share. -/
structure SharedOptions where
  workbook : Option String
  configDirectory : Option String
  json : Bool

/-- The options with their values. -/
def SharedOptions.given (shared : SharedOptions) : List (Setting × String) :=
  shared.workbook.toList.map (.workbook, ·) ++
    shared.configDirectory.toList.map (.configDirectory, ·) ++
      if shared.json then [(.json, "")] else []

/-- Options that give values to parameters, one for each text. -/
def assigned (assignments : List String) : List (Setting × String) :=
  assignments.map (.assign, ·)

/-- Options that describe a loopback instrument. -/
def simulated (resource : String) (response : Option String) : List (Setting × String) :=
  (.resource, resource) :: response.toList.map (.response, ·)

/-- The arguments that ask for the text of a command. -/
def renderArguments (shared : SharedOptions) (model command : String)
    (assignments : List String) : List String :=
  Level.render.arguments (shared.given ++ assigned assignments) [model, command]

/-- The arguments that ask for a command to be executed by a loopback instrument. -/
def executeArguments (shared : SharedOptions) (model command : String)
    (assignments : List String) (resource : String) (response : Option String) : List String :=
  Level.execute.arguments (shared.given ++ simulated resource response ++ assigned assignments)
    [model, command]

/-- The values that texts assign to parameters; the last one of each counts. -/
def valuesOf (assignments : List String) : Bindings String :=
  Bindings.ofList (assignments.filterMap assignment?)

section Tasks

variable (shared : SharedOptions) (model command : String) (assignments : List String)
  (resource : String) (response : Option String)

theorem takesCommand_render : Level.render.TakesCommand := by
  constructor <;> decide

theorem takesCommand_execute : Level.execute.TakesCommand := by
  constructor <;> decide

theorem sublist_toList_map {α : Type} (setting : Setting) (present : Option α) :
    (present.toList.map fun _ => setting).Sublist [setting] := by
  cases present with
  | none => exact List.nil_sublist _
  | some value => exact .refl _

/-- Each shared option is given at most once. -/
theorem settings_given : (shared.given.map Prod.fst).Sublist Setting.shared := by
  have json : ((if shared.json then [(Setting.json, "")] else []).map Prod.fst).Sublist
      [Setting.json] := by
    cases shared.json with
    | false => exact List.nil_sublist _
    | true => exact .refl _
  rw [SharedOptions.given, List.map_append, List.map_append, List.map_map, List.map_map]
  exact ((sublist_toList_map .workbook shared.workbook).append
    (sublist_toList_map .configDirectory shared.configDirectory)).append json

theorem settings_simulated :
    ((simulated resource response).map Prod.fst).Sublist [.resource, .response] := by
  rw [simulated, List.map_cons, List.map_map]
  exact (sublist_toList_map .response response).cons_cons _

theorem settings_given_simulated :
    ((shared.given ++ simulated resource response).map Prod.fst).Sublist
      (Setting.shared ++ [.resource, .response]) := by
  rw [List.map_append]
  exact (settings_given shared).append (settings_simulated resource response)

/-- The value of a flag is empty. -/
theorem flag_given {option : Setting × String} (member : option ∈ shared.given)
    (flag : option.1.value = none) : option.2 = "" := by
  simp only [SharedOptions.given, List.mem_append, List.mem_map] at member
  rcases member with (⟨path, -, rfl⟩ | ⟨path, -, rfl⟩) | member
  · cases flag
  · cases flag
  · split at member
    next => rw [List.mem_singleton.1 member]
    next => cases member

/-- Only the options that give values to parameters may be repeated. -/
theorem distinct_append_assigned {options : List (Setting × String)}
    (once : (options.map Prod.fst).Nodup) : Distinct (options ++ assigned assignments) := by
  have repeats : ∀ option ∈ assigned assignments, option.1.occurrence = .repeated := by
    intro option member
    obtain ⟨text, -, rfl⟩ := List.mem_map.1 member
    rfl
  refine List.pairwise_append.2 ⟨(List.pairwise_map.1 once).imp .inr, ?_,
    fun _ _ later member => .inl (repeats later member)⟩
  exact List.Pairwise.imp_of_mem (fun _ member _ => .inl (repeats _ member))
    (List.pairwise_of_forall fun _ _ => trivial)

/-- Options of a level that are given once, and values for parameters, may be given if all
that are required are among them. -/
theorem takesAll_append_assigned {level : Level} {options : List (Setting × String)}
    {settings : List Setting} (once : (options.map Prod.fst).Sublist settings)
    (nodup : settings.Nodup)
    (known : ∀ setting ∈ settings, level.setting? setting.name = some setting)
    (assigns : level.setting? Setting.assign.name = some .assign)
    (flag : ∀ option ∈ options, option.1.value = none → option.2 = "")
    (required : ∀ setting ∈ level.settings, setting.occurrence = .required →
      options.any (·.1 = setting)) :
    level.TakesAll (options ++ assigned assignments) where
  takes := by
    refine List.forall_mem_append.2 ⟨fun option member => ?_, fun option member => ?_⟩
    case refine_1 =>
      exact ⟨known _ (once.subset (List.mem_map_of_mem member)), flag option member⟩
    case refine_2 =>
      obtain ⟨text, -, rfl⟩ := List.mem_map.1 member
      exact ⟨assigns, nofun⟩
  distinct := distinct_append_assigned assignments (once.nodup nodup)
  required setting member must := by
    rw [List.any_append, required setting member must, Bool.true_or]

theorem takesAll_render : Level.render.TakesAll (shared.given ++ assigned assignments) := by
  apply takesAll_append_assigned assignments (settings_given shared)
  case nodup => decide
  case known => decide
  case assigns => decide
  case flag => exact fun option member => flag_given shared member
  case required =>
    have none : ∀ setting ∈ Level.render.settings, setting.occurrence ≠ .required := by decide
    exact fun setting member required => absurd required (none setting member)

theorem takesAll_execute :
    Level.execute.TakesAll
      (shared.given ++ simulated resource response ++ assigned assignments) := by
  apply takesAll_append_assigned assignments (settings_given_simulated shared resource response)
  case nodup => decide
  case known => decide
  case assigns => decide
  case flag =>
    refine List.forall_mem_append.2 ⟨fun option member => flag_given shared member, ?_⟩
    intro option member flag
    have setting := (settings_simulated resource response).subset (List.mem_map_of_mem member)
    simp only [List.mem_cons, List.not_mem_nil, or_false] at setting
    rcases setting with same | same <;> rw [same] at flag <;> cases flag
  case required =>
    intro setting member required
    have only : ∀ setting ∈ Level.execute.settings, setting.occurrence = .required →
        setting = .resource := by decide
    rw [only setting member required, List.any_append, simulated]
    simp

/-- Whether the options are accepted does not depend on JSON being asked for. -/
theorem all_accepted_given (json : Bool) :
    ({ shared with json := json } : SharedOptions).given.all accepted =
      shared.given.all accepted := by
  have flag : ∀ json : Bool, (if json then [(Setting.json, "")] else []).all accepted = true := by
    decide
  simp only [SharedOptions.given, List.all_append, flag]

/-- A loopback instrument may have any name and any reply. -/
theorem all_accepted_simulated : (simulated resource response).all accepted := by
  cases response <;> rfl

/-! ## What the arguments mean -/

theorem lookup_given (setting : Setting) :
    shared.given.lookup setting =
      match setting with
      | .workbook => shared.workbook
      | .configDirectory => shared.configDirectory
      | .json => if shared.json then some "" else none
      | _ => none := by
  rcases shared with ⟨_ | _, _ | _, _ | _⟩ <;> cases setting <;> rfl

theorem lookup_simulated (setting : Setting) :
    (simulated resource response).lookup setting =
      match setting with
      | .resource => some resource
      | .response => response
      | _ => none := by
  cases response <;> cases setting <;> rfl

theorem lookup_append_assigned (options : List (Setting × String)) (setting : Setting)
    (other : setting ≠ .assign) :
    (options ++ assigned assignments).lookup setting = options.lookup setting := by
  have none : (assigned assignments).lookup setting = none := by
    rw [List.lookup_eq_none_iff]
    intro option member
    obtain ⟨text, -, rfl⟩ := List.mem_map.1 member
    exact bne_iff_ne.2 other
  rw [List.lookup_append, none, Option.or_none]

/-- Only the options that give values to parameters count for the values. -/
theorem assignments_append_assigned {options : List (Setting × String)}
    (other : Setting.assign ∉ options.map Prod.fst) (positionals : List String)
    (waiting : Waiting) :
    Given.assignments ⟨options ++ assigned assignments, positionals, waiting⟩ =
      valuesOf assignments := by
  have others : options.filterMap (fun option =>
      if option.1 = .assign then assignment? option.2 else none) = [] := by
    refine List.filterMap_eq_nil_iff.2 fun option member => if_neg fun same => other ?_
    rw [← same]
    exact List.mem_map_of_mem member
  rw [Given.assignments, List.filterMap_append, others, List.nil_append, assigned,
    List.filterMap_map]
  rfl

theorem read_renderArguments :
    Invocation.read (renderArguments shared model command assignments) =
      if (shared.given ++ assigned assignments).all accepted then
        .ok ⟨shared.workbook, shared.configDirectory, shared.json,
          .render model command (valuesOf assignments)⟩
      else .error (.misuse .render) := by
  have other : Setting.assign ∉ shared.given.map Prod.fst := fun member =>
    absurd ((settings_given shared).subset member) (by decide)
  have means : task? .render ⟨shared.given ++ assigned assignments, [model, command], .nothing⟩ =
      some (.render model command (valuesOf assignments)) := by
    rw [← assignments_append_assigned assignments other]
    rfl
  have found := lookup_append_assigned assignments shared.given
  rw [renderArguments, Invocation.read_arguments takesCommand_render
    (takesAll_render shared assignments) means, found .workbook nofun,
    found .configDirectory nofun, found .json nofun, lookup_given, lookup_given, lookup_given]
  dsimp only
  cases shared.json <;> rfl

/-- The arguments of an execution are refused if those of the rendering are. -/
theorem read_executeArguments :
    Invocation.read (executeArguments shared model command assignments resource response) =
      if (shared.given ++ assigned assignments).all accepted then
        .ok ⟨shared.workbook, shared.configDirectory, shared.json,
          .execute model command (valuesOf assignments) ⟨resource, response, false⟩⟩
      else .error (.misuse .execute) := by
  have settings := settings_given_simulated shared resource response
  have other : Setting.assign ∉ (shared.given ++ simulated resource response).map Prod.fst :=
    fun member => absurd (settings.subset member) (by decide)
  have found : ∀ setting, setting ≠ .assign →
      (shared.given ++ simulated resource response ++ assigned assignments).lookup setting =
        (shared.given.lookup setting).or ((simulated resource response).lookup setting) :=
    fun setting other => by rw [lookup_append_assigned assignments _ setting other,
      List.lookup_append]
  have saved : Given.has ⟨shared.given ++ simulated resource response ++ assigned assignments,
      [model, command], .nothing⟩ .save = false := by
    rw [Given.has, List.any_eq_false, List.forall_mem_append]
    refine ⟨fun option member => ?_, fun option member => ?_⟩
    case refine_1 =>
      have among := settings.subset (List.mem_map_of_mem member)
      rw [decide_eq_true_eq]
      intro same
      rw [same] at among
      exact absurd among (by decide)
    case refine_2 =>
      obtain ⟨text, -, rfl⟩ := List.mem_map.1 member
      exact Bool.false_ne_true
  have loopback : Given.loopback ⟨shared.given ++ simulated resource response ++
      assigned assignments, [model, command], .nothing⟩ = ⟨resource, response, false⟩ := by
    rw [Given.loopback, Given.value?, Given.value?, found .resource nofun, found .response nofun,
      saved, lookup_given, lookup_given, lookup_simulated, lookup_simulated]
    rfl
  have means : task? .execute ⟨shared.given ++ simulated resource response ++ assigned assignments,
      [model, command], .nothing⟩ = some (.execute model command (valuesOf assignments)
        ⟨resource, response, false⟩) := by
    rw [← assignments_append_assigned assignments other, ← loopback]
    rfl
  rw [executeArguments, Invocation.read_arguments takesCommand_execute
    (takesAll_execute shared assignments resource response) means, found .workbook nofun,
    found .configDirectory nofun, found .json nofun, List.all_append, List.all_append,
    all_accepted_simulated, Bool.and_true, ← List.all_append, lookup_given, lookup_given,
    lookup_given, lookup_simulated, lookup_simulated, lookup_simulated]
  dsimp only
  rw [Option.or_none, Option.or_none, Option.or_none]
  cases shared.json <;> rfl

end Tasks

end InstrumentBench.CommandLine
