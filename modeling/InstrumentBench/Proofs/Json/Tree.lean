import InstrumentBench.Proofs.Json.Number
import InstrumentBench.Proofs.Json.Tokens

/-!
# Printed values are read back

Both layouts of a value spell the same tokens, and these are the tokens of one tree
(`Tree.read?_compact`, `Tree.read?_pretty`).  The tree denotes the value again, with
the members of its objects in order (`Value.value?_tree`): they are all kept if their keys
differ (`Value.sortMembers_perm`), and each key keeps the last of its values
(`Value.lookup_sortMembers`).
-/

namespace InstrumentBench.Json

namespace Value

mutual

/-- The tree of a printed value. -/
def tree : Value → Tree
  | .null => .null
  | .bool value => .bool value
  | .number value => .number value.lexeme
  | .string text => .string (writtenUnits text)
  | .array items => .array (itemTrees items)
  | .object members => .object (memberTrees members)

/-- The trees of the items of an array. -/
def itemTrees : List Value → List Tree
  | [] => []
  | item :: rest => tree item :: itemTrees rest

/-- The trees of the members of an object. -/
def memberTrees : List (String × Value) → List (List StringUnit × Tree)
  | [] => []
  | (key, value) :: rest => (writtenUnits key, tree value) :: memberTrees rest

end

mutual

/-- The tokens of a printed value. -/
def tokens : Value → List Token
  | .null => [.null]
  | .bool value => [.bool value]
  | .number value => [.number value.lexeme]
  | .string text => [.string (writtenUnits text)]
  | .array [] => [.openBracket, .closeBracket]
  | .array (item :: rest) => .openBracket :: (tokens item ++ itemTokens rest)
  | .object [] => [.openBrace, .closeBrace]
  | .object ((key, value) :: rest) =>
    .openBrace :: .string (writtenUnits key) :: .colon :: (tokens value ++ memberTokens rest)

/-- The tokens of the items after the first one, and the end of the array. -/
def itemTokens : List Value → List Token
  | [] => [.closeBracket]
  | item :: rest => .comma :: (tokens item ++ itemTokens rest)

/-- The tokens of the members after the first one, and the end of the object. -/
def memberTokens : List (String × Value) → List Token
  | [] => [.closeBrace]
  | (key, value) :: rest =>
    .comma :: .string (writtenUnits key) :: .colon :: (tokens value ++ memberTokens rest)

end

mutual

/-- Whether a value can be read back within a depth: its arrays and objects nest at
most `room` deep, and its numbers are legible. -/
def Readable (room : Nat) : Value → Prop
  | .null => True
  | .bool _ => True
  | .number value => value.Legible
  | .string _ => True
  | .array items =>
    match room with
    | 0 => False
    | room + 1 => ReadableItems room items
  | .object members =>
    match room with
    | 0 => False
    | room + 1 => ReadableMembers room members

/-- Whether all items of an array can be read back. -/
def ReadableItems (room : Nat) : List Value → Prop
  | [] => True
  | item :: rest => Readable room item ∧ ReadableItems room rest

/-- Whether all members of an object can be read back. -/
def ReadableMembers (room : Nat) : List (String × Value) → Prop
  | [] => True
  | (_, value) :: rest => Readable room value ∧ ReadableMembers room rest

end

/-! ## Both layouts spell the tokens -/

open Token

theorem ends_compactItems (items : List Value) : Ends (compactItems items) := by
  cases items with
  | nil => exact Ends.cons (by decide) (by decide)
  | cons item rest => exact Ends.cons (by decide) (by decide)

theorem ends_compactMembers (members : List (String × Value)) : Ends (compactMembers members) := by
  cases members with
  | nil => exact Ends.cons (by decide) (by decide)
  | cons member rest => exact Ends.cons (by decide) (by decide)

theorem ends_prettyItems (depth : Nat) (items : List Value) : Ends (prettyItems depth items) := by
  cases items with
  | nil => exact Ends.cons (by decide) (by decide)
  | cons item rest => exact Ends.cons (by decide) (by decide)

theorem ends_prettyMembers (depth : Nat) (members : List (String × Value)) :
    Ends (prettyMembers depth members) := by
  cases members with
  | nil => exact Ends.cons (by decide) (by decide)
  | cons member rest => exact Ends.cons (by decide) (by decide)

theorem spells_number {number : Number} (legible : number.Legible) :
    Spells [.number number.lexeme] number.text := by
  have read := legible.read?
  obtain ⟨first, rest, text, start, longer⟩ := legible.spelled
  rw [text] at read ⊢
  exact Spells.number start longer read

theorem spells_quoted (text : String) : Spells [.string (writtenUnits text)] (quoted text) := by
  simpa using Spells.quoted text Spells.nil

mutual

theorem spells_compactChars : ∀ {room : Nat} {value : Value},
    value.Readable room → Spells value.tokens value.compactChars
  | _, .null, _ => Spells.null
  | _, .bool value, _ => Spells.bool value
  | _, .number _, legible => spells_number legible
  | _, .string text, _ => spells_quoted text
  | _, .array [], _ => Spells.mark rfl (Spells.mark rfl Spells.nil)
  | room + 1, .array (item :: rest), readable => by
    apply Spells.mark rfl
    apply Spells.append _ _ (ends_compactItems rest)
    · exact spells_compactChars readable.1
    · exact spells_compactItems readable.2
  | _, .object [], _ => Spells.mark rfl (Spells.mark rfl Spells.nil)
  | room + 1, .object ((key, value) :: rest), readable => by
    rw [compactChars]
    simp only [List.cons_append, List.append_assoc]
    apply Spells.mark rfl
    apply Spells.quoted
    apply Spells.mark rfl
    apply Spells.append _ _ (ends_compactMembers rest)
    · exact spells_compactChars readable.1
    · exact spells_compactMembers readable.2

theorem spells_compactItems : ∀ {room : Nat} {items : List Value},
    ReadableItems room items → Spells (itemTokens items) (compactItems items)
  | _, [], _ => Spells.mark rfl Spells.nil
  | _, item :: rest, readable => by
    apply Spells.mark rfl
    apply Spells.append _ _ (ends_compactItems rest)
    · exact spells_compactChars readable.1
    · exact spells_compactItems readable.2

theorem spells_compactMembers : ∀ {room : Nat} {members : List (String × Value)},
    ReadableMembers room members → Spells (memberTokens members) (compactMembers members)
  | _, [], _ => Spells.mark rfl Spells.nil
  | _, (key, value) :: rest, readable => by
    rw [compactMembers]
    simp only [List.cons_append, List.append_assoc]
    apply Spells.mark rfl
    apply Spells.quoted
    apply Spells.mark rfl
    apply Spells.append _ _ (ends_compactMembers rest)
    · exact spells_compactChars readable.1
    · exact spells_compactMembers readable.2

end

mutual

theorem spells_prettyChars : ∀ {room : Nat} {value : Value} (depth : Nat),
    value.Readable room → Spells value.tokens (value.prettyChars depth)
  | _, .null, _, _ => Spells.null
  | _, .bool value, _, _ => Spells.bool value
  | _, .number _, _, legible => spells_number legible
  | _, .string text, _, _ => spells_quoted text
  | _, .array [], _, _ => Spells.mark rfl (Spells.mark rfl Spells.nil)
  | room + 1, .array (item :: rest), depth, readable => by
    rw [prettyChars, List.cons_append, List.cons_append, List.append_assoc]
    apply Spells.mark rfl
    apply Spells.newline
    apply Spells.append _ _ (ends_prettyItems depth rest)
    · exact spells_prettyChars (depth + 1) readable.1
    · exact spells_prettyItems depth readable.2
  | _, .object [], _, _ => Spells.mark rfl (Spells.mark rfl Spells.nil)
  | room + 1, .object ((key, value) :: rest), depth, readable => by
    rw [prettyChars]
    simp only [List.cons_append, List.append_assoc]
    apply Spells.mark rfl
    apply Spells.newline
    apply Spells.quoted
    apply Spells.mark rfl
    apply Spells.gap rfl
    apply Spells.append _ _ (ends_prettyMembers depth rest)
    · exact spells_prettyChars (depth + 1) readable.1
    · exact spells_prettyMembers depth readable.2

theorem spells_prettyItems : ∀ {room : Nat} {items : List Value} (depth : Nat),
    ReadableItems room items → Spells (itemTokens items) (prettyItems depth items)
  | _, [], depth, _ => Spells.newline depth (Spells.mark rfl Spells.nil)
  | _, item :: rest, depth, readable => by
    rw [prettyItems]
    simp only [List.cons_append, List.append_assoc]
    apply Spells.mark rfl
    apply Spells.newline
    apply Spells.append _ _ (ends_prettyItems depth rest)
    · exact spells_prettyChars (depth + 1) readable.1
    · exact spells_prettyItems depth readable.2

theorem spells_prettyMembers : ∀ {room : Nat} {members : List (String × Value)} (depth : Nat),
    ReadableMembers room members → Spells (memberTokens members) (prettyMembers depth members)
  | _, [], depth, _ => Spells.newline depth (Spells.mark rfl Spells.nil)
  | _, (key, value) :: rest, depth, readable => by
    rw [prettyMembers]
    simp only [List.cons_append, List.append_assoc]
    apply Spells.mark rfl
    apply Spells.newline
    apply Spells.quoted
    apply Spells.mark rfl
    apply Spells.gap rfl
    apply Spells.append _ _ (ends_prettyMembers depth rest)
    · exact spells_prettyChars (depth + 1) readable.1
    · exact spells_prettyMembers depth readable.2

end

end Value

/-! ## The tokens make the tree -/

namespace Tree

open Value

/-- No value starts with the end of an array, so the first item of an array is read
like any value. -/
theorem run_firstItem (value : Value) (frames : List Frame) :
    value.tokens.foldlM step? (.firstItem, frames) =
      value.tokens.foldlM step? (.value, frames) := by
  cases value with
  | array items => cases items <;> rfl
  | object members => cases members <;> rfl
  | _ => rfl

mutual

/-- Reading the tokens of a value completes its tree. -/
theorem run_tokens : ∀ (value : Value) (frames : List Frame),
    value.tokens.foldlM step? (.value, frames) = complete? value.tree frames
  | .null, frames => by simp [tokens, tree, step?, begin?]
  | .bool value, frames => by simp [tokens, tree, step?, begin?]
  | .number value, frames => by simp [tokens, tree, step?, begin?]
  | .string text, frames => by simp [tokens, tree, step?, begin?]
  | .array [], frames => by simp [tokens, tree, itemTrees, step?, begin?, close?]
  | .array (item :: rest), frames => by
    rw [tokens]
    change (item.tokens ++ itemTokens rest).foldlM step? (.firstItem, .items [] :: frames) = _
    rw [List.foldlM_append, run_firstItem, run_tokens item, complete?]
    exact run_itemTokens rest [item.tree] frames
  | .object [], frames => by simp [tokens, tree, memberTrees, step?, begin?, close?]
  | .object ((key, value) :: rest), frames => by
    rw [tokens]
    change (value.tokens ++ memberTokens rest).foldlM step?
      (.value, .member [] (writtenUnits key) :: frames) = _
    rw [List.foldlM_append, run_tokens value, complete?]
    exact run_memberTokens rest [(writtenUnits key, value.tree)] frames

/-- Reading the items of an array after the first ones completes the array. -/
theorem run_itemTokens : ∀ (items : List Value) (readBack : List Tree) (frames : List Frame),
    (itemTokens items).foldlM step? (.after, .items readBack :: frames) =
      complete? (.array (readBack.reverse ++ itemTrees items)) frames
  | [], readBack, frames => by simp [itemTokens, itemTrees, step?, close?]
  | item :: rest, readBack, frames => by
    rw [itemTokens]
    change (item.tokens ++ itemTokens rest).foldlM step? (.value, .items readBack :: frames) = _
    rw [List.foldlM_append, run_tokens item, complete?]
    change (itemTokens rest).foldlM step? (.after, .items (item.tree :: readBack) :: frames) = _
    rw [run_itemTokens rest, List.reverse_cons, List.append_assoc, itemTrees, List.singleton_append]

theorem run_memberTokens : ∀ (members : List (String × Value))
    (readBack : List (List StringUnit × Tree)) (frames : List Frame),
    (memberTokens members).foldlM step? (.after, .members readBack :: frames) =
      complete? (.object (readBack.reverse ++ memberTrees members)) frames
  | [], readBack, frames => by simp [memberTokens, memberTrees, step?, close?]
  | (key, value) :: rest, readBack, frames => by
    rw [memberTokens]
    change (value.tokens ++ memberTokens rest).foldlM step?
      (.value, .member readBack (writtenUnits key) :: frames) = _
    rw [List.foldlM_append, run_tokens value, complete?]
    change (memberTokens rest).foldlM step?
      (.after, .members ((writtenUnits key, value.tree) :: readBack) :: frames) = _
    rw [run_memberTokens rest, List.reverse_cons, List.append_assoc, memberTrees,
      List.singleton_append]

end

theorem ofTokens?_tokens (value : Value) : ofTokens? value.tokens = some value.tree := by
  rw [ofTokens?, run_tokens]
  rfl

variable {value : Value} {room : Nat}

/-- The compact text of a value is read as its tree. -/
theorem read?_compact (readable : value.Readable room) :
    read? value.compact = some value.tree := by
  rw [read?, Value.compact, Token.all?_of_spells (spells_compactChars readable)]
  exact ofTokens?_tokens value

/-- The pretty text of a value is read as its tree. -/
theorem read?_pretty (readable : value.Readable room) :
    read? value.pretty = some value.tree := by
  rw [read?, Value.pretty, Token.all?_of_spells (spells_prettyChars 0 readable)]
  exact ofTokens?_tokens value

/-- The end of the line behind the pretty text of a value is no part of its tree. -/
theorem read?_pretty_line (readable : value.Readable room) :
    read? (value.pretty ++ "\n") = some value.tree := by
  have ended : Token.Spells [] ['\n'] := Token.Spells.gap rfl Token.Spells.nil
  have spelled := (spells_prettyChars 0 readable).append ended (Token.Ends.cons rfl rfl)
  rw [List.append_nil] at spelled
  have text : value.pretty ++ "\n" = String.ofList (value.prettyChars 0 ++ ['\n']) := by
    rw [String.ofList_append]
    rfl
  rw [read?, text, Token.all?_of_spells spelled]
  exact ofTokens?_tokens value

end Tree

/-! ## The tree denotes the value -/

namespace Value

mutual

/-- The tree of a value denotes it, with the members of its objects in order. -/
theorem value?_tree : ∀ {room : Nat} {value : Value},
    value.Readable room → value.tree.value? room = some value.sorted
  | _, .null, _ => rfl
  | _, .bool _, _ => rfl
  | _, .number _, legible => by
    rw [tree, Tree.value?, Number.Legible.ofLexeme? legible]
    rfl
  | _, .string text, _ => by
    rw [tree, Tree.value?, text?_writtenUnits]
    rfl
  | room + 1, .array items, readable => by
    rw [tree, Tree.value?, itemValues?_itemTrees readable]
    rfl
  | room + 1, .object members, readable => by
    rw [tree, Tree.value?, memberValues?_memberTrees readable]
    rfl

theorem itemValues?_itemTrees : ∀ {room : Nat} {items : List Value},
    ReadableItems room items →
      Tree.itemValues? room (itemTrees items) = some (sortedItems items)
  | _, [], _ => rfl
  | _, item :: rest, readable => by
    rw [itemTrees, Tree.itemValues?, value?_tree readable.1, itemValues?_itemTrees readable.2]
    rfl

theorem memberValues?_memberTrees : ∀ {room : Nat} {members : List (String × Value)},
    ReadableMembers room members →
      Tree.memberValues? room (memberTrees members) = some (sortedMembers members)
  | _, [], _ => rfl
  | _, (key, value) :: rest, readable => by
    rw [memberTrees, Tree.memberValues?, text?_writtenUnits, value?_tree readable.1,
      memberValues?_memberTrees readable.2]
    rfl

end

/-- The compact text of a value is read as the value, with the members of its objects in
order. -/
theorem read?_compact {value : Value} (readable : value.Readable Tree.maxDepth) :
    read? value.compact = some value.sorted := by
  rw [read?, Tree.read?_compact readable]
  exact value?_tree readable

/-! ## Members in order -/

theorem insertMember_perm {members : List (String × Value)} {key : String}
    (new : key ∉ members.map Prod.fst) (value : Value) :
    (insertMember key value members).Perm ((key, value) :: members) := by
  induction members with
  | nil => exact .refl _
  | cons head rest ih =>
    rw [List.map_cons, List.mem_cons, not_or] at new
    rw [insertMember]
    split
    next => exact .refl _
    rw [if_neg new.1]
    exact ((ih new.2).cons head).trans (.swap ..)

theorem foldl_insertMember_perm {members start : List (String × Value)}
    (distinct : ((members ++ start).map Prod.fst).Nodup) :
    (members.foldl (fun sorted member => insertMember member.1 member.2 sorted) start).Perm
      (members ++ start) := by
  induction members generalizing start with
  | nil => exact .refl _
  | cons member rest ih =>
    have new : member.1 ∉ start.map Prod.fst := by
      intro among
      rw [List.cons_append, List.map_cons, List.map_append, List.nodup_cons] at distinct
      exact distinct.1 (List.mem_append_right _ among)
    have behind : (rest ++ insertMember member.1 member.2 start).Perm
        (member :: rest ++ start) :=
      ((insertMember_perm new member.2).append_left rest).trans List.perm_middle
    exact (ih ((behind.map Prod.fst).nodup_iff.2 distinct)).trans behind

/-- Members with different keys are all kept when they are put in order. -/
theorem sortMembers_perm {members : List (String × Value)}
    (distinct : (members.map Prod.fst).Nodup) : (sortMembers members).Perm members := by
  have kept := @foldl_insertMember_perm members [] (by rwa [List.append_nil])
  rwa [List.append_nil] at kept

theorem lookup_member_cons (member : String × Value) (rest : List (String × Value))
    (name : String) :
    (member :: rest).lookup name =
      if name = member.1 then some member.2 else rest.lookup name := by
  rw [List.lookup_cons]
  by_cases same : name = member.1
  · rw [beq_iff_eq.2 same, if_pos same]
  · rw [beq_eq_false_iff_ne.2 same, if_neg same]

theorem lookup_insertMember (members : List (String × Value)) (key name : String)
    (value : Value) :
    (insertMember key value members).lookup name =
      if name = key then some value else members.lookup name := by
  induction members with
  | nil => exact lookup_member_cons (key, value) [] name
  | cons head rest ih =>
    rw [insertMember]
    split
    next => exact lookup_member_cons (key, value) (head :: rest) name
    split
    next replaced =>
      rw [lookup_member_cons, lookup_member_cons, ← replaced]
      split <;> rfl
    next other =>
      rw [lookup_member_cons, ih, lookup_member_cons]
      by_cases same : name = key
      · rw [if_neg (same ▸ other), if_pos same, if_pos same]
      · rw [if_neg same, if_neg same]

/-- In an object whose members have been put in order a key has the last value given for it. -/
theorem lookup_sortMembers (members : List (String × Value)) (name : String) :
    (sortMembers members).lookup name = members.reverse.lookup name := by
  suffices inserted : ∀ start : List (String × Value),
      (members.foldl (fun sorted member => insertMember member.1 member.2 sorted) start).lookup
        name = (members.reverse ++ start).lookup name by
    simpa [sortMembers] using inserted []
  induction members with
  | nil => exact fun start => rfl
  | cons member rest ih =>
    intro start
    rw [List.foldl_cons, ih, List.reverse_cons, List.append_assoc, List.singleton_append,
      List.lookup_append, List.lookup_append, lookup_insertMember, lookup_member_cons]

end Value

end InstrumentBench.Json
