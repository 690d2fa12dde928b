import InstrumentBench.Json.Decoder
import InstrumentBench.Proofs.Json.Tree

/-!
# Decoding what was encoded

A decoder restores a value from a document if it reads the value off the tree that
the printed document is read as (`Decoder.Restores`).  Then it reads the value off
both printed texts (`Decoder.Restores.readsBack`).  The decoders of strings, words,
names, lists and bindings restore what was encoded, and each field of a record is
found in the object of its fields (`Decoder.fields?_object`), in whatever order they are
(`Decoder.fields?_perm`).
-/

namespace InstrumentBench

theorem mapM_eq_some_map {α β : Type} {read : α → Option β} {result : α → β} {items : List α}
    (each : ∀ item ∈ items, read item = some (result item)) :
    items.mapM read = some (items.map result) := by
  induction items with
  | nil => rfl
  | cons item rest ih =>
    rw [List.mapM_cons, each item List.mem_cons_self,
      ih fun other member => each other (List.mem_cons_of_mem _ member)]
    rfl

namespace Json

namespace Value

theorem itemTrees_eq_map (items : List Value) : itemTrees items = items.map tree := by
  induction items with
  | nil => rfl
  | cons item rest ih => rw [itemTrees, ih, List.map_cons]

theorem memberTrees_eq_map (members : List (String × Value)) :
    memberTrees members = members.map fun member => (writtenUnits member.1, member.2.tree) := by
  induction members with
  | nil => rfl
  | cons member rest ih => rw [memberTrees, ih, List.map_cons]

theorem sortedMembers_of_sorted {members : List (String × Value)}
    (plain : ∀ member ∈ members, member.2.sorted = member.2) :
    sortedMembers members = members := by
  induction members with
  | nil => rfl
  | cons member rest ih =>
    obtain ⟨first, others⟩ := List.forall_mem_cons.mp plain
    rw [sortedMembers, first, ih others]

variable {room : Nat}

theorem readable_array {items : List Value} :
    (array items).Readable (room + 1) ↔ ∀ item ∈ items, item.Readable room := by
  change ReadableItems room items ↔ _
  induction items with
  | nil => simp [ReadableItems]
  | cons item rest ih => simp [ReadableItems, ih]

theorem readable_object {members : List (String × Value)} :
    (object members).Readable (room + 1) ↔ ∀ member ∈ members, member.2.Readable room := by
  change ReadableMembers room members ↔ _
  induction members with
  | nil => simp [ReadableMembers]
  | cons member rest ih => simp [ReadableMembers, ih]

end Value

namespace Decoder

variable {α : Type} {decode : Decoder α} {encode : α → Value} {room : Nat} {document : Value}
  {value : α}

/-- A decoder reads a value off the tree of a document that can be read back. -/
structure Restores (decode : Decoder α) (room : Nat) (document : Value) (value : α) : Prop where
  readable : document.Readable room
  decoded : decode room document.tree = some value

/-- Both printed texts of a document decode to a value. -/
def ReadsBack (decode : Decoder α) (document : Value) (value : α) : Prop :=
  decodeText? decode document.compact = some value ∧
    decodeText? decode document.pretty = some value

theorem Restores.readsBack (restores : Restores decode Tree.maxDepth document value) :
    ReadsBack decode document value := by
  constructor
  · rw [decodeText?, Tree.read?_compact restores.readable]
    exact restores.decoded
  · rw [decodeText?, Tree.read?_pretty restores.readable]
    exact restores.decoded

/-- A document on lines of its own decodes to the value. -/
theorem Restores.readsBack_line (restores : Restores decode Tree.maxDepth document value) :
    decodeText? decode (document.pretty ++ "\n") = some value := by
  rw [decodeText?, Tree.read?_pretty_line restores.readable]
  exact restores.decoded

theorem restores_string (room : Nat) (text : String) :
    Restores string room (.string text) text where
  readable := trivial
  decoded := text?_writtenUnits text

theorem restores_bool (room : Nat) (value : Bool) : Restores bool room (.bool value) value where
  readable := trivial
  decoded := rfl

theorem lt_of_word {bits room number : Nat} {tree : Tree}
    (read : word bits room tree = some number) : number < Nat.pow 2 bits := by
  unfold word at read
  split at read
  next =>
    split at read
    next =>
      split at read
      next fits =>
        cases read
        exact fits.2
      next => cases read
    next => cases read
  next => cases read

theorem restores_word {bits number : Nat} (width : bits ≤ 64) (small : number < Nat.pow 2 bits)
    (room : Nat) : Restores (word bits) room (.nat number) number := by
  have legible : (Number.integer number).Legible :=
    Number.legible_nat (Nat.lt_of_lt_of_le small (Nat.pow_le_pow_right (by decide) width))
  constructor
  · exact legible
  · simp only [Value.nat, Value.tree, word, legible.ofLexeme?]
    rw [if_pos ⟨Int.natCast_nonneg number, by rw [Int.toNat_natCast]; exact small⟩,
      Int.toNat_natCast]

theorem restores_oneOf {names : List (String × α)} {name : String}
    (named : names.lookup name = some value) (room : Nat) :
    Restores (oneOf names) room (.string name) value := by
  constructor
  · trivial
  · simp only [Value.tree, oneOf, text?_writtenUnits]
    exact named

/-- A value that may be missing is restored if it cannot be mistaken for a missing
one. -/
theorem restores_option {present : Option α} (refuses : decode room .null = none)
    (each : ∀ value ∈ present, Restores decode room (encode value) value) :
    Restores (nullable decode) room (.option encode present) present := by
  cases present with
  | none => exact ⟨trivial, rfl⟩
  | some value =>
    have restored := each value rfl
    have given : (encode value).tree ≠ .null := by
      intro missing
      have decoded := restored.decoded
      rw [missing, refuses] at decoded
      cases decoded
    constructor
    · exact restored.readable
    · rw [Value.option, nullable.eq_2 _ _ _ given, restored.decoded, Option.map_some]

theorem restores_list {items : List α}
    (each : ∀ item ∈ items, Restores decode room (encode item) item) :
    Restores (list decode) (room + 1) (.array (items.map encode)) items := by
  constructor
  · apply Value.readable_array.mpr
    intro document member
    obtain ⟨item, among, encoded⟩ := List.mem_map.mp member
    rw [← encoded]
    exact (each item among).readable
  · rw [Value.tree, list, Value.itemTrees_eq_map, List.map_map, List.mapM_map]
    rw [@mapM_eq_some_map _ _ _ id]
    · rw [List.map_id]
    · intro item among
      exact (each item among).decoded

theorem restores_strings (room : Nat) (texts : List String) :
    Restores (list string) (room + 1) (.strings texts) texts :=
  restores_list fun text _ => restores_string room text

theorem restores_bindings {bindings : Bindings α}
    (each : ∀ entry ∈ bindings.entries, Restores decode room (encode entry.2) entry.2) :
    Restores (Decoder.bindings decode) (room + 1)
      (.object (bindings.entries.map fun entry => (entry.1, encode entry.2))) bindings := by
  constructor
  · apply Value.readable_object.mpr
    intro member among
    obtain ⟨entry, among, encoded⟩ := List.mem_map.mp among
    rw [← encoded]
    exact (each entry among).readable
  · rw [Value.tree, Decoder.bindings, Value.memberTrees_eq_map, List.map_map, List.mapM_map]
    rw [@mapM_eq_some_map _ _ _ id]
    · rw [List.map_id]
      exact congrArg some (Bindings.ofList_entries bindings)
    · intro entry among
      simp only [Function.comp_apply, text?_writtenUnits, (each entry among).decoded]
      rfl

/-! ## Records -/

variable {names : List String} {members : List (String × Value)}

/-- A member is found by its key if no other has that key. -/
theorem field?_of_mem {members : List (String × Tree)} (distinct : (members.map Prod.fst).Nodup)
    {member : String × Tree} (among : member ∈ members) :
    field? members member.1 = some (.given member.2) := by
  have only : members.filter (fun other => other.1 = member.1) = [member] := by
    induction members with
    | nil => cases among
    | cons head rest ih =>
      rw [List.map_cons, List.nodup_cons] at distinct
      rcases List.mem_cons.mp among with same | later
      · subst same
        rw [List.filter_cons_of_pos (by simp)]
        congr
        apply List.filter_eq_nil_iff.mpr
        intro other found same
        apply distinct.1
        rw [← of_decide_eq_true same]
        exact List.mem_map_of_mem found
      · have other : head.1 ≠ member.1 := by
          intro same
          apply distinct.1
          rw [same]
          exact List.mem_map_of_mem later
        rw [List.filter_cons_of_neg (by simpa using other)]
        exact ih distinct.2 later
  rw [field?, only]

theorem mapM_field? {members : List (String × Tree)} (distinct : (members.map Prod.fst).Nodup) :
    (members.map Prod.fst).mapM (field? members) =
      some (members.map fun member => .given member.2) := by
  rw [List.mapM_map]
  exact mapM_eq_some_map fun member among => field?_of_mem distinct among

/-- The members of an object, each with the tree of its value. -/
def keyedTrees (members : List (String × Value)) : List (String × Tree) :=
  members.map fun member => (member.1, member.2.tree)

theorem keyed?_memberTrees (members : List (String × Value)) :
    keyed? (Value.memberTrees members) = some (keyedTrees members) := by
  rw [keyed?, Value.memberTrees_eq_map, List.mapM_map]
  apply mapM_eq_some_map
  intro member _
  simp only [Function.comp_apply, text?_writtenUnits]
  rfl

/-- Each field of a record is found in an object that has one member for each. -/
theorem mapM_field?_keyedTrees (named : members.map Prod.fst = names) (distinct : names.Nodup) :
    names.mapM (field? (keyedTrees members)) =
      some (members.map fun member => .given member.2.tree) := by
  have keys : (keyedTrees members).map Prod.fst = names := by
    rw [keyedTrees, List.map_map]
    exact named
  have found := @mapM_field? (keyedTrees members) (by rw [keys]; exact distinct)
  rw [keys] at found
  rw [found, keyedTrees, List.map_map]
  rfl

/-- In whatever order the members are, the same field is found. -/
theorem field?_perm {members others : List (String × Tree)} (same : others.Perm members)
    (name : String) : field? others name = field? members name := by
  have kept := same.filter fun member => member.1 = name
  rw [field?, field?]
  generalize others.filter (fun member => member.1 = name) = first at kept ⊢
  generalize members.filter (fun member => member.1 = name) = second at kept ⊢
  rcases second with _ | ⟨member, _ | ⟨next, rest⟩⟩
  case nil => rw [kept.eq_nil]
  case cons.nil => rw [kept.eq_singleton]
  case cons.cons =>
    -- of two or more on one side there are as many on the other
    rcases first with _ | ⟨_, _ | ⟨_, _⟩⟩
    case nil => cases kept.length_eq
    case cons.nil => cases kept.length_eq
    case cons.cons => rfl

/-- The order of the members of an object does not matter to the fields that are found in it. -/
theorem fields?_perm {others : List (String × Value)} (same : others.Perm members)
    (names : List String) (room : Nat) :
    fields? names room (Value.object others).tree =
      fields? names room (Value.object members).tree := by
  have found : field? (keyedTrees others) = field? (keyedTrees members) :=
    funext (field?_perm (same.map _))
  cases room with
  | zero => rfl
  | succ room => simp only [Value.tree, fields?, keyed?_memberTrees, Option.bind_eq_bind,
      Option.bind_some, found]

theorem fields?_object (named : members.map Prod.fst = names) (distinct : names.Nodup)
    (room : Nat) :
    fields? names (room + 1) (Value.object members).tree =
      some (room, members.map fun member => .given member.2.tree) := by
  rw [Value.tree, fields?, keyed?_memberTrees]
  change (names.mapM (field? (keyedTrees members))) >>= _ = _
  rw [mapM_field?_keyedTrees named distinct]
  rfl

/-! A field that is given is read by the decoder of the field, whatever would be read
for a missing one. -/

namespace Restores

theorem required (restores : Restores decode room document value) :
    Decoder.required decode room (.given document.tree) = some value :=
  restores.decoded

theorem optional {value : Option α} (restores : Restores (nullable decode) room document value) :
    Decoder.optional decode room (.given document.tree) = some value :=
  restores.decoded

theorem defaulted {default : α} (restores : Restores decode room document value) :
    Decoder.defaulted default decode room (.given document.tree) = some value :=
  restores.decoded

/-- A record of plain fields is restored with its members in order as well, if its decoder
finds them in any order. -/
theorem sorted (restores : Restores decode (room + 1) (.object members) value)
    (distinct : (members.map Prod.fst).Nodup)
    (plain : ∀ member ∈ members, member.2.sorted = member.2)
    (found : ∀ others : List (String × Value), others.Perm members →
      decode (room + 1) (Value.object others).tree =
        decode (room + 1) (Value.object members).tree) :
    Restores decode (room + 1) (Value.object members).sorted value := by
  have same := Value.sortMembers_perm distinct
  rw [Value.sorted, Value.sortedMembers_of_sorted plain]
  constructor
  · apply Value.readable_object.mpr
    intro member among
    exact Value.readable_object.mp restores.readable member (same.mem_iff.mp among)
  · rw [found _ same]
    exact restores.decoded

end Restores

end Decoder

end Json

end InstrumentBench
