import InstrumentBench.Instrument.Basic
import InstrumentBench.Proofs.Text.Fields

/-!
# The identity in a reply with commas

A reply with at least three commas is cut at them, and blank fields count for nothing, wherever
they stand.  The first field that is not blank is the vendor, the next one the model, and what is
left makes up the serial number (`Identity.ToldBy`).  `Identity.read?_of_commas` says that the
reply is understood exactly if it is long enough and has these two, and that the vendor is the
first field and the model the second exactly if neither is blank.  A blank one moves the fields
behind it forward, which is what `Identity.read?_shifted` shows.
-/

namespace InstrumentBench

/-! ## Fields that are not blank -/

namespace Text

/-- Whether a text has nothing but blanks. -/
def Blank (text : List Char) : Prop :=
  ∀ c ∈ text, isBlank c

instance (text : List Char) : Decidable (Blank text) :=
  List.decidableBAll (fun c => isBlank c = true) text

/-- The pieces that are not blank, without the blanks around them. -/
def visiblePieces (pieces : List (List Char)) : List (List Char) :=
  (pieces.map trim).filter (· ≠ [])

/-- The first visible piece is the first one that is not blank, and the others are those that
stand behind it. -/
theorem visiblePieces_eq_cons {pieces others : List (List Char)} {first : List Char} :
    visiblePieces pieces = first :: others ↔ ∃ skipped piece rest,
      pieces = skipped ++ piece :: rest ∧ (∀ blank ∈ skipped, Blank blank) ∧ ¬Blank piece ∧
        trim piece = first ∧ visiblePieces rest = others := by
  have blank : ∀ piece : List Char, trim piece = [] ↔ Blank piece := fun piece => trim_eq_nil
  simp only [visiblePieces, List.filter_map, List.map_eq_cons_iff, List.filter_eq_cons_iff,
    Function.comp_apply, decide_eq_true_eq, ne_eq, not_not, blank]
  constructor
  · rintro ⟨piece, _, ⟨skipped, rest, whole, skips, visible, rfl⟩, trimmed, later⟩
    exact ⟨skipped, piece, rest, whole, skips, visible, trimmed, later⟩
  · rintro ⟨skipped, piece, rest, whole, skips, visible, trimmed, later⟩
    exact ⟨piece, _, ⟨skipped, rest, whole, skips, visible, rfl⟩, trimmed, later⟩

/-- Blanks around a text do not show in the pieces between separators. -/
theorem visiblePieces_fields_trim {separator : Char} (visible : isBlank separator = false)
    (text : List Char) :
    visiblePieces (fields separator (trim text)) = visiblePieces (fields separator text) := by
  obtain ⟨before, after, blankBefore, blankAfter, whole⟩ := exists_padding text
  have same := map_trim_fields_padded visible blankBefore blankAfter (trim text)
  rw [← whole] at same
  rw [visiblePieces, visiblePieces, same]

end Text

namespace Identity

open Text

/-- The serial number that fields make up: those that are not blank, with one blank between
them. -/
def serialOf (pieces : List (List Char)) : String :=
  " ".intercalate ((visiblePieces pieces).map String.ofList)

/-- What the fields of a reply tell: the first one that is not blank is the vendor, the next one
the model, and the others make up the serial number. -/
inductive ToldBy : List (List Char) → Identity → Prop where
  | intro {skipped between others : List (List Char)} {vendor model : List Char}
      (noVendor : ∀ piece ∈ skipped, Blank piece) (vendorVisible : ¬Blank vendor)
      (noModel : ∀ piece ∈ between, Blank piece) (modelVisible : ¬Blank model) :
      ToldBy (skipped ++ vendor :: (between ++ model :: others))
        ⟨String.ofList (trim vendor), String.ofList (trim model), serialOf others⟩

variable {reply : String} {identity : Identity} {pieces : List (List Char)}

theorem toldBy_iff :
    ToldBy pieces identity ↔ ∃ vendor model others,
      visiblePieces pieces = vendor :: model :: others ∧
        identity = ⟨String.ofList vendor, String.ofList model,
          " ".intercalate (others.map String.ofList)⟩ := by
  constructor
  · rintro ⟨noVendor, vendorVisible, noModel, modelVisible⟩
    refine ⟨_, _, _, visiblePieces_eq_cons.2
      ⟨_, _, _, rfl, noVendor, vendorVisible, rfl, visiblePieces_eq_cons.2
        ⟨_, _, _, rfl, noModel, modelVisible, rfl, rfl⟩⟩, rfl⟩
  · rintro ⟨vendor, model, others, visible, rfl⟩
    obtain ⟨skipped, first, rest, rfl, noVendor, vendorVisible, rfl, later⟩ :=
      visiblePieces_eq_cons.1 visible
    obtain ⟨between, second, last, rfl, noModel, modelVisible, rfl, rfl⟩ :=
      visiblePieces_eq_cons.1 later
    exact .intro noVendor vendorVisible noModel modelVisible

/-! ## Replies -/

/-- A reply is understood if it is long enough and has two parts at least. -/
theorem read?_eq_some :
    read? reply = some identity ↔ minReply ≤ (trim reply.toList).length ∧
      ∃ vendor model others, parts (trim reply.toList) = vendor :: model :: others ∧
        identity = ⟨String.ofList vendor, String.ofList model,
          " ".intercalate (others.map String.ofList)⟩ := by
  rw [read?]
  split
  next short => simp [Nat.not_le.2 short]
  next long =>
    rw [and_iff_right (Nat.not_lt.1 long)]
    split
    next vendor model others found => simp [found, eq_comm]
    next missing =>
      refine iff_of_false (by simp) ?_
      rintro ⟨vendor, model, others, found, -⟩
      exact missing vendor model others found

/-- With three commas the parts of a reply are its fields that are not blank. -/
theorem parts_of_commas (commas : 3 ≤ reply.toList.count ',') :
    parts (trim reply.toList) = visiblePieces (fields ',' reply.toList) := by
  have visible : isBlank ',' = false := by decide
  rw [parts, count_trim visible, if_pos commas, commaParts, ← visiblePieces,
    visiblePieces_fields_trim visible]

/-- Of two fields that are the vendor and the model neither is blank. -/
theorem ToldBy.visible (told : ToldBy pieces identity) {first second : List Char}
    (vendor : identity.vendor = String.ofList (trim first))
    (model : identity.model = String.ofList (trim second)) : ¬Blank first ∧ ¬Blank second := by
  obtain ⟨-, vendorVisible, -, modelVisible⟩ := told
  rw [Blank, ← trim_eq_nil] at vendorVisible modelVisible
  rw [Blank, Blank, ← trim_eq_nil, ← trim_eq_nil, ← String.ofList_inj.1 vendor,
    ← String.ofList_inj.1 model]
  exact ⟨vendorVisible, modelVisible⟩

/-- A reply with at least three commas is understood exactly if it is long enough and two of its
fields are not blank.  The first of these is the vendor, the second the model, and the others make
up the serial number.  So these are told by the first field, the second and the rest exactly if
neither of the first two is blank. -/
theorem read?_of_commas (commas : 3 ≤ reply.toList.count ',') :
    (∀ identity, read? reply = some identity ↔
      minReply ≤ (trim reply.toList).length ∧ ToldBy (fields ',' reply.toList) identity) ∧
    ∃ first second others, fields ',' reply.toList = first :: second :: others ∧
      ∀ identity, read? reply = some identity →
        (identity = ⟨String.ofList (trim first), String.ofList (trim second), serialOf others⟩ ↔
          ¬Blank first ∧ ¬Blank second) := by
  have understood : ∀ identity, read? reply = some identity ↔
      minReply ≤ (trim reply.toList).length ∧ ToldBy (fields ',' reply.toList) identity := by
    intro identity
    rw [read?_eq_some, parts_of_commas commas, toldBy_iff]
  refine ⟨understood, ?_⟩
  have comma : ',' ∈ reply.toList := List.count_pos_iff.1 (by omega)
  obtain ⟨first, second, others, whole⟩ := exists_fields_of_mem comma
  refine ⟨first, second, others, whole, fun identity found => ?_⟩
  obtain ⟨long, told⟩ := (understood identity).1 found
  constructor
  · rintro rfl
    exact told.visible rfl rfl
  · rintro ⟨vendorVisible, modelVisible⟩
    have positional : ToldBy (fields ',' reply.toList)
        ⟨String.ofList (trim first), String.ofList (trim second), serialOf others⟩ := by
      rw [whole]
      exact .intro (List.forall_mem_nil _) vendorVisible (List.forall_mem_nil _) modelVisible
    rw [(understood _).2 ⟨long, positional⟩] at found
    exact (Option.some.inj found).symm

/-- Blank fields before, between and after the others do not count. -/
theorem read?_of_commas_gaps :
    let reply := " ,ACME, ,PSU-1,SN 42,,1.01 \n"
    3 ≤ reply.toList.count ',' ∧ read? reply = some ⟨"ACME", "PSU-1", "SN 42 1.01"⟩ := by
  intro reply
  have commas : 3 ≤ reply.toList.count ',' := by decide
  have pieces : fields ',' reply.toList =
      [" ".toList] ++ "ACME".toList :: ([" ".toList] ++ "PSU-1".toList ::
        ["SN 42".toList, "".toList, "1.01 \n".toList]) := by decide
  have told : ToldBy (fields ',' reply.toList) ⟨"ACME", "PSU-1", "SN 42 1.01"⟩ := by
    rw [pieces]
    exact .intro (by decide) (by decide) (by decide) (by decide)
  exact ⟨commas, ((read?_of_commas commas).1 _).2 ⟨by decide, told⟩⟩

/-- Where the model is left out, the serial number is taken for it. -/
theorem read?_shifted :
    let reply := "ACME,,SN12345,1.01"
    3 ≤ reply.toList.count ',' ∧
      fields ',' reply.toList =
        ["ACME".toList, "".toList, "SN12345".toList, "1.01".toList] ∧
      read? reply = some ⟨"ACME", "SN12345", "1.01"⟩ := by
  decide

end Identity

end InstrumentBench
