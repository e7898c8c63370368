import LuaHost.Proofs.Data.Json
import LuaHost.Report.Json

/-!
# Reports read back

Nothing of a report is lost in its JSON text. Each part has a way to write it as a document and a
way to read it, and reading undoes writing (`Data.Faithful`); a list or an option of parts is read
like its parts are.
-/

namespace LuaHost

open Json

namespace Data

/-- What is written is a plain document, never `null`, and is read back as it was. -/
structure Faithful {α : Type} (write : α → Data) (read : Data → Option α) : Prop where
  plain : ∀ a, Plain (write a)
  present : ∀ a, write a ≠ .null
  back : ∀ a, read (write a) = some a

variable {α : Type} {write : α → Data} {read : Data → Option α}

/-- A text is read back. -/
lemma faithful_string : Faithful string string? :=
  ⟨.string, nofun, fun _ => rfl⟩

/-- A 32-bit number is read back. -/
lemma faithful_ofWord : Faithful ofWord word? where
  plain n := .integer n.toNat
  present n := nofun
  back n := by
    have below : n.toNat < UInt32.size := n.toNat_lt
    have bounds : (0 ≤ (n.toNat : Int) && (n.toNat : Int) < UInt32.size) = true := by
      rw [Bool.and_eq_true, decide_eq_true_eq, decide_eq_true_eq]
      omega
    rw [ofWord, word?, if_pos bounds, Int.toNat_natCast, UInt32.ofNat_toNat]

/-- A field is read back from the object it stands in. -/
lemma Faithful.required (faithful : Faithful write read) {data : Data} {name : String} {a : α}
    (found : data.field? name = some (write a)) : data.required? name read = some a := by
  rw [required?, found, Option.bind_some, faithful.back]

/-- An option is read like its value, and `null` is none. -/
lemma Faithful.option (faithful : Faithful write read) (value : Option α) :
    Plain (ofOption (value.map write)) ∧
      (ofOption (value.map write)).optional? read = some value := by
  cases value with
  | none => exact ⟨.null, rfl⟩
  | some a =>
    refine ⟨faithful.plain a, ?_⟩
    change (write a).optional? read = some (some a)
    unfold optional?
    split
    case h_1 e => exact absurd e (faithful.present a)
    case h_2 => rw [faithful.back, Option.map_some]

/-- A list is read item by item. -/
lemma Faithful.list (faithful : Faithful write read) (values : List α) :
    Plain (.array (values.map write)) ∧ (values.map write).mapM read = some values := by
  constructor
  · refine .array fun item mem => ?_
    obtain ⟨a, _, rfl⟩ := List.mem_map.mp mem
    exact faithful.plain a
  · induction values with
    | nil => rfl
    | cons a values ih => rw [List.map_cons, List.mapM_cons, faithful.back, ih]; rfl

/-- The fields of an object are plain one by one. -/
lemma plain_object_cons {key : String} {data : Data} {fields : List (String × Data)}
    (own : Plain data) (others : Plain (.object fields)) :
    Plain (.object ((key, data) :: fields)) := by
  cases others with
  | object plain =>
    refine .object fun field mem => ?_
    obtain rfl | mem := List.mem_cons.mp mem
    · exact own
    · exact plain field mem

/-- So is an object without fields. -/
lemma plain_object_nil : Plain (.object []) :=
  .object nofun

end Data

open Data

/-- A line of code is read back field by field. -/
lemma ContextLine.faithful : Faithful toData ofData? where
  plain line := plain_object_cons (faithful_ofWord.plain _) <| plain_object_cons (.string _) <|
    plain_object_cons (.boolean _) plain_object_nil
  present line := nofun
  back line := by
    have number : line.toData.required? "number" word? = some line.number :=
      faithful_ofWord.required (by simp [toData, field?, lookup?])
    rw [ofData?, number]
    simp [toData, required?, field?, lookup?, string?, boolean?]

/-- So is a piece of code, line by line. -/
lemma CodeContext.faithful : Faithful toData ofData? where
  plain context := plain_object_cons (ContextLine.faithful.list _).1 plain_object_nil
  present context := nofun
  back context := by
    simp [toData, ofData?, required?, field?, lookup?, items?, (ContextLine.faithful.list _).2]

/-- A row of a stack is read back field by field. -/
lemma ShownFrame.faithful : Faithful toData ofData? where
  plain frame := plain_object_cons (.string _) <| plain_object_cons (.string _) <|
    plain_object_cons (.boolean _) plain_object_nil
  present frame := nofun
  back frame := by
    simp [toData, ofData?, required?, field?, lookup?, string?, boolean?]

/-- The kind of a stack tells apart one frame, a list of one and none. -/
lemma StackTrace.faithful : Faithful toData ofData? where
  plain stack := by
    cases stack with
    | captured frames =>
      exact plain_object_cons (.string _)
        (plain_object_cons (ShownFrame.faithful.list frames).1 plain_object_nil)
    | synthesized frame =>
      exact plain_object_cons (.string _)
        (plain_object_cons (ShownFrame.faithful.plain frame) plain_object_nil)
    | unavailable => exact plain_object_cons (.string _) plain_object_nil
  present stack := by cases stack <;> nofun
  back stack := by
    cases stack with
    | captured frames =>
      simp [toData, ofData?, required?, field?, lookup?, string?, items?,
        (ShownFrame.faithful.list _).2]
    | synthesized frame =>
      simp [toData, ofData?, required?, field?, lookup?, string?, ShownFrame.faithful.back]
    | unavailable => simp [toData, ofData?, required?, field?, lookup?, string?]

/-- What a hint names is read back field by field. -/
lemma Identifier.faithful : Faithful toData ofData? where
  plain identifier := plain_object_cons (.string _) (plain_object_cons (.string _) plain_object_nil)
  present identifier := nofun
  back identifier := by
    simp [toData, ofData?, required?, field?, lookup?, string?]

/-- So is a block of hints, line by line. -/
lemma HintBlock.faithful : Faithful toData ofData? where
  plain block := plain_object_cons (.string _) <| plain_object_cons (faithful_string.list _).1 <|
    plain_object_cons (Identifier.faithful.option _).1 plain_object_nil
  present block := nofun
  back block := by
    simp [toData, ofData?, required?, maybe?, field?, lookup?, string?, items?,
      (faithful_string.list _).2, (Identifier.faithful.option _).2]

namespace Report

/-- A report is read back part by part. -/
lemma faithful : Faithful toData ofData? where
  plain report := plain_object_cons (.string _) <| plain_object_cons (.string _) <|
    plain_object_cons (.string _) <| plain_object_cons (.string _) <|
    plain_object_cons (faithful_ofWord.option _).1 <|
    plain_object_cons (CodeContext.faithful.option _).1 <|
    plain_object_cons (StackTrace.faithful.plain _) <|
    plain_object_cons (HintBlock.faithful.list _).1 plain_object_nil
  present report := nofun
  back report := by
    simp [toData, ofData?, required?, maybe?, field?, lookup?, string?, items?,
      (faithful_ofWord.option _).2, (CodeContext.faithful.option _).2, StackTrace.faithful.back,
      (HintBlock.faithful.list _).2]

/-- The report that a JSON text denotes. -/
def ofJson? (text : String) : Option Report :=
  (parse? text).bind ofData?

/-- Every report is recovered from its JSON text, so two reports with the same text are the same. -/
theorem toJson_faithful :
    (∀ report : Report, ofJson? report.toJson = some report) ∧ Function.Injective toJson := by
  have recovered (report : Report) : ofJson? report.toJson = some report := by
    rw [ofJson?, toJson, parse?_prettyText (faithful.plain report), Option.bind_some, faithful.back]
  refine ⟨recovered, fun report other same => ?_⟩
  have both := recovered report
  rw [same, recovered other] at both
  exact (Option.some.inj both).symm

end Report

end LuaHost
