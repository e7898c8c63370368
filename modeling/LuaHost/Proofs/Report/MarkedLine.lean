import LuaHost.Proofs.Report.CallingLine
import LuaHost.Proofs.Report.Window

/-!
# The marked line of a report

The code of a report is always cut from the script that the diagnostics are for, whatever source the
message names (`codeContext_eq`). So the marked line is the failing one if and only if the message
names that script (`diagnose_marks`). A hook that an earlier script left behind fails in the source
of that script, and its failure is reported with a line of the current one (`diagnose_marks_other`).
-/

namespace LuaHost

open LuaHost.Text

/-- A message begins with a position in a source: `source:line:`. -/
def PositionedIn (message source : String) (line : UInt32) : Prop :=
  ∃ numeral rest, message.toList = source.toList ++ ':' :: (numeral ++ ':' :: rest) ∧
    ':' ∉ source.toList ∧ ':' ∉ numeral ∧ wordValue? (trim numeral) = some line

/-- A position in a source is a position. -/
lemma PositionedIn.positioned {message source : String} {line : UInt32}
    (named : PositionedIn message source line) : Positioned message line := by
  obtain ⟨numeral, rest, e, free, free', value⟩ := named
  exact ⟨source.toList, numeral, rest, e, free, free', value⟩

namespace Diagnostics

variable (diagnostics : Diagnostics) (files : FileTree) (failure : Failure) (context : String)

/-- The text of the script that the diagnostics are for. -/
def ownSource? : Option String :=
  (diagnostics.provider.read files diagnostics.path).1

/-- The code of a report is cut from the script's own source at the line of the message. -/
lemma codeContext_eq {line : UInt32} (positioned : Positioned failure.message line) :
    (diagnostics.diagnose files failure context).1.codeContext =
      (diagnostics.ownSource? files).bind fun own =>
        CodeContext.cut? own line diagnostics.window := by
  have found : messageLine? failure.message = some line := messageLine?_eq_some_iff.mpr positioned
  simp only [diagnose, codeContext, found, ownSource?]

/-- A report has code if and only if the script has a line of the number that the message names. -/
lemma isSome_codeContext_iff {line : UInt32} (positioned : Positioned failure.message line) :
    (diagnostics.diagnose files failure context).1.codeContext.isSome = true ↔
      ∃ own, diagnostics.ownSource? files = some own ∧ CodeContext.HasLine own line := by
  rw [codeContext_eq diagnostics files failure context positioned]
  constructor
  · intro here
    obtain ⟨shown, here⟩ := Option.isSome_iff_exists.mp here
    obtain ⟨own, read, cut⟩ := Option.bind_eq_some_iff.mp here
    exact ⟨own, read, CodeContext.hasLine_of_cut? cut⟩
  · rintro ⟨own, read, has⟩
    rw [read, Option.bind_some]
    exact CodeContext.cut?_isSome_iff.mpr has

/-- The code of a report marks this line of the script. -/
lemma marks_of_codeContext {line : UInt32} (positioned : Positioned failure.message line)
    {shown : CodeContext}
    (here : (diagnostics.diagnose files failure context).1.codeContext = some shown) :
    ∃ own, diagnostics.ownSource? files = some own ∧ shown.Marks own line := by
  rw [codeContext_eq diagnostics files failure context positioned, Option.bind_eq_some_iff] at here
  obtain ⟨own, read, cut⟩ := here
  exact ⟨own, read, CodeContext.marks_of_cut? cut⟩

/-- The code of a report is that of a failure in a line of a source: it is there only if the source
is the script that the diagnostics are for, and the marked line is this line of the script. -/
def Attributes (source : String) (line : UInt32) (report : Report) : Prop :=
  ∀ shown, report.codeContext = some shown → source = diagnostics.script ∧
    ∃ own, diagnostics.ownSource? files = some own ∧ shown.Marks own line

/-- The report on a failure in a line of a source has code if and only if the script has such a
line, and then marks that line of the script. This is the failing line if and only if the source is
the script itself. -/
theorem diagnose_marks {source : String} {line : UInt32}
    (named : PositionedIn failure.message source line) :
    let report := (diagnostics.diagnose files failure context).1
    (report.codeContext.isSome = true ↔
      ∃ own, diagnostics.ownSource? files = some own ∧ CodeContext.HasLine own line) ∧
    (∀ shown, report.codeContext = some shown →
      ∃ own, diagnostics.ownSource? files = some own ∧ shown.Marks own line) ∧
    (diagnostics.Attributes files source line report ↔
      source = diagnostics.script ∨ report.codeContext = none) := by
  intro report
  have marks : ∀ shown, report.codeContext = some shown → _ := fun shown =>
    marks_of_codeContext diagnostics files failure context named.positioned
  refine ⟨isSome_codeContext_iff diagnostics files failure context named.positioned, marks, ?_⟩
  constructor
  · intro attributed
    cases here : report.codeContext with
    | none => exact .inr rfl
    | some shown =>
      obtain ⟨same, _⟩ := attributed shown here
      exact .inl same
  · rintro (same | lacks) shown here
    · exact ⟨same, marks shown here⟩
    · rw [lacks] at here
      cases here

/-- The text of a script that replaces another one. -/
def newText : String :=
  "local a = 1\nlocal b = 2\n"

/-- The files of both scripts. -/
def bothFiles : FileTree :=
  { entries := [
      (Place.workingDirectory.child "new.lua", .file newText.toUTF8),
      (Place.workingDirectory.child "old.lua",
        .file "function on_tick(dt)\n  error('boom')\nend\n".toUTF8)] }

/-- Diagnostics for the new script. -/
def newDiagnostics : Diagnostics :=
  { script := "new.lua", path := "new.lua" }

/-- A failure of the hook that the replaced script has left behind. -/
def leftBehind : Failure :=
  { message := "old.lua:2: boom"
    frames := [
      { name := some "on_tick"
        location := some { source := "old.lua", line := some 2 } }] }

/-- It names its line of the replaced script. -/
lemma leftBehind_named : PositionedIn leftBehind.message "old.lua" 2 :=
  ⟨['2'], " boom".toList, rfl, by decide, by decide, by decide⟩

/-- The diagnostics read the new script. -/
lemma ownSource?_newDiagnostics : newDiagnostics.ownSource? bothFiles = some newText := rfl

/-- It is reported with a line of the new script. -/
theorem diagnose_marks_replaced :
    PositionedIn leftBehind.message "old.lua" 2 ∧
    ∃ shown, (newDiagnostics.diagnose bothFiles leftBehind "on_tick").1.codeContext = some shown ∧
      shown.Marks newText 2 := by
  obtain ⟨code, marks, _⟩ := diagnose_marks newDiagnostics bothFiles leftBehind "on_tick"
    leftBehind_named
  have has : CodeContext.HasLine newText 2 := ⟨by decide, by decide, by decide⟩
  obtain ⟨shown, here⟩ := Option.isSome_iff_exists.mp (code.mpr ⟨_, ownSource?_newDiagnostics, has⟩)
  obtain ⟨own, read, marked⟩ := marks shown here
  obtain rfl := Option.some.inj (ownSource?_newDiagnostics.symm.trans read)
  exact ⟨leftBehind_named, shown, here, marked⟩

/-- The failing line is none of the new script, and still one of its lines is marked. -/
theorem diagnose_marks_other :
    PositionedIn leftBehind.message "old.lua" 2 ∧
    ¬ newDiagnostics.Attributes bothFiles "old.lua" 2
      (newDiagnostics.diagnose bothFiles leftBehind "on_tick").1 := by
  refine ⟨leftBehind_named, fun attributed => ?_⟩
  have here :
      (newDiagnostics.diagnose bothFiles leftBehind "on_tick").1.codeContext.isSome = true := rfl
  obtain ⟨shown, here⟩ := Option.isSome_iff_exists.mp here
  obtain ⟨same, _⟩ := attributed shown here
  have other : "old.lua" ≠ newDiagnostics.script := by decide
  exact other same

end Diagnostics

end LuaHost
