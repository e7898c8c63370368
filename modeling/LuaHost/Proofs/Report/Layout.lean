import LuaHost.Proofs.Report.ShownLines
import LuaHost.Report.Diagnostics

/-!
# Layout of reports

The text of a report is a sequence of blocks of rows. What a block looks like is said apart from how
it is written: the rows of source lines have their bar in one column and the marker in the failing
one (`ShowsLine`, `CodeBlock`), and of the calls on the stack the innermost one is flagged
(`StackBlock`). The main statement is `text_of_diagnose`: the text of every report is made of such
blocks, one after the other.
-/

namespace LuaHost

open LuaHost.Text

namespace Text

/-- A larger number has no fewer digits. -/
lemma length_digits_le {m n : Nat} (le : m ≤ n) : (digits m).length ≤ (digits n).length := by
  have positive : 0 < (digits n).length := Nat.length_toDigits_pos
  have below : n < 10 ^ (digits n).length :=
    (Nat.length_toDigits_le_iff (by decide) positive).mp (Nat.le_refl _)
  exact (Nat.length_toDigits_le_iff (by decide) positive).mpr (Nat.lt_of_le_of_lt le below)

/-- No line has a newline in it. -/
lemma newline_not_mem_of_mem_lines {cs line : List Char} (mem : line ∈ lines cs) : '\n' ∉ line := by
  induction cs using lines.induct generalizing line with
  | case1 => cases mem
  | case2 cs ih =>
    rw [lines] at mem
    obtain rfl | mem := List.mem_cons.mp mem
    · exact List.not_mem_nil
    · exact ih mem
  | case3 cs ih =>
    rw [lines] at mem
    obtain rfl | mem := List.mem_cons.mp mem
    · exact List.not_mem_nil
    · exact ih mem
  | case4 c cs ne inner none ih =>
    rw [lines_cons ne (by cases cs <;> simp_all), none] at mem
    rw [List.mem_singleton.mp mem, List.mem_singleton]
    exact fun e => ne e.symm
  | case5 c cs ne inner first rest found ih =>
    rw [lines_cons ne (by cases cs <;> simp_all), found] at mem
    rw [found] at ih
    obtain rfl | mem := List.mem_cons.mp mem
    · rw [List.mem_cons, not_or]
      exact ⟨fun e => ne e.symm, ih List.mem_cons_self⟩
    · exact ih (List.mem_cons_of_mem _ mem)

end Text

namespace Report

/-! ### The first rows -/

/-- The header names the script, its path and what was being done. -/
lemma header_eq (report : Report) :
    report.header = "Script error in '" ++ report.script ++ "' (" ++ report.path ++ ")" ++
      if report.context.isEmpty then "" else " during " ++ report.context := by
  unfold header
  split
  case isTrue => exact String.append_empty.symm
  case isFalse => exact String.append_assoc

/-- The row of the line says its number, or that it is unknown. -/
lemma lineNumberRow_eq (line : Option UInt32) :
    lineNumberRow line = "  line: " ++
      match line with
      | some line => String.ofList (digits line.toNat)
      | none => "unknown" := by
  cases line <;> rfl

/-! ### The code block -/

/-- A row shows a source line: the marker if it is the failing one, the number aligned to the right
of a gutter, the bar and the text. It is one line, and its first bar stands in a column. -/
structure ShowsLine (column : Nat) (failing : Bool) (line : ContextLine) (row : String) : Prop where
  parts : ∃ blanks, row.toList =
    (if failing then "  >>> " else "      ").toList ++
      (List.replicate blanks ' ' ++ digits line.number.toNat) ++
      ' ' :: '|' :: ' ' :: line.text.toList
  bar : row.toList.idxOf '|' = column
  single : '\n' ∉ row.toList

/-- The block of the code around a line: none without a code context, else one row for each line of
it, in ascending order and with their bars in one column. Exactly one of them is the failing one. -/
inductive CodeBlock (line : Option UInt32) : Option CodeContext → List String → Prop where
  | absent :
    CodeBlock line none []
  | shown {context rows} (column : Nat) :
    List.Forall₂ (fun shown row => ShowsLine column (some shown.number == line) shown row)
      context.lines rows →
    context.lines.Pairwise (fun shown below => shown.number < below.number) →
    (context.lines.filter fun shown => some shown.number == line).length = 1 →
    CodeBlock line (some context) ("Code context:" :: rows)

/-- There is a block if and only if there is a context. -/
lemma CodeBlock.eq_nil_iff {line context rows} (written : CodeBlock line context rows) :
    rows = [] ↔ context = none := by
  cases written with
  | absent => exact ⟨fun _ => rfl, fun _ => rfl⟩
  | shown _ _ _ _ => exact ⟨nofun, nofun⟩

/-- The row of a source line has its bar behind a gutter that is wide enough for the number. -/
lemma lineRow_showsLine {width : Nat} {line : ContextLine}
    (fits : (digits line.number.toNat).length ≤ width) (whole : '\n' ∉ line.text.toList) :
    ShowsLine (width + 7) line.isError line (lineRow width line) := by
  have row : (lineRow width line).toList =
      (if line.isError then "  >>> " else "      ").toList ++
        (List.replicate (width - (digits line.number.toNat).length) ' ' ++
          digits line.number.toNat) ++
        ' ' :: '|' :: ' ' :: line.text.toList := by
    cases marked : line.isError with
    | true => simp [lineRow, marked, alignRight, errorMarker]
    | false => simp [lineRow, marked, alignRight, List.replicate]
  generalize front : (if line.isError then "  >>> " else "      ").toList ++
    (List.replicate (width - (digits line.number.toNat).length) ' ' ++ digits line.number.toNat) =
      before at row
  have length : before.length = width + 6 := by
    rw [← front, List.length_append, List.length_append, List.length_replicate]
    have margin : (if line.isError then "  >>> " else "      ").toList.length = 6 := by
      split <;> rfl
    omega
  have free {c : Char} (other : c.isDigit = false) (blank : c ≠ ' ') (mark : c ≠ '>') :
      c ∉ before := by
    rw [← front, List.mem_append, List.mem_append, not_or, not_or]
    refine ⟨?_, fun mem => blank (List.eq_of_mem_replicate mem), not_mem_digits other _⟩
    split <;> simp [blank, mark]
  refine ⟨⟨_, front ▸ row⟩, ?_, ?_⟩
  · rw [row, List.idxOf_append_of_notMem (free rfl (by decide) (by decide)), length]
    rfl
  · rw [row, List.mem_append, not_or]
    refine ⟨free rfl (by decide) (by decide), ?_⟩
    simpa using whole

section

variable {source : String} {line : UInt32} {window : ContextWindow} {shown : CodeContext}

open CodeContext

/-- The lines of a context ascend. -/
lemma ascending_of_cut? (cut : cut? source line window = some shown) :
    shown.lines.Pairwise fun row below => row.number < below.number := by
  have numbers : (shown.lines.map fun row => row.number.toNat).Pairwise (· < ·) := by
    rw [numbers_of_cut? cut]
    exact List.pairwise_lt_range'
  exact (List.pairwise_map.mp numbers).imp UInt32.lt_iff_toNat_lt.mpr

/-- The last line of a context has the widest number. -/
lemma length_le_numberWidth (cut : cut? source line window = some shown) {row : ContextLine}
    (mem : row ∈ shown.lines) : (digits row.number.toNat).length ≤ numberWidth shown := by
  unfold numberWidth
  split
  case h_1 last e =>
    obtain ⟨front, e⟩ := List.getLast?_eq_some_iff.mp e
    have ascending := ascending_of_cut? cut
    rw [e] at mem ascending
    obtain ⟨_, _, below⟩ := List.pairwise_append.mp ascending
    apply length_digits_le
    obtain mem | mem := List.mem_append.mp mem
    · exact Nat.le_of_lt (below row mem last List.mem_cons_self)
    · obtain rfl := List.mem_singleton.mp mem
      exact Nat.le_refl _
  case h_2 e =>
    rw [List.getLast?_eq_none_iff.mp e] at mem
    cases mem

/-- A line of a context is marked if it is the one in question. -/
lemma isError_eq_of_cut? (cut : cut? source line window = some shown) {row : ContextLine}
    (mem : row ∈ shown.lines) : row.isError = (some row.number == some line) := by
  have has := hasLine_of_cut? cut
  rw [lines_of_cut? cut] at mem
  obtain ⟨number, inside, rfl⟩ := List.mem_map.mp mem
  have fits : number < UInt32.size :=
    Nat.lt_of_le_of_lt (has.number_le window inside).2 has.numbered
  rw [Bool.eq_iff_iff, beq_iff_eq, Option.some.injEq, ← UInt32.toNat_inj]
  simp only [rowOf, beq_iff_eq, UInt32.toNat_ofNat_of_lt' fits]

/-- A context is written as a block. -/
lemma contextRows_of_cut? (cut : cut? source line window = some shown) :
    CodeBlock (some line) (some shown) (contextRows (some shown)) := by
  refine .shown (numberWidth shown + 7) ?_ (ascending_of_cut? cut) ?_
  · rw [List.forall₂_map_right_iff, List.forall₂_same]
    intro row mem
    rw [← isError_eq_of_cut? cut mem]
    apply lineRow_showsLine (length_le_numberWidth cut mem)
    exact newline_not_mem_of_mem_lines (List.mem_of_getElem? (text_of_cut? cut mem))
  · rw [List.filter_congr fun row mem => (isError_eq_of_cut? cut mem).symm, filter_of_cut? cut]
    rfl

end

/-! ### The stack block -/

/-- A frame as it is shown, with placeholders for what is not known of it. -/
def shownCall (frame : Frame) : String :=
  frame.name.getD "<anonymous_function>" ++ " (" ++
    (frame.location.map Location.text).getD "<unknown_location>" ++ ")"

/-- The calls that a report shows, the innermost first: those of the failure, or else the line in
the scope of the script, if it is known. -/
def shownCalls (frames : List Frame) (line : Option UInt32) (script : String) : List String :=
  if frames.isEmpty then line.toList.map fun line =>
    "<script_scope> (" ++ (Location.mk script (some line)).text ++ ")"
  else frames.map shownCall

/-- No call is shown if and only if neither frames nor a line are known. -/
lemma shownCalls_eq_nil_iff {frames : List Frame} {line : Option UInt32} {script : String} :
    shownCalls frames line script = [] ↔ frames = [] ∧ line = none := by
  cases frames with
  | nil => cases line <;> simp [shownCalls]
  | cons _ _ => simp [shownCalls]

/-- The block of the stack: one row for each call, with the first one flagged as the error site, or
a row that says that there is none. -/
inductive StackBlock : List String → List String → Prop where
  | unavailable :
    StackBlock [] ["Stack trace:", "  stack trace not available"]
  | shown (site : String) (callers : List String) :
    StackBlock (site :: callers)
      ("Stack trace:" :: ("  -> " ++ site ++ "  <- error site") ::
        callers.map fun call => "     " ++ call)

/-- Whether a row is flagged as the error site. -/
def IsSite (row : String) : Bool :=
  "  -> ".toList.isPrefixOf row.toList && "  <- error site".toList.isSuffixOf row.toList

/-- The stack of a report is written as the block of its calls. -/
lemma stackRows_reconstruct (frames : List Frame) (line : Option UInt32) (script : String) :
    StackBlock (shownCalls frames line script) (stackRows (.reconstruct frames line script)) := by
  cases frames with
  | nil =>
    cases line with
    | none => exact .unavailable
    | some line => exact .shown _ []
  | cons site callers =>
    have others : (callers.map (StackTrace.showFrame false)).map frameRow =
        (callers.map shownCall).map fun call => "     " ++ call := by
      rw [List.map_map, List.map_map]
      rfl
    change StackBlock (shownCall site :: callers.map shownCall)
      ("Stack trace:" :: frameRow (StackTrace.showFrame true site) ::
        (callers.map (StackTrace.showFrame false)).map frameRow)
    rw [others]
    exact .shown _ _

/-- The row of the innermost call is flagged. -/
lemma isSite_site (call : String) : IsSite ("  -> " ++ call ++ "  <- error site") = true := by
  rw [IsSite, Bool.and_eq_true, List.isPrefixOf_iff_prefix, List.isSuffixOf_iff_suffix]
  simp only [String.toList_append]
  exact ⟨by rw [List.append_assoc]; exact List.prefix_append _ _, List.suffix_append _ _⟩

/-- The rows of its callers are not. -/
lemma isSite_caller (call : String) : IsSite ("     " ++ call) = false := by
  rw [IsSite, String.toList_append]
  rfl

/-- The only flagged row is the first one of a call. -/
lemma StackBlock.filter_isSite {calls block} (written : StackBlock calls block) :
    block.filter IsSite = if calls.isEmpty then [] else (block.drop 1).take 1 := by
  cases written with
  | unavailable => rfl
  | shown site callers =>
    have title : IsSite "Stack trace:" = false := rfl
    have none : (callers.map fun call => "     " ++ call).filter IsSite = [] := by
      rw [List.filter_eq_nil_iff]
      intro row mem
      obtain ⟨call, _, rfl⟩ := List.mem_map.mp mem
      rw [isSite_caller]
      exact Bool.false_ne_true
    rw [List.filter_cons_of_neg (by rw [title]; exact Bool.false_ne_true),
      List.filter_cons_of_pos (isSite_site site), none]
    rfl

end Report

/-! ### Reports -/

namespace Diagnostics

variable (diagnostics : Diagnostics) (files : FileTree) (failure : Failure) (context : String)

/-- The code of a report is written as a block around its line. -/
lemma codeContext_block :
    let report := (diagnostics.diagnose files failure context).1
    Report.CodeBlock report.line report.codeContext (Report.contextRows report.codeContext) := by
  cases positioned : messageLine? failure.message with
  | none =>
    simp only [diagnose, codeContext, positioned]
    exact .absent
  | some line =>
    simp only [diagnose, codeContext, positioned]
    cases here : (diagnostics.provider.read files diagnostics.path).1.bind
        fun text => CodeContext.cut? text line diagnostics.window with
    | none => exact .absent
    | some shown =>
      obtain ⟨own, _, cut⟩ := Option.bind_eq_some_iff.mp here
      exact Report.contextRows_of_cut? cut

/-- The text of a report consists of rows that each end their line: the header, the message and the
line; a block of code if there is a code context, and only then; a block of the stack, where exactly
the first call is flagged as the error site, unless none is shown; and one block for each block of
hints. -/
theorem text_of_diagnose :
    let report := (diagnostics.diagnose files failure context).1
    let during := if context.isEmpty then "" else " during " ++ context
    let line := match report.line with
      | some line => String.ofList (digits line.toNat)
      | none => "unknown"
    let calls := Report.shownCalls failure.frames report.line diagnostics.script
    ∃ code stack hints,
      report.text = String.join
        (([ "Script error in '" ++ diagnostics.script ++ "' (" ++ diagnostics.path ++ ")" ++ during,
            "  message: " ++ failure.message, "  line: " ++ line] ++ code ++ stack ++
          hints.flatten).map (· ++ "\n")) ∧
      Report.CodeBlock report.line report.codeContext code ∧
      (code = [] ↔ report.codeContext = none) ∧
      Report.StackBlock calls stack ∧
      stack.filter Report.IsSite = (if calls.isEmpty then [] else (stack.drop 1).take 1) ∧
      (calls = [] ↔ failure.frames = [] ∧ report.line = none) ∧
      List.Forall₂
        (fun block rows =>
          rows = ("Hint (" ++ block.rule ++ "):") :: block.hints.map ("  - " ++ ·))
        report.hints hints := by
  intro report during line calls
  have header : report.header =
      "Script error in '" ++ diagnostics.script ++ "' (" ++ diagnostics.path ++ ")" ++ during :=
    report.header_eq
  have number : Report.lineNumberRow report.line = "  line: " ++ line := Report.lineNumberRow_eq _
  have code := diagnostics.codeContext_block files failure context
  have stack : Report.StackBlock calls (Report.stackRows report.stack) :=
    Report.stackRows_reconstruct failure.frames report.line diagnostics.script
  refine ⟨_, _, report.hints.map Report.hintRows, ?_, code, code.eq_nil_iff, stack,
    stack.filter_isSite, Report.shownCalls_eq_nil_iff, ?_⟩
  · rw [Report.text, Report.rows, header, number, List.flatMap_def]
    rfl
  · rw [List.forall₂_map_right_iff, List.forall₂_same]
    exact fun _ _ => rfl

end Diagnostics

end LuaHost
