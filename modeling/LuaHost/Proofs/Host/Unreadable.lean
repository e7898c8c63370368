import LuaHost.Host
import LuaHost.Proofs.Report.CallingLine
import LuaHost.Proofs.Script

/-!
# Scripts that cannot be read

There are two reasons why a script cannot be read: its path leads to no file, or its file gives no
text, be it that it holds none or that it is sealed (`Script.read_eq_error`). The report on the
first one has the path in its message, and the line of a report is looked for in its message. So it
names a line that nothing failed in if and only if the path begins with a number and a colon
(`loadScript_of_rejected`, `loadScript_numbered`). There is never any code in it, for the script
cannot be read for that either.
-/

namespace LuaHost

open LuaHost.Text

namespace FileTree

variable {tree : FileTree} {path : String}

/-- Where there is no file, there is no text. -/
lemma readText_of_not_file (other : tree.isFile path = false) :
    ∃ error, tree.readText path = .error error := by
  cases text : tree.readText path with
  | ok _ =>
    obtain ⟨_, found⟩ := lookup_of_readText text
    rw [isFile_iff.mpr ⟨_, found, nofun⟩] at other
    cases other
  | error error => exact ⟨error, rfl⟩

/-- A file that cannot be read is sealed, or holds no text. -/
lemma error_of_readText (file : tree.isFile path = true) {error : FileError}
    (unreadable : tree.readText path = .error error) : error = .denied ∨ error = .notText := by
  obtain ⟨node, found, other⟩ := isFile_iff.mp file
  rw [readText, found] at unreadable
  cases node with
  | directory => exact absurd rfl other
  | sealed =>
    cases unreadable
    exact .inl rfl
  | file content =>
    dsimp only [bind, Except.bind] at unreadable
    split at unreadable
    case h_1 => cases unreadable
    case h_2 =>
      cases unreadable
      exact .inr rfl

end FileTree

/-- A script that cannot be read is no file, or one that gives no text. -/
lemma Script.read_eq_error {files : FileTree} {path : String} {reason : EngineError}
    (rejected : read files path = .error reason) :
    (∃ error, files.readText path = .error error) ∧
      (files.isFile path = false ∧ reason = .scriptNotFound path ∨
        files.isFile path = true ∧
          ∃ error : FileError, (error = .denied ∨ error = .notText) ∧ reason = .io error.text) := by
  cases file : files.isFile path with
  | false =>
    rw [read, file] at rejected
    cases rejected
    exact ⟨FileTree.readText_of_not_file file, .inl ⟨rfl, rfl⟩⟩
  | true =>
    obtain ⟨_, found, other⟩ := FileTree.isFile_iff.mp file
    obtain ⟨name, named⟩ := FileTree.fileName?_of_lookup found other
    cases text : files.readText path with
    | ok _ =>
      simp only [read, file, if_true, named, text] at rejected
      cases rejected
    | error error =>
      simp only [read, file, if_true, named, text] at rejected
      cases rejected
      exact ⟨⟨_, rfl⟩, .inr ⟨rfl, error, FileTree.error_of_readText file text, rfl⟩⟩

/-- The text about a missing script begins with a line exactly if its path does. -/
lemma messageLine?_scriptNotFound {path : String} {line : UInt32} :
    messageLine? (EngineError.scriptNotFound path).text = some line ↔ Numbered path line := by
  have free : ':' ∉ "Script not found".toList := by decide
  have label : "Script not found: " = "Script not found" ++ ": " := by decide
  have text : (EngineError.scriptNotFound path).text = "Script not found" ++ ": " ++ path :=
    congrArg (· ++ path) label
  rw [messageLine?_eq_some_iff, text]
  exact positioned_label_iff free

/-- Without frames the stack is unavailable exactly if there is no line. -/
lemma StackTrace.reconstruct_nil_eq_unavailable_iff {line : Option UInt32} {script : String} :
    reconstruct [] line script = .unavailable ↔ line = none := by
  cases line with
  | none => exact iff_of_true rfl rfl
  | some _ => exact ⟨nofun, nofun⟩

namespace Host

variable {M : Type} (host : Host M) {files : FileTree} {path : String} {reason : EngineError}

/-- The report on a script that cannot be read says why, and shows no code. -/
lemma loadScript_of_read (rejected : Script.read files path = .error reason) :
    ∃ report events, host.loadScript files path = (.error report, host, events) ∧
      report.message = reason.text ∧ report.line = messageLine? reason.text ∧
      report.codeContext = none ∧
      report.stack = .reconstruct [] report.line report.script := by
  let failure : Failure := { message := reason.text }
  have returned : host.loadScript files path =
      (.error ((host.unreadableDiagnostics path).report files failure loadContext).1, host,
        ((host.unreadableDiagnostics path).report files failure loadContext).2) := by
    rw [loadScript, rejected]
  obtain ⟨⟨_, unreadable⟩, _⟩ := Script.read_eq_error rejected
  refine ⟨_, _, returned, rfl, rfl, ?_, rfl⟩
  change ((host.unreadableDiagnostics path).codeContext files (messageLine? reason.text)).1 = none
  have unserved : (SourceProvider.read .files files path).1 = none := by
    rw [SourceProvider.read, unreadable]
  cases messageLine? reason.text with
  | none => rfl
  | some line =>
    change (SourceProvider.read .files files path).1.bind _ = none
    rw [unserved, Option.bind_none]

/-- The line of such a report is the number in front of the path, if the path leads to no file. -/
lemma messageLine?_of_read (rejected : Script.read files path = .error reason) {line : UInt32} :
    messageLine? reason.text = some line ↔ files.isFile path = false ∧ Numbered path line := by
  obtain ⟨_, ⟨missing, rfl⟩ | ⟨file, error, known, rfl⟩⟩ := Script.read_eq_error rejected
  · rw [messageLine?_scriptNotFound]
    exact (and_iff_right missing).symm
  · have unlined : messageLine? (EngineError.io error.text).text = none := by
      obtain rfl | rfl := known
      · decide
      · decide
    rw [unlined, file]
    exact ⟨nofun, nofun⟩

/-- Loading a script that cannot be read changes nothing and returns a report that says why and
shows no code. It has a line and a stack if and only if the path leads to no file and begins with a
number and a colon: that number is the line. -/
theorem loadScript_of_rejected (rejected : Script.read files path = .error reason) :
    ∃ report events, host.loadScript files path = (.error report, host, events) ∧
      report.message = reason.text ∧
      report.codeContext = none ∧
      (∀ line, report.line = some line ↔ files.isFile path = false ∧ Numbered path line) ∧
      (report.stack = .unavailable ↔ report.line = none) ∧
      (report.line = none ∧ report.codeContext = none ∧ report.stack = .unavailable ↔
        ∀ line, files.isFile path = false → ¬ Numbered path line) := by
  obtain ⟨report, events, returned, message, line_eq, uncoded, stack_eq⟩ :=
    host.loadScript_of_read rejected
  have line_iff : ∀ line, report.line = some line ↔
      files.isFile path = false ∧ Numbered path line := by
    intro line
    rw [line_eq]
    exact messageLine?_of_read rejected
  have stack_iff : report.stack = .unavailable ↔ report.line = none := by
    rw [stack_eq]
    exact StackTrace.reconstruct_nil_eq_unavailable_iff
  refine ⟨report, events, returned, message, uncoded, line_iff, stack_iff, ?_⟩
  rw [stack_iff, Option.eq_none_iff_forall_ne_some]
  simp only [Ne, line_iff, not_and]
  exact ⟨fun unlined => unlined.1, fun unlined => ⟨unlined, uncoded, unlined⟩⟩

/-- A host without modules. -/
def bare : Host Empty :=
  create {} (.create 0)

/-- A number behind a name is no line. -/
theorem loadScript_of_rejected_labelled :
    Script.read {} "logs:5:main.lua" = .error (.scriptNotFound "logs:5:main.lua") ∧
      ∃ report events, bare.loadScript {} "logs:5:main.lua" = (.error report, bare, events) ∧
        report.message = "Script not found: logs:5:main.lua" ∧
        report.line = none ∧ report.codeContext = none ∧ report.stack = .unavailable := by
  have rejected : Script.read {} "logs:5:main.lua" =
      .error (.scriptNotFound "logs:5:main.lua") := rfl
  obtain ⟨report, events, returned, message, _, _, _, plain⟩ := loadScript_of_rejected bare rejected
  refine ⟨rejected, report, events, returned, message, plain.mpr ?_⟩
  rintro line _ ⟨numeral, rest, e, free, value⟩
  have cut := splitAtFirst?_append free rest
  rw [← e] at cut
  obtain rfl : numeral = "logs".toList := (Prod.mk.inj (Option.some.inj cut)).1.symm
  cases value

/-- A number in front of a name is a line, though no line of a script has failed. -/
theorem loadScript_numbered :
    Script.read {} "12:30.lua" = .error (.scriptNotFound "12:30.lua") ∧
      ∃ report events, bare.loadScript {} "12:30.lua" = (.error report, bare, events) ∧
        report.line = some 12 ∧ report.stack ≠ .unavailable := by
  have rejected : Script.read {} "12:30.lua" = .error (.scriptNotFound "12:30.lua") := rfl
  obtain ⟨report, events, returned, _, line_eq, _, stack_eq⟩ := bare.loadScript_of_read rejected
  have line : report.line = some 12 := by
    rw [line_eq]
    decide
  refine ⟨rejected, report, events, returned, line, ?_⟩
  rw [stack_eq, Ne, StackTrace.reconstruct_nil_eq_unavailable_iff, line]
  exact nofun

end Host

end LuaHost
