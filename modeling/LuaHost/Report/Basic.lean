import LuaHost.Report.Context
import LuaHost.Report.Hint
import LuaHost.Report.Stack

/-!
# Error reports

One report describes one script failure. Its text is a sequence of rows: header, message, line, the
code around the line, the stack, and a block for each group of hints.
-/

namespace LuaHost

/-- A report on a script failure. -/
structure Report where
  script : String
  path : String
  /-- What the host was doing. -/
  context : String
  message : String
  line : Option UInt32
  codeContext : Option CodeContext
  stack : StackTrace
  hints : List HintBlock
  deriving DecidableEq, Repr

namespace Report

/-- The first row: the script, its path and what the host was doing. -/
def header (report : Report) : String :=
  let subject := "Script error in '" ++ report.script ++ "' (" ++ report.path ++ ")"
  if report.context.isEmpty then subject else subject ++ " during " ++ report.context

/-- A text filled up with blanks in front. -/
def alignRight (width : Nat) (cs : List Char) : List Char :=
  List.replicate (width - cs.length) ' ' ++ cs

/-- Marks the failing line. -/
def errorMarker : String := ">>>"

/-- The row of a source line, with line numbers of a given width. -/
def lineRow (width : Nat) (line : ContextLine) : String :=
  let marker := if line.isError then errorMarker.toList else []
  String.ofList
    (' ' :: ' ' :: alignRight 3 marker ++ ' ' :: alignRight width (Text.digits line.number.toNat) ++
      [' ', '|', ' ']) ++ line.text

/-- The width of the line numbers: that of the last one. -/
def numberWidth (context : CodeContext) : Nat :=
  match context.lines.getLast? with
  | some line => (Text.digits line.number.toNat).length
  | none => 1

/-- The rows of the code around the failing line. -/
def contextRows : Option CodeContext → List String
  | some context => "Code context:" :: context.lines.map (lineRow (numberWidth context))
  | none => []

/-- The row of a frame. -/
def frameRow (frame : ShownFrame) : String :=
  if frame.isErrorSite then "  -> " ++ frame.text ++ "  <- error site" else "     " ++ frame.text

/-- The rows of the stack. -/
def stackRows (stack : StackTrace) : List String :=
  "Stack trace:" ::
    match stack with
    | .unavailable => ["  stack trace not available"]
    | trace => trace.frames.map frameRow

/-- The rows of one block of hints. -/
def hintRows (block : HintBlock) : List String :=
  ("Hint (" ++ block.rule ++ "):") :: block.hints.map fun hint => "  - " ++ hint

/-- The row that names the failing line. -/
def lineNumberRow (line : Option UInt32) : String :=
  match line with
  | some line => "  line: " ++ String.ofList (Text.digits line.toNat)
  | none => "  line: unknown"

/-- All rows of a report. -/
def rows (report : Report) : List String :=
  [report.header, "  message: " ++ report.message, lineNumberRow report.line] ++
    contextRows report.codeContext ++ stackRows report.stack ++ report.hints.flatMap hintRows

/-- The text of a report; every row ends its line. -/
def text (report : Report) : String :=
  String.join (report.rows.map fun row => row ++ "\n")

end Report

end LuaHost
