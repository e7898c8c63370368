import LuaHost.Data.Json
import LuaHost.Report.Basic

/-!
# Reports as JSON

The machine-readable form of a report, and reading it back.
-/

namespace LuaHost

namespace Data

/-- A line number. -/
def ofWord (n : UInt32) : Data := .integer n.toNat

/-- A 32-bit number. -/
def word? : Data → Option UInt32
  | .integer n => if 0 ≤ n && n < UInt32.size then some (UInt32.ofNat n.toNat) else none
  | _ => none

/-- A text. -/
def string? : Data → Option String
  | .string s => some s
  | _ => none

/-- A truth value. -/
def boolean? : Data → Option Bool
  | .boolean b => some b
  | _ => none

/-- The items of an array. -/
def items? : Data → Option (List Data)
  | .array items => some items
  | _ => none

/-- An optional value: nothing for `null`. -/
def optional? {α : Type} (read : Data → Option α) : Data → Option (Option α)
  | .null => some none
  | data => (read data).map some

/-- The value of a field that has to be there. -/
def required? {α : Type} (data : Data) (name : String) (read : Data → Option α) : Option α :=
  (data.field? name).bind read

/-- The value of a field that may be missing. -/
def maybe? {α : Type} (data : Data) (name : String) (read : Data → Option α) : Option (Option α) :=
  match data.field? name with
  | none => some none
  | some value => value.optional? read

end Data

/-- A source line as a document. -/
def ContextLine.toData (line : ContextLine) : Data :=
  .object [("number", .ofWord line.number), ("text", .string line.text),
    ("is_error", .boolean line.isError)]

/-- The source line in a document. -/
def ContextLine.ofData? (data : Data) : Option ContextLine := do
  let number ← data.required? "number" Data.word?
  let text ← data.required? "text" Data.string?
  let isError ← data.required? "is_error" Data.boolean?
  some { number, text, isError }

/-- Code context as a document. -/
def CodeContext.toData (context : CodeContext) : Data :=
  .object [("lines", .array (context.lines.map ContextLine.toData))]

/-- The code context in a document. -/
def CodeContext.ofData? (data : Data) : Option CodeContext := do
  let lines ← data.required? "lines" Data.items?
  let lines ← lines.mapM ContextLine.ofData?
  some { lines }

/-- A shown frame as a document. -/
def ShownFrame.toData (frame : ShownFrame) : Data :=
  .object [("function", .string frame.function), ("location", .string frame.location),
    ("is_error_site", .boolean frame.isErrorSite)]

/-- The shown frame in a document. -/
def ShownFrame.ofData? (data : Data) : Option ShownFrame := do
  let function ← data.required? "function" Data.string?
  let location ← data.required? "location" Data.string?
  let isErrorSite ← data.required? "is_error_site" Data.boolean?
  some { function, location, isErrorSite }

/-- The stack section as a document: its kind, and its frames if there are any. -/
def StackTrace.toData : StackTrace → Data
  | .captured frames =>
    .object [("kind", .string "captured"), ("frames", .array (frames.map ShownFrame.toData))]
  | .synthesized frame => .object [("kind", .string "synthesized"), ("frames", frame.toData)]
  | .unavailable => .object [("kind", .string "unavailable")]

/-- The stack section in a document. -/
def StackTrace.ofData? (data : Data) : Option StackTrace := do
  let kind ← data.required? "kind" Data.string?
  if kind == "captured" then
    let frames ← data.required? "frames" Data.items?
    let frames ← frames.mapM ShownFrame.ofData?
    some (.captured frames)
  else if kind == "synthesized" then
    let frame ← data.required? "frames" ShownFrame.ofData?
    some (.synthesized frame)
  else if kind == "unavailable" then some .unavailable
  else none

/-- An identifier as a document. -/
def Identifier.toData (identifier : Identifier) : Data :=
  .object [("kind", .string identifier.kind), ("name", .string identifier.name)]

/-- The identifier in a document. -/
def Identifier.ofData? (data : Data) : Option Identifier := do
  let kind ← data.required? "kind" Data.string?
  let name ← data.required? "name" Data.string?
  some { kind, name }

/-- A block of hints as a document. -/
def HintBlock.toData (block : HintBlock) : Data :=
  .object [("rule", .string block.rule), ("hints", .array (block.hints.map Data.string)),
    ("identifier", .ofOption (block.identifier.map Identifier.toData))]

/-- The block of hints in a document. -/
def HintBlock.ofData? (data : Data) : Option HintBlock := do
  let rule ← data.required? "rule" Data.string?
  let hints ← data.required? "hints" Data.items?
  let hints ← hints.mapM Data.string?
  let identifier ← data.maybe? "identifier" Identifier.ofData?
  some { rule, hints, identifier }

namespace Report

/-- A report as a document. -/
def toData (report : Report) : Data :=
  .object [
    ("script", .string report.script),
    ("path", .string report.path),
    ("context", .string report.context),
    ("message", .string report.message),
    ("line", .ofOption (report.line.map Data.ofWord)),
    ("code_context", .ofOption (report.codeContext.map CodeContext.toData)),
    ("stack", report.stack.toData),
    ("hints", .array (report.hints.map HintBlock.toData))]

/-- The report in a document. -/
def ofData? (data : Data) : Option Report := do
  let script ← data.required? "script" Data.string?
  let path ← data.required? "path" Data.string?
  let context ← data.required? "context" Data.string?
  let message ← data.required? "message" Data.string?
  let line ← data.maybe? "line" Data.word?
  let codeContext ← data.maybe? "code_context" CodeContext.ofData?
  let stack ← data.required? "stack" StackTrace.ofData?
  let hints ← data.required? "hints" Data.items?
  let hints ← hints.mapM HintBlock.ofData?
  some { script, path, context, message, line, codeContext, stack, hints }

/-- The JSON text of a report. -/
def toJson (report : Report) : String :=
  Json.prettyText report.toData

end Report

end LuaHost
