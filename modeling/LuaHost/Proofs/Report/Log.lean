import LuaHost.Proofs.Lua.Speech
import LuaHost.Proofs.Registry.FailureLog
import LuaHost.Report.Diagnostics

/-!
# The log of reports

A report is logged once (`LoggedOnce`). Making one logs no errors (`diagnose_quiet`), a registry
logs errors of another text (`Reported.causedIn`), and whatever else is logged in the words of the
report is logged by a script or by a hook of a module.
-/

namespace LuaHost

/-- An event logs an error with a given text. -/
def Event.Tells (text : String) (event : Event) : Prop :=
  ∃ fields, event = log .error text fields

/-- What is logged at another level is no error. -/
lemma not_tells_log {level : Level} (quiet : level ≠ .error) (text message : String)
    (fields : List (String × String)) : ¬ (log level message fields).Tells text := by
  rintro ⟨_, e⟩
  cases e
  exact quiet rfl

/-- A hook causes an event in the course of what a registry does. -/
def Event.CausedIn (trace : List RegistryEvent) (event : Event) : Prop :=
  ∃ call caused, .called call caused ∈ trace ∧ event ∈ caused

namespace Report

/-- Among some events, one logs the report as an error in its own text. Any other that logs an error
in this text comes from a script, or from a hook of a module in the course of what the registry
does. -/
def LoggedOnce (report : Report) (trace : List RegistryEvent) (events : List Event) : Prop :=
  ∃ before after, events = before ++ Diagnostics.reportEvent report :: after ∧
    ∀ event ∈ before ++ after, event.Tells report.text → event.Spoken ∨ event.CausedIn trace

/-- It stays the only one if later events tell nothing of it. -/
lemma LoggedOnce.append {report : Report} {trace events more} (h : report.LoggedOnce [] events)
    (others : ∀ event ∈ more, event.Tells report.text → event.Spoken ∨ event.CausedIn trace) :
    report.LoggedOnce trace (events ++ more) := by
  obtain ⟨before, after, rfl, spoken⟩ := h
  refine ⟨before, after ++ more, by rw [List.append_assoc, List.cons_append], ?_⟩
  intro event mem tells
  rw [← List.append_assoc] at mem
  obtain old | new := List.mem_append.mp mem
  · obtain spoken | ⟨_, _, called, _⟩ := spoken event old tells
    · exact .inl spoken
    · cases called
  · exact others event new tells

/-- The text of a report starts with its header. -/
lemma head?_text (report : Report) : report.text.toList.head? = some 'S' := by
  have first : report.header.toList.head? = some 'S' := by
    unfold header
    dsimp only
    split <;> simp
  obtain ⟨more, e⟩ : ∃ more, report.rows = report.header :: more := ⟨_, rfl⟩
  rw [text, e, List.map_cons, String.join_cons, String.append_assoc, String.toList_append,
    List.head?_append, first, Option.some_or]

/-- So it is not the text in which a registry logs the failure of a hook. -/
lemma text_ne (report : Report) (failure : HookFailure) :
    report.text ≠ failure.logEntry.message := by
  have other : failure.logEntry.message.toList.head? = some 'M' := by
    simp [HookFailure.logEntry]
  intro same
  rw [← same, head?_text] at other
  exact absurd other (by decide)

end Report

/-- What is logged in the text of a report while a registry works is caused by hooks. -/
lemma Reported.causedIn {trace failures} (reported : Reported trace failures) {report : Report}
    {event : Event} (mem : event ∈ trace.flatMap RegistryEvent.events)
    (tells : event.Tells report.text) : event.CausedIn trace := by
  obtain ⟨source, known, here⟩ := List.mem_flatMap.mp mem
  cases source with
  | called call caused => exact ⟨call, caused, known, here⟩
  | logged entry =>
    obtain ⟨fields, rfl⟩ := tells
    obtain rfl : LogEntry.mk .error report.text fields = entry :=
      Event.logged.inj (List.mem_singleton.mp here)
    -- The registry logs failures of hooks as errors, and nothing else.
    have error : LogEntry.mk .error report.text fields ∈ RegistryEvent.errors trace :=
      List.mem_filterMap.mpr ⟨_, known, rfl⟩
    rw [reported.errors_eq] at error
    obtain ⟨failure, _, e⟩ := List.mem_map.mp error
    exact absurd (congrArg LogEntry.message e).symm (report.text_ne failure)

/-- A script that cannot be shown is a warning at most. -/
lemma SourceProvider.read_quiet (provider : SourceProvider) (files : FileTree)
    (path text : String) :
    ∀ event ∈ (provider.read files path).2, ¬ event.Tells text := by
  intro event mem
  unfold read at mem
  split at mem
  case h_1 =>
    split at mem
    case h_1 => cases mem
    case h_2 =>
      rw [List.mem_singleton.mp mem]
      exact not_tells_log (by decide) _ _ _
  case h_2 => cases mem

namespace Diagnostics

variable (diagnostics : Diagnostics) (files : FileTree) (failure : Failure) (context : String)

/-- No errors are logged while a report is made. -/
lemma diagnose_quiet (text : String) :
    ∀ event ∈ (diagnostics.diagnose files failure context).2, ¬ event.Tells text := by
  intro event mem
  obtain source | hint := List.mem_append.mp mem
  · change event ∈ (diagnostics.codeContext files (messageLine? failure.message)).2 at source
    unfold codeContext at source
    split at source
    case h_1 => cases source
    case h_2 => exact diagnostics.provider.read_quiet files diagnostics.path text event source
  · obtain ⟨block, _, made⟩ := List.mem_filterMap.mp hint
    obtain ⟨_, _, rfl⟩ := Option.map_eq_some_iff.mp made
    exact not_tells_log (by decide) _ _ _

/-- A report that is made after what scripts said is logged once. -/
lemma report_loggedOnce {spoken : List Event}
    (said : ∀ event ∈ spoken, ∀ text, event.Tells text → event.Spoken) :
    let made := diagnostics.report files failure context
    made.1.LoggedOnce [] (spoken ++ made.2) := by
  intro made
  refine ⟨spoken ++ (diagnostics.diagnose files failure context).2, [],
    by rw [List.append_assoc]; rfl, ?_⟩
  intro event mem tells
  rw [List.append_nil] at mem
  obtain by_script | quiet := List.mem_append.mp mem
  · exact .inl (said event by_script _ tells)
  · exact absurd tells (diagnose_quiet diagnostics files failure context _ event quiet)

end Diagnostics

end LuaHost
