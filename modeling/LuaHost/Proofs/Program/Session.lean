import LuaHost.CommandLine
import LuaHost.Proofs.Host.Sequence

/-!
# The program as operations on a host

What the program does is a sequence of operations on a new host: it brings the host up, loads the
script, ticks it if it loads (`playing`), and stops it. Each part of a run of the program plays its
part of them (`Progress.Plays`): it leads to the same host, makes the same reports, and writes all
of them if the configuration asks for it. The loop is a number of ticks, which is told by the limit
(`ticks_eq`). Only the stop is played without writing after a script that does not load.
-/

namespace LuaHost

/-- The report that is written, if it is one. -/
def Output.report? : Output → Option Report
  | .report r => some r
  | .line _ => none

namespace CommandLine

/-- The reports that are written. -/
def written (output : List Output) : List Report :=
  output.filterMap Output.report?

/-- What a part and the next one write. -/
lemma written_append (output more : List Output) :
    written (output ++ more) = written output ++ written more :=
  List.filterMap_append

/-- Scripts write no reports. -/
lemma written_printed (events : List Event) : written (events.filterMap printed?) = [] := by
  rw [written, List.filterMap_filterMap, List.filterMap_eq_nil_iff]
  intro event _
  cases event with
  | printed _ => rfl
  | _ => rfl

/-- Reports are written as they are. -/
lemma written_map_report (reports : List Report) :
    written (reports.map Output.report) = reports := by
  rw [written, List.filterMap_map]
  exact congrFun List.filterMap_some_fun reports

variable {M : Type}

/-! ### Operations -/

/-- The operations up to the load of the script. -/
def opening (files : FileTree) (path : String) : List (HostOperation M) :=
  [.registerBuiltin, .start, .loadScript files path]

/-- A number of ticks, the first of them after some others. -/
def ticking (files : FileTree) (seconds : Nat → Float) (past count : Nat) :
    List (HostOperation M) :=
  (List.range' past count).map fun n => .tick files (seconds n)

/-- How many ticks there are after some others if an interrupt comes after `count` ticks: as many as
are left up to the limit, but at least one, for it is tested after each tick. -/
def tickCount (limit : Option UInt64) (past count : Nat) : Nat :=
  match limit with
  | some limit => min count (max (limit.toNat - past) 1)
  | none => count

/-- A host is done if there is a limit and the ticks have come to it. -/
lemma isDone_eq (host : Host M) :
    isDone host = host.config.host.maxTicks.any fun limit => limit.toNat ≤ host.ticks := by
  unfold isDone
  cases host.config.host.maxTicks with
  | none => rfl
  | some _ => rfl

/-- After an interrupt there are no ticks. -/
lemma tickCount_zero (limit : Option UInt64) (past : Nat) : tickCount limit past 0 = 0 := by
  cases limit with
  | none => rfl
  | some _ => exact Nat.zero_min _

/-- One tick, and then those that come after it, if it was not the last. -/
lemma tickCount_succ (limit : Option UInt64) (past count : Nat) :
    tickCount limit past (count + 1) =
      if limit.any (fun limit => limit.toNat ≤ past + 1) then 1
      else tickCount limit (past + 1) count + 1 := by
  cases limit with
  | none => rfl
  | some limit =>
    simp only [tickCount, Option.any_some, decide_eq_true_eq]
    split <;> omega

namespace Progress

/-- A part of a run writes its report only if it is shown and asked for. -/
lemma written_ofEvents (host : Host M) (events : List Event) (report : Option Report)
    (shown : Bool) :
    written (ofEvents host events report shown).output =
      if shown && host.config.diagnostics.json then report.toList else [] := by
  change written (events.filterMap printed? ++ _) = _
  rw [written_append, written_printed]
  split
  · exact written_map_report _
  · rfl

variable [HostModule M Engine]

/-- A part of a run does to a host what some operations do, and writes their reports if it is to
write any. -/
structure Plays (progress : Progress M) (host : Host M) (operations : List (HostOperation M)) :
    Prop where
  host_eq : progress.host = host.after operations
  reports_eq : progress.reports = host.reports operations
  written_eq : written progress.output =
    if host.config.diagnostics.json then progress.reports else []

variable {host : Host M}

/-- A part after another one plays the operations of both. -/
lemma Plays.after {past next : Progress M} {operations more : List (HostOperation M)}
    (plays : past.Plays host operations) (further : next.Plays past.host more) :
    (past.after next).Plays host (operations ++ more) := by
  obtain ⟨host_eq, reports_eq, written_eq⟩ := plays
  obtain ⟨host_eq', reports_eq', written_eq'⟩ := further
  rw [host_eq, Host.after_config] at written_eq'
  refine ⟨?_, ?_, ?_⟩
  · rw [Host.after_append, ← host_eq]
    exact host_eq'
  · rw [Host.reports_append, ← host_eq, ← reports_eq, ← reports_eq']
    rfl
  · change written (past.output ++ next.output) = _
    rw [written_append, written_eq, written_eq']
    cases host.config.diagnostics.json <;> rfl

/-- A part that shows what one operation leads to. -/
lemma ofEvents_plays (host : Host M) (operation : HostOperation M) :
    let step := host.perform operation
    (ofEvents step.host step.events step.report? true).Plays host [operation] := by
  intro step
  have same : step.host.config = host.config := (host.perform_follows operation).config_eq
  refine ⟨rfl, (List.append_nil _).symm, ?_⟩
  rw [written_ofEvents, same]
  rfl

end Progress

variable [HostModule M Engine]

/-- To bring up a host is to register the built-in modules and to start. -/
lemma launch_plays (config : HostConfig) (engine : Engine) :
    (launch config engine : Progress M).Plays (.create config engine)
      [.registerBuiltin, .start] := by
  refine ⟨rfl, rfl, ?_⟩
  exact (Progress.written_ofEvents (launch config engine : Progress M).host _ none true).trans
    ((ite_self _).trans (ite_self _).symm)

variable (host : Host M) (files : FileTree)

/-- To load the script is one operation. -/
lemma loadScript_plays (path : String) :
    (loadScript host files path).2.Plays host [.loadScript files path] :=
  Progress.ofEvents_plays host (.loadScript files path)

/-- A tick is one operation. -/
lemma tick_plays (seconds : Float) : (tick host files seconds).Plays host [.tick files seconds] :=
  Progress.ofEvents_plays host (.tick files seconds)

/-- It is counted, whether it fails or not. -/
lemma tick_ticks (seconds : Float) : (tick host files seconds).host.ticks = host.ticks + 1 :=
  (host.perform_follows (.tick files seconds)).ticks_eq

/-- It leaves the configuration alone. -/
lemma tick_config (seconds : Float) : (tick host files seconds).host.config = host.config :=
  (host.perform_follows (.tick files seconds)).config_eq

/-- A number of ticks, one after the other. -/
def tickTimes (files : FileTree) (seconds : Nat → Float) : Nat → Host M → Progress M
  | 0, host => { host, reports := [], output := [] }
  | count + 1, host =>
    let first := tick host files (seconds host.ticks)
    first.after (tickTimes files seconds count first.host)

omit [HostModule M Engine] in
/-- One tick, where several are asked for. -/
lemma tickTimes_one (seconds : Nat → Float) :
    tickTimes files seconds 1 host = tick host files (seconds host.ticks) := by
  simp only [tickTimes, Progress.after, List.append_nil]

/-- The loop is as many ticks as are left. -/
lemma ticks_eq (seconds : Nat → Float) (count : Nat) :
    ticks files seconds count host =
      tickTimes files seconds (tickCount host.config.host.maxTicks host.ticks count) host := by
  induction count generalizing host with
  | zero =>
    rw [tickCount_zero]
    rfl
  | succ count ih =>
    have next := ih (tick host files (seconds host.ticks)).host
    rw [tick_ticks, tick_config] at next
    rw [ticks, tickCount_succ, isDone_eq, tick_ticks, tick_config]
    split
    · rw [tickTimes_one]
    · rw [next]
      rfl

/-- Several ticks are as many operations. -/
lemma tickTimes_plays (seconds : Nat → Float) (count : Nat) :
    (tickTimes files seconds count host).Plays host (ticking files seconds host.ticks count) := by
  induction count generalizing host with
  | zero =>
    refine ⟨rfl, rfl, ?_⟩
    exact (ite_self _).symm
  | succ count ih =>
    have played := tick_plays host files (seconds host.ticks)
    have next := ih (tick host files (seconds host.ticks)).host
    rw [tick_ticks] at next
    exact played.after next

/-- The loop plays as many ticks as are left. -/
lemma ticks_plays (seconds : Nat → Float) (count : Nat) :
    (ticks files seconds count host).Plays host
    (ticking files seconds host.ticks
        (tickCount host.config.host.maxTicks host.ticks count)) := by
  rw [ticks_eq]
  exact tickTimes_plays host files seconds _

/-- What the stop of a host reports comes last, and is written if it is to be shown. -/
lemma Progress.Plays.stop {progress : Progress M} {host : Host M}
    {operations : List (HostOperation M)} (plays : progress.Plays host operations) (shown : Bool) :
    let last := ((host.after operations).perform (.stop files)).report?.toList
    let stopped := progress.after (CommandLine.stop progress.host files shown)
    stopped.reports = progress.reports ++ last ∧
      written stopped.output =
        if host.config.diagnostics.json then progress.reports ++ (if shown then last else [])
        else [] := by
  intro last stopped
  have reports_eq : (CommandLine.stop progress.host files shown).reports = last := by
    rw [plays.host_eq]
    rfl
  have same : (progress.host.perform (.stop files)).host.config = host.config := by
    rw [(progress.host.perform_follows _).config_eq, plays.host_eq, Host.after_config]
  have output_eq : written (CommandLine.stop progress.host files shown).output =
      if shown && host.config.diagnostics.json then last else [] := by
    rw [← same, ← reports_eq]
    exact written_ofEvents (progress.host.perform (.stop files)).host _ _ shown
  constructor
  · exact congrArg (progress.reports ++ ·) reports_eq
  · change written (progress.output ++ _) = _
    rw [written_append, plays.written_eq, output_eq]
    cases host.config.diagnostics.json with
    | false => rw [Bool.and_false]; rfl
    | true => rw [Bool.and_true]; rfl

/-! ### Runs -/

section Runs

variable (M) (config : HostConfig) (engine : Engine) (path : String) (seconds : Nat → Float)
  (count : Nat)

/-- The report about the script if it does not load into a new host. -/
def loadFailure? : Option Report :=
  ((Host.create config engine : Host M).after [.registerBuiltin, .start]).perform
    (.loadScript files path) |>.report?

/-- The operations until the host is stopped: ticks come after a script that loads. -/
def playing : List (HostOperation M) :=
  match loadFailure? M files config engine path with
  | some _ => opening files path
  | none => opening files path ++ ticking files seconds 0 (tickCount config.host.maxTicks 0 count)

/-- What happens until the host is stopped. -/
def played : Progress M :=
  let launched : Progress M := launch config engine
  let (failure, loaded) := loadScript launched.host files path
  let past := launched.after loaded
  match failure with
  | some _ => past
  | none => past.after (ticks files seconds count past.host)

/-- What happens until the script is loaded. -/
def opened : Progress M :=
  let launched : Progress M := launch config engine
  launched.after (loadScript launched.host files path).2

/-- Until the script is loaded, three operations are played. -/
lemma opened_plays :
    (opened M files config engine path).Plays (.create config engine) (opening files path) :=
  (launch_plays config engine).after (loadScript_plays _ files path)

/-- All that happens until the host is stopped is written. -/
lemma played_plays :
    (played M files config engine path seconds count).Plays (.create config engine)
      (playing M files config engine path seconds count) := by
  have opened := opened_plays M files config engine path
  change Progress.Plays
    (match loadFailure? M files config engine path with
      | some _ => _
      | none => _) _ _
  unfold playing
  cases loadFailure? M files config engine path with
  | some _ => exact opened
  | none =>
    have ticked := ticks_plays
      ((Host.create config engine : Host M).after (opening files path)) files seconds count
    rw [Host.after_config, Host.after_ticks, ← opened.host_eq] at ticked
    exact opened.after ticked

variable {files path} {configHome : Option String} {arguments : List String}
  {read : String → Option HostConfig} {files' : FileTree} {config}

/-- A run goes on until the host is stopped. What that reports is shown after a script that
loads. -/
lemma run_eq (configured : configure files configHome read = (config, files')) :
    let path := scriptPath config arguments
    let past := played M files' config engine path seconds count
    let progress :=
      past.after (stop past.host files' (loadFailure? M files' config engine path).isNone)
    let run := run M files configHome arguments engine seconds count read
    run.reports = progress.reports ∧ run.output = progress.output := by
  have failed :
      (loadScript (launch config engine : Progress M).host files' (scriptPath config arguments)).1 =
        loadFailure? M files' config engine (scriptPath config arguments) := rfl
  unfold run played
  dsimp only
  rw [configured, ← failed]
  dsimp only
  generalize loadScript (launch config engine : Progress M).host files'
    (scriptPath config arguments) = loading
  obtain ⟨_ | report, loaded⟩ := loading
  · exact ⟨rfl, rfl⟩
  · exact ⟨rfl, rfl⟩

/-- The reports of a run are those that the host makes. -/
lemma run_reports (configured : configure files configHome read = (config, files')) :
    (run M files configHome arguments engine seconds count read).reports =
    (Host.create config engine : Host M).reports
        (playing M files' config engine (scriptPath config arguments) seconds count ++
          [.stop files']) := by
  obtain ⟨reports_eq, _⟩ := run_eq M engine seconds count configured
  have plays := played_plays M files' config engine (scriptPath config arguments) seconds count
  rw [reports_eq, (plays.stop files' _).1, plays.reports_eq, Host.reports_append]
  exact congrArg _ (List.append_nil _).symm

end Runs

end CommandLine

end LuaHost
