import LuaHost.Proofs.Host.Run

/-!
# Sequences of operations

Operations one after the other: the host that they lead to (`after`) and the reports that they
return (`reports`). Apart from registry and engine, an operation does little to a host, which is
said once (`perform_follows`): the configuration stays, ticks are counted, and a script is only put
in the place of another one together with diagnostics that have the window of the configuration.
-/

namespace LuaHost

variable {M : Type}

/-- An operation is a tick. -/
def HostOperation.isTick : HostOperation M → Bool
  | .tick .. => true
  | _ => false

namespace Host

/-- Failures of the script are reported with the window of the configuration. -/
def Framed (host : Host M) : Prop :=
  ∀ loaded, host.script = some loaded → loaded.diagnostics.window = host.config.contextWindow

/-- A host is another one after a number of ticks, but for its registry and engine, and for a script
that it may have loaded. -/
inductive Follows (host : Host M) (ticks : Nat) : Host M → Prop where
  | same (registry) :
    Follows host ticks { host with registry, ticks := host.ticks + ticks }
  | loaded (registry) {script : LoadedScript} :
    script.diagnostics.window = host.config.contextWindow →
    Follows host ticks { host with registry, script := some script, ticks := host.ticks + ticks }

namespace Follows

variable {host next : Host M} {ticks : Nat}

/-- The configuration stays. -/
lemma config_eq (follows : host.Follows ticks next) : next.config = host.config := by
  cases follows <;> rfl

/-- The ticks are counted on. -/
lemma ticks_eq (follows : host.Follows ticks next) : next.ticks = host.ticks + ticks := by
  cases follows <;> rfl

/-- The window stays that of the configuration, whatever script is loaded. -/
lemma framed (follows : host.Follows ticks next) (framed : host.Framed) : next.Framed := by
  cases follows with
  | same => exact framed
  | loaded _ window =>
    rintro _ ⟨⟩
    exact window

end Follows

/-- To load a script puts it in the place of the old one, or changes nothing at all. -/
lemma loadScript_follows (host : Host M) (files : FileTree) (path : String) :
    host.Follows 0 (host.loadScript files path).2.1 := by
  unfold loadScript
  split
  case h_1 => exact .same _
  case h_2 source _ =>
    dsimp only
    split
    · exact .loaded _ rfl
    · exact .loaded _ rfl

/-- To call a hook of the script changes the engine alone. -/
lemma callHook_follows (host : Host M) (files : FileTree) (name : String)
    (arguments : List Lua.Value) :
    host.Follows 0 (host.callHook files name arguments).2.1 := by
  obtain ⟨engine, e⟩ := host.callHook_host files name arguments
  rw [e]
  exact .same _

variable [HostModule M Engine]

/-- Every operation is followed by such a host, and one of them is a tick. -/
lemma perform_follows (host : Host M) (operation : HostOperation M) :
    host.Follows operation.isTick.toNat (host.perform operation).host := by
  cases operation with
  | registerModule module => exact .same _
  | registerBuiltin =>
    change host.Follows 0 host.registerBuiltin.1
    unfold registerBuiltin
    split
    · exact .same _
    · exact .same _
  | start => exact .same _
  | loadScript files path => exact host.loadScript_follows files path
  | tick files seconds =>
    -- The hook is called on a host that has counted the tick already.
    obtain ⟨engine, e⟩ :=
      callHook_host { host with ticks := host.ticks + 1 } files tickHook [.number (.float seconds)]
    change host.Follows 1 (callHook { host with ticks := host.ticks + 1 } files tickHook _).2.1
    rw [e]
    exact .same _
  | callHook files name arguments => exact host.callHook_follows files name arguments
  | stop files =>
    obtain ⟨engine, e⟩ := host.callHook_host files shutdownHook []
    change host.Follows 0 { (host.callHook files shutdownHook []).2.1 with registry := _ }
    rw [e]
    exact .same _
  | manage operation => exact .same _

/-! ### Sequences -/

/-- The host after some operations. -/
def after (host : Host M) (operations : List (HostOperation M)) : Host M :=
  operations.foldl (fun host operation => (host.perform operation).host) host

/-- The reports that some operations return. -/
def reports (host : Host M) : List (HostOperation M) → List Report
  | [] => []
  | operation :: rest =>
    (host.perform operation).report?.toList ++ (host.perform operation).host.reports rest

variable (host : Host M) (operations more : List (HostOperation M))

/-- A run is operations on a new host. -/
lemma run_eq_after (config : HostConfig) (engine : Engine) :
    (run config engine operations : Host M) = (create config engine).after operations := rfl

/-- Some operations, and then more. -/
lemma after_append : host.after (operations ++ more) = (host.after operations).after more :=
  List.foldl_append

/-- The reports of more operations come after those of some. -/
lemma reports_append :
    host.reports (operations ++ more) =
      host.reports operations ++ (host.after operations).reports more := by
  induction operations generalizing host with
  | nil => rfl
  | cons operation rest ih =>
    rw [List.cons_append, reports, reports, ih, List.append_assoc]
    rfl

/-- No operation changes the configuration. -/
lemma after_config : (host.after operations).config = host.config := by
  induction operations generalizing host with
  | nil => rfl
  | cons operation rest ih => exact (ih _).trans (host.perform_follows operation).config_eq

/-- The ticks are those among the operations. -/
lemma after_ticks :
    (host.after operations).ticks = host.ticks + operations.countP HostOperation.isTick := by
  induction operations generalizing host with
  | nil => rfl
  | cons operation rest ih =>
    have counted := (host.perform_follows operation).ticks_eq
    change ((host.perform operation).host.after rest).ticks = _
    rw [ih, counted, List.countP_cons]
    cases operation.isTick with
    | false => rfl
    | true => exact Nat.add_right_comm ..

/-- Whatever is done, failures are reported with the window of the configuration. -/
lemma Framed.after {host : Host M} (framed : host.Framed) : (host.after operations).Framed := by
  induction operations generalizing host with
  | nil => exact framed
  | cons operation rest ih => exact ih ((host.perform_follows operation).framed framed)

end Host

end LuaHost
