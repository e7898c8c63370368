import LuaHost.Host
import LuaHost.Proofs.Registry.States
import LuaHost.Proofs.Script

/-!
# Runs of a host

What can be done to a host, in any order, while the files change as they like. What an operation
does to the host is said once (`loadScript_of_error`, `loadScript_of_text`, `callHook_host`); from
it follows what every operation keeps (`Sound.perform`), and so what holds after every run
(`run_sound`): the loaded script is the last one that could be read, and the states of the modules
are consistent.
-/

namespace LuaHost

/-- Something done to a host, with the files as they are then. Whoever has a host can also do to its
registry what can be done to one. -/
inductive HostOperation (M : Type) where
  | registerModule (module : M)
  | registerBuiltin
  | start
  | loadScript (files : FileTree) (path : String)
  | tick (files : FileTree) (seconds : Float)
  | callHook (files : FileTree) (name : String) (arguments : List Lua.Value)
  | stop (files : FileTree)
  | manage (operation : Operation (CoreModule ⊕ M) Engine)

/-- What an operation leads to: the host, the report that it returns, if any, and the events. -/
structure HostStep (M : Type) where
  host : Host M
  report? : Option Report := none
  events : List Event

variable {M : Type}

namespace HostOperation

/-- The path of the script that an operation loads, if the file there can be read as text. -/
def readPath? : HostOperation M → Option String
  | .loadScript files path =>
    match files.readText path with
    | .ok _ => some path
    | .error _ => none
  | _ => none

/-- A script that can be read is read at its path. -/
lemma readPath?_of_text {files : FileTree} {path code : String}
    (text : files.readText path = .ok code) :
    (loadScript (M := M) files path).readPath? = some path := by
  simp only [readPath?, text]

/-- One that cannot be read is read nowhere. -/
lemma readPath?_of_error {files : FileTree} {path : String} {error : FileError}
    (unreadable : files.readText path = .error error) :
    (loadScript (M := M) files path).readPath? = none := by
  simp only [readPath?, unreadable]

/-- The hook of the loaded script that an operation calls. -/
def hook? : HostOperation M → Option String
  | .tick .. => some Host.tickHook
  | .callHook _ name _ => some name
  | .stop _ => some Host.shutdownHook
  | _ => none

/-- The path of the last script that could be read. -/
def lastRead? (operations : List (HostOperation M)) : Option String :=
  (operations.filterMap readPath?).getLast?

/-- The last operation counts, if it reads a script. -/
lemma lastRead?_concat (operations : List (HostOperation M)) (operation : HostOperation M) :
    lastRead? (operations ++ [operation]) = operation.readPath?.or (lastRead? operations) := by
  rw [lastRead?, List.filterMap_append, List.getLast?_append]
  cases e : operation.readPath? with
  | none =>
    rw [List.filterMap_cons_none e, List.filterMap_nil, List.getLast?_nil]
    rfl
  | some _ =>
    rw [List.filterMap_cons_some e, List.filterMap_nil, List.getLast?_singleton]
    rfl

end HostOperation

/-- The script was read at a path, and its failures are reported under its own name and path. -/
structure LoadedScript.ReadAt (loaded : LoadedScript) (path : String) : Prop where
  path_eq : loaded.source.path = path
  name_eq : Path.fileName? path = some loaded.source.name
  reported_name : loaded.diagnostics.script = loaded.source.name
  reported_path : loaded.diagnostics.path = loaded.source.path

namespace Host

/-! ### What happens to the host -/

variable {files : FileTree} {path : String}

/-- A script that cannot be read is reported, and nothing else happens to the host. -/
lemma loadScript_of_error (host : Host M) {error : FileError}
    (unreadable : files.readText path = .error error) :
    ∃ report events, host.loadScript files path = (.error report, host, events) := by
  obtain ⟨reason, read⟩ := Script.read_of_error unreadable
  simp only [loadScript, read]
  exact ⟨_, _, rfl⟩

/-- A script that can be read is the loaded one, whether it fails or not. -/
lemma loadScript_of_text (host : Host M) {code : String} (text : files.readText path = .ok code) :
    ∃ loaded engine, loaded.ReadAt path ∧
      (host.loadScript files path).2.1 = { host.withEngine engine with script := some loaded } := by
  obtain ⟨name, e, read⟩ := Script.read_of_text text
  let source : Script := { name, path, code }
  let diagnostics := { Diagnostics.forScript source with window := host.config.contextWindow }
  refine ⟨{ source, diagnostics }, (host.engine.load source).engine, ⟨rfl, e, rfl, rfl⟩, ?_⟩
  simp only [loadScript, read]
  split <;> rfl

/-- To call a hook changes the engine only. -/
lemma callHook_host (host : Host M) (files : FileTree) (name : String)
    (arguments : List Lua.Value) :
    ∃ engine, (host.callHook files name arguments).2.1 = host.withEngine engine := by
  unfold callHook
  split
  case h_1 => exact ⟨host.engine, rfl⟩
  case h_2 loaded _ =>
    refine ⟨(host.engine.callHook name arguments).engine, ?_⟩
    dsimp only
    split <;> rfl

/-- Without a script there is no hook to call. -/
lemma callHook_of_none {host : Host M} (unloaded : host.script = none) (files : FileTree)
    (name : String) (arguments : List Lua.Value) :
    host.callHook files name arguments = (.ok false, host, []) := by
  rw [callHook, unloaded]

/-! ### What operations keep -/

/-- The states of the modules are consistent, and the loaded script was read at a given path, or
there is neither script nor path. -/
structure Sound (host : Host M) (last : Option String) : Prop where
  consistent : host.registry.Consistent
  loaded : Option.Rel LoadedScript.ReadAt host.script last

namespace Sound

variable {host : Host M} {last : Option String}

/-- The engine does not matter to this. -/
lemma withEngine (sound : host.Sound last) (engine : Engine) :
    (host.withEngine engine).Sound last :=
  ⟨sound.consistent, sound.loaded⟩

/-- Nor do scripts that cannot be read; one that can be read is the last one. -/
lemma loadScript (sound : host.Sound last) (files : FileTree) (path : String) :
    (host.loadScript files path).2.1.Sound
      ((HostOperation.loadScript (M := M) files path).readPath?.or last) := by
  cases text : files.readText path with
  | ok _ =>
    obtain ⟨loaded, engine, read, e⟩ := host.loadScript_of_text text
    rw [e, HostOperation.readPath?_of_text text]
    exact ⟨sound.consistent, .some read⟩
  | error _ =>
    obtain ⟨_, _, e⟩ := host.loadScript_of_error text
    rw [e, HostOperation.readPath?_of_error text]
    exact sound

/-- To call a hook of the script keeps this. -/
lemma callHook (sound : host.Sound last) (files : FileTree) (name : String)
    (arguments : List Lua.Value) :
    (host.callHook files name arguments).2.1.Sound last := by
  obtain ⟨engine, e⟩ := host.callHook_host files name arguments
  rw [e]
  exact sound.withEngine engine

end Sound

/-! ### Runs -/

variable [HostModule M Engine]

/-- One operation. -/
def perform (host : Host M) : HostOperation M → HostStep M
  | .registerModule module =>
    let (_, host, events) := host.registerModule module
    { host, events }
  | .registerBuiltin =>
    let (host, events) := host.registerBuiltin
    { host, events }
  | .start =>
    let (host, events) := host.start
    { host, events }
  | .loadScript files path =>
    let (result, host, events) := host.loadScript files path
    { host, report? := report? result, events }
  | .tick files seconds =>
    let (report?, host, events) := host.tick files seconds
    { host, report?, events }
  | .callHook files name arguments =>
    let (result, host, events) := host.callHook files name arguments
    { host, report? := report? result, events }
  | .stop files =>
    let (report?, host, events) := host.stop files
    { host, report?, events }
  | .manage operation =>
    let after := host.registry.perform operation
    { host := { host with registry := after.registry }, events := after.trace }

/-- A new host under some operations. -/
def run (config : HostConfig) (engine : Engine) (operations : List (HostOperation M)) : Host M :=
  operations.foldl (fun host operation => (host.perform operation).host) (create config engine)

/-- A run, and one more operation. -/
lemma run_concat (config : HostConfig) (engine : Engine) (operations : List (HostOperation M))
    (operation : HostOperation M) :
    run config engine (operations ++ [operation]) =
      ((run config engine operations).perform operation).host := by
  rw [run, List.foldl_append]
  rfl

/-- Every operation keeps this, for the last path that could be read. -/
lemma Sound.perform {host : Host M} {last : Option String} (sound : host.Sound last)
    (operation : HostOperation M) :
    (host.perform operation).host.Sound (operation.readPath?.or last) := by
  cases operation with
  | registerModule module => exact ⟨sound.consistent.register (.inr module), sound.loaded⟩
  | registerBuiltin =>
    change host.registerBuiltin.1.Sound last
    unfold registerBuiltin
    split
    · exact ⟨sound.consistent.register (.inl { version }), sound.loaded⟩
    · exact sound
  | start => exact ⟨sound.consistent.initializeAll, sound.loaded⟩
  | loadScript files path => exact sound.loadScript files path
  | tick files seconds =>
    have ticked : Sound { host with ticks := host.ticks + 1 } last :=
      ⟨sound.consistent, sound.loaded⟩
    exact ticked.callHook files tickHook _
  | callHook files name arguments => exact sound.callHook files name arguments
  | stop files =>
    have hooked := sound.callHook files shutdownHook []
    exact ⟨hooked.consistent.shutdownAll, hooked.loaded⟩
  | manage operation => exact ⟨sound.consistent.perform operation, sound.loaded⟩

/-- After every run the loaded script is the last one that could be read. -/
lemma run_sound (config : HostConfig) (engine : Engine) (operations : List (HostOperation M)) :
    (run config engine operations).Sound (HostOperation.lastRead? operations) := by
  induction operations using List.reverseRecOn with
  | nil => exact ⟨nofun, .none⟩
  | append_singleton operations operation ih =>
    rw [run_concat, HostOperation.lastRead?_concat]
    exact ih.perform operation

end Host

end LuaHost
