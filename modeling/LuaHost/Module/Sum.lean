import LuaHost.Module.Basic

/-!
# Sums of modules

Modules of two types side by side: what is a module of either type is one of their sum. Of no type
at all there are no modules.
-/

namespace LuaHost

/-- The result of a hook, with the module seen as one of another type. -/
def HookResult.map {M N E : Type} (f : M → N) (result : HookResult M E) : HookResult N E :=
  { outcome := result.outcome, module := f result.module, shared := result.shared
    events := result.events }

/-- Modules of two types together. -/
instance {M N E : Type} [HostModule M E] [HostModule N E] : HostModule (M ⊕ N) E where
  name := Sum.elim (HostModule.name E) (HostModule.name E)
  priority := Sum.elim (HostModule.priority E) (HostModule.priority E)
  deprecated := Sum.elim (HostModule.deprecated E) (HostModule.deprecated E)
  prepare
    | .inl m, shared => (HostModule.prepare m shared).map .inl
    | .inr m, shared => (HostModule.prepare m shared).map .inr
  bindApi
    | .inl m, shared => (HostModule.bindApi m shared).map .inl
    | .inr m, shared => (HostModule.bindApi m shared).map .inr
  shutDown
    | .inl m, shared => (HostModule.shutDown m shared).map .inl
    | .inr m, shared => (HostModule.shutDown m shared).map .inr

/-- There are no modules of the empty type. -/
instance {E : Type} : HostModule Empty E where
  name := nofun
  priority := nofun
  deprecated := nofun
  prepare := nofun
  bindApi := nofun
  shutDown := nofun

end LuaHost
