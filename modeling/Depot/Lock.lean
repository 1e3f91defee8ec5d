import Depot.Assoc

/-!
# Locks on components

At most one kind of action may run on a component. A registry says which action that is. Taking the
lock registers the action and hands out a guard; the same action may take the lock again and gets a
further guard. Releasing any guard of a component takes its registration away.

## Main definitions

* `LockRegistry`, `LockRegistry.acquire`, `LockRegistry.release` : the registered actions.
* `LockFault` : another action is running.
* `LockTable` : a registry with the guards that have been handed out.

## Main results

* `LockRegistry.current_release` : what is registered after a release.
-/

namespace Depot

/-- The lock on a component cannot be taken while another action runs. -/
inductive LockFault
  | inProgress (component running requested : String)
  deriving DecidableEq, Repr

/-- The message of a fault. -/
def LockFault.message : LockFault → String
  | inProgress component running requested =>
    component ++ ": " ++ running ++ " already in progress, cannot " ++ requested

/-- The action that is registered for each component. -/
structure LockRegistry where
  running : Assoc String String
  deriving DecidableEq, Repr

namespace LockRegistry

/-- The registry without actions. -/
def empty : LockRegistry := ⟨[]⟩

/-- The action that is registered for a component. -/
def current (r : LockRegistry) (component : String) : Option String :=
  r.running.get? component

/-- The registry after an action has taken the lock on a component. -/
def acquire (r : LockRegistry) (component action : String) : Except LockFault LockRegistry :=
  match r.current component with
  | none => .ok ⟨r.running.insert component action⟩
  | some running =>
    if running = action then .ok r else .error (.inProgress component running action)

/-- The registry after a guard of a component has been released. -/
def release (r : LockRegistry) (component : String) : LockRegistry :=
  ⟨r.running.erase component⟩

@[simp] theorem current_empty (component : String) : empty.current component = none :=
  rfl

/-- A release takes away the registration of its component and no other one. -/
@[simp] theorem current_release (r : LockRegistry) (released component : String) :
    (r.release released).current component =
      if released = component then none else r.current component :=
  Assoc.get?_erase r.running released component

end LockRegistry

/-- A guard: the component, the action that it was taken for, and whether it is still held. -/
structure Guard where
  component : String
  action : String
  live : Bool
  deriving DecidableEq, Repr

/-- A registry with the guards that have been handed out, in their order. -/
structure LockTable where
  registry : LockRegistry
  guards : List Guard
  deriving DecidableEq, Repr

namespace LockTable

/-- The table before any lock has been taken. -/
def empty : LockTable := ⟨LockRegistry.empty, []⟩

/-- The table after an action has asked for the lock on a component. -/
def lock (t : LockTable) (component action : String) : Except LockFault LockTable :=
  (t.registry.acquire component action).map fun registry =>
    ⟨registry, t.guards ++ [⟨component, action, true⟩]⟩

/-- The table after the guard with the given index has been dropped, if it is still held. -/
def drop? (t : LockTable) (index : Nat) : Option LockTable :=
  match t.guards[index]? with
  | some guard =>
    if guard.live then
      some ⟨t.registry.release guard.component, t.guards.set index { guard with live := false }⟩
    else none
  | none => none

end LockTable

end Depot
