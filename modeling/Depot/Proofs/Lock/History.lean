import Mathlib.Data.List.DropRight
import Depot.Proofs.Lock

/-!
# The history of locks

What happens to the locks is a list of events: an action takes the lock on a component, or a guard
of a component is dropped. A lock that is refused is no event. The registry is read off the events:
the action of a component is the one of the first lock on it since the last drop of a guard of it.
Guards that were handed out before that drop may still be held, and each of them takes the newer
registration away when it is dropped.

## Main definitions

* `LockEvent`, `LockTable.history` : what happens to the locks in a run.
* `LockEvent.sinceFreed`, `LockEvent.takers` : the events since the last drop of a guard of a
  component, and the actions that took the lock on it.

## Main results

* `LockTable.current_step` : what one operation does to the registered action of a component.
* `LockTable.run_current` : the registered action is determined by the history, and decides which
  locks are refused.
-/

namespace Depot

/-- What happens to a lock: an action takes the lock on a component, or a guard of a component is
dropped. -/
inductive LockEvent
  | taken (component action : String)
  | freed (component : String)
  deriving DecidableEq, Repr

namespace LockEvent

/-- The component whose lock an event is about. -/
def component : LockEvent → String
  | taken component _ => component
  | freed component => component

/-- The registered action of a component after an event. -/
def next (component : String) (running : Option String) : LockEvent → Option String
  | taken other action => if other = component then some (running.getD action) else running
  | freed other => if other = component then none else running

/-- The events since the last drop of a guard of a component. -/
def sinceFreed (component : String) (events : List LockEvent) : List LockEvent :=
  events.rtakeWhile (· ≠ freed component)

/-- The action of an event that takes the lock on a component. -/
def taker? (component : String) : LockEvent → Option String
  | taken other action => if other = component then some action else none
  | freed _ => none

/-- The actions that take the lock on a component, in their order. -/
def takers (component : String) (events : List LockEvent) : List String :=
  events.filterMap (taker? component)

theorem sinceFreed_concat_freed (component : String) (events : List LockEvent) :
    sinceFreed component (events ++ [freed component]) = [] :=
  List.rtakeWhile_concat_neg _ _ _ (by simp)

theorem sinceFreed_concat_of_ne {component : String} {events : List LockEvent} {event : LockEvent}
    (hne : event ≠ freed component) :
    sinceFreed component (events ++ [event]) = sinceFreed component events ++ [event] :=
  List.rtakeWhile_concat_pos _ _ _ (by simpa using hne)

/-- An event on another component leaves the registered action as it is. -/
theorem next_of_ne {component : String} {event : LockEvent} (hne : event.component ≠ component)
    (running : Option String) : next component running event = running := by
  cases event with
  | taken other action => exact if_neg hne
  | freed other => exact if_neg hne

/-- The registered action is the one of the first lock since the last drop. -/
theorem foldl_next (component : String) (events : List LockEvent) :
    events.foldl (next component) none =
      (takers component (sinceFreed component events)).head? := by
  -- The last event decides whether anything that came before it still counts.
  induction events using List.reverseRecOn with
  | nil => rfl
  | append_singleton events event ih =>
    rw [List.foldl_append, List.foldl_cons, List.foldl_nil, ih]
    by_cases hfreed : event = freed component
    · subst hfreed
      rw [sinceFreed_concat_freed, next, if_pos rfl]
      rfl
    · rw [sinceFreed_concat_of_ne hfreed, takers, takers, List.filterMap_append, List.head?_append]
      cases event with
      | taken other action =>
        by_cases hother : other = component
        · simp [next, taker?, hother, Option.or_some]
        · simp [next, taker?, hother]
      | freed other =>
        have hother : other ≠ component := fun h => hfreed (h ▸ rfl)
        simp [next, taker?, hother]

end LockEvent

namespace LockTable

/-- What happens in an operation, if it is neither a refused lock nor the drop of a guard that is
not held. -/
def event? (t : LockTable) : LockOp → Option LockEvent
  | .lock component action =>
    match t.lock component action with
    | .ok _ => some (.taken component action)
    | .error _ => none
  | .drop index => (t.freed? (.drop index)).map .freed

/-- What happens in a run. -/
def history (t : LockTable) : List LockOp → List LockEvent
  | [] => []
  | op :: ops => (t.event? op).toList ++ history (t.step op) ops

/-- The component that an operation is about: the one that is to be locked, or the one of the
guard. -/
def subject? (t : LockTable) : LockOp → Option String
  | .lock component _ => some component
  | .drop index => t.guards[index]?.map Guard.component

/-! ### One operation -/

/-- A lock is taken if no action is registered or the same one is. -/
theorem lock_eq_ok_iff {t : LockTable} {component action : String} :
    (∃ t', t.lock component action = .ok t') ↔
      t.registry.current component = none ∨ t.registry.current component = some action := by
  unfold lock LockRegistry.acquire
  cases t.registry.current component with
  | none => simp [Except.map]
  | some running =>
    by_cases hsame : running = action
    · simp [Except.map, hsame]
    · simp [Except.map, hsame]

/-- A lock is refused if another action is registered, and nothing changes then. -/
theorem lock_eq_error {t : LockTable} {component running action : String}
    (hrunning : t.registry.current component = some running) (hne : running ≠ action) :
    t.lock component action = .error (.inProgress component running action) ∧
      t.step (.lock component action) = t := by
  have hlock : t.lock component action = .error (.inProgress component running action) := by
    simp only [lock, LockRegistry.acquire, hrunning, if_neg hne]
    rfl
  exact ⟨hlock, by simp only [step, hlock]; rfl⟩

theorem subject?_of_event? {t : LockTable} {op : LockOp} {event : LockEvent}
    (h : t.event? op = some event) : t.subject? op = some event.component := by
  cases op with
  | lock component action =>
    cases hlock : t.lock component action with
    | error fault => simp [event?, hlock] at h
    | ok t' =>
      obtain rfl : LockEvent.taken component action = event := by simpa [event?, hlock] using h
      rfl
  | drop index =>
    obtain ⟨component, hfreed, rfl⟩ := Option.map_eq_some_iff.1 h
    obtain ⟨guard, hguard, rfl⟩ := Option.map_eq_some_iff.1 hfreed
    exact Option.map_eq_some_iff.2 ⟨guard, (Option.filter_eq_some_iff.1 hguard).1, rfl⟩

/-- **What an operation does to the registered action of a component** is what its event does. -/
theorem current_step (t : LockTable) (op : LockOp) (component : String) :
    (t.step op).registry.current component =
      (t.event? op).toList.foldl (LockEvent.next component) (t.registry.current component) := by
  cases op with
  | lock other action =>
    cases hacquire : t.registry.acquire other action with
    | error fault => simp [step, event?, lock, hacquire, Except.map, Except.toOption]
    | ok registry =>
      have hstep : t.step (.lock other action) =
          ⟨registry, t.guards ++ [⟨other, action, true⟩]⟩ := by
        simp [step, lock, hacquire, Except.map, Except.toOption]
      have hevent : t.event? (.lock other action) = some (.taken other action) := by
        simp [event?, lock, hacquire, Except.map]
      rw [hstep, hevent]
      obtain ⟨hfree, hcurrent⟩ := LockRegistry.acquire_eq_ok hacquire
      show registry.current component = _
      rw [hcurrent, Option.toList_some, List.foldl_cons, List.foldl_nil, LockEvent.next]
      by_cases hother : other = component
      · rw [if_pos hother, if_pos hother]
        cases hrunning : t.registry.current component with
        | none => rfl
        | some running => rw [hfree running (hother ▸ hrunning), Option.getD_some]
      · rw [if_neg hother, if_neg hother]
  | drop index =>
    have hsteps := step_cases t (.drop index)
    generalize t.step (.drop index) = t' at hsteps
    cases hsteps with
    | idle hfreed => rw [event?, hfreed]; rfl
    | @dropped _ guard _ hfreed =>
      rw [event?, hfreed]
      exact LockRegistry.current_release ..

/-- An operation leaves the components that it is not about as they are. -/
theorem current_step_of_ne {t : LockTable} {op : LockOp} {component : String}
    (hne : t.subject? op ≠ some component) :
    (t.step op).registry.current component = t.registry.current component := by
  rw [current_step]
  cases hevent : t.event? op with
  | none => rfl
  | some event =>
    have hother : event.component ≠ component := fun h => hne (h ▸ subject?_of_event? hevent)
    exact LockEvent.next_of_ne hother _

/-! ### Runs -/

/-- The registered action after a run is what the events of the run make of it. -/
theorem current_run (t : LockTable) (ops : List LockOp) (component : String) :
    (t.run ops).registry.current component =
      (t.history ops).foldl (LockEvent.next component) (t.registry.current component) := by
  induction ops generalizing t with
  | nil => rfl
  | cons op ops ih =>
    show ((t.step op).run ops).registry.current component = _
    rw [ih, history, List.foldl_append, current_step]

/-- **The registered action of a component is determined by the history,** for every run: it is the
action of the first lock on the component since the last drop of a guard of it. It decides about the
next lock, which is taken if no action or the same one is registered and is refused otherwise,
without a change; and an operation leaves all components but its own as they are. -/
theorem run_current (ops : List LockOp) (component : String) :
    (empty.run ops).registry.current component =
        (LockEvent.takers component (LockEvent.sinceFreed component (empty.history ops))).head? ∧
      (∀ action, (∃ t, (empty.run ops).lock component action = .ok t) ↔
        (empty.run ops).registry.current component = none ∨
          (empty.run ops).registry.current component = some action) ∧
      (∀ running action, (empty.run ops).registry.current component = some running →
        running ≠ action →
          (empty.run ops).lock component action =
              .error (.inProgress component running action) ∧
            (empty.run ops).step (.lock component action) = empty.run ops) ∧
      ∀ op, (empty.run ops).subject? op ≠ some component →
        ((empty.run ops).step op).registry.current component =
          (empty.run ops).registry.current component :=
  ⟨(current_run empty ops component).trans (LockEvent.foldl_next component _),
    fun _ => lock_eq_ok_iff, fun _ _ => lock_eq_error, fun _ => current_step_of_ne⟩

/-- A guard of an earlier registration is dropped while another action is registered, and the
component is free again: the lock that follows is the first one that counts, and the action that
was displaced is refused. -/
theorem run_current_staleGuard :
    (empty.run [.lock "agent" "install", .lock "agent" "install", .drop 0, .lock "agent" "remove",
        .drop 1, .lock "agent" "update", .lock "monitor" "install"]).registry.current "agent" =
        some "update" ∧
      (empty.run [.lock "agent" "install", .lock "agent" "install", .drop 0,
        .lock "agent" "remove", .drop 1, .lock "agent" "update",
        .lock "monitor" "install"]).lock "agent" "remove" =
          .error (.inProgress "agent" "update" "remove") := by
  obtain ⟨hcurrent, -, hrefused, -⟩ := run_current [.lock "agent" "install",
    .lock "agent" "install", .drop 0, .lock "agent" "remove", .drop 1, .lock "agent" "update",
    .lock "monitor" "install"] "agent"
  have hupdate := hcurrent.trans (show _ = some "update" by decide +kernel)
  exact ⟨hupdate, (hrefused "update" "remove" hupdate (by decide)).1⟩

end LockTable

end Depot
