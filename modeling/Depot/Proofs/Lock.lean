import Depot.Lock

/-!
# The actions that hold a component

The guards of a component are handed out for the action that is registered for it, until one of
them is dropped. The first drop takes the registration away, whatever guards are left, and from
then on another action may take the lock. Mutual exclusion therefore holds of the guards that have
been taken since the last drop of a guard of the component, and of all guards that are still held
in a run in which no guard of the component is dropped beside another one.

## Main definitions

* `LockOp`, `LockTable.run` : what is done to a table, and the table after a run.
* `LockTable.since` : the guards of a component that are counted, by the place of the first one.
* `LockTable.HeldSince`, `LockTable.Exclusive` : the counted guards, and all that are held, are held
  for the registered action.
* `LockTable.Orderly` : no guard of a component is dropped beside another one.

## Main results

* `LockTable.step_cases` : what one operation does.
* `LockTable.run_exclusive` : which guards exclude other actions, after every run.
-/

namespace Depot

theorem LockRegistry.acquire_eq_ok {r r' : LockRegistry} {component action : String}
    (h : r.acquire component action = .ok r') :
    (∀ running, r.current component = some running → running = action) ∧
      ∀ key, r'.current key = if component = key then some action else r.current key := by
  unfold acquire at h
  cases hrunning : r.current component with
  | none =>
    simp only [hrunning] at h
    cases h
    exact ⟨fun running hr => (by cases hr), fun key => Assoc.get?_insert ..⟩
  | some running =>
    simp only [hrunning] at h
    split at h
    · next hsame =>
      cases h
      refine ⟨fun other ho => Option.some.inj ho ▸ hsame, fun key => ?_⟩
      split
      · next hkey => rw [← hkey, hrunning, hsame]
      · rfl
    · cases h

/-- What is done to a table: an action asks for the lock on a component, or the guard with an index
is dropped. -/
inductive LockOp
  | lock (component action : String)
  | drop (index : Nat)
  deriving DecidableEq, Repr

namespace LockTable

/-- The table after an operation. A lock that is refused and the drop of a guard that is not held
change nothing. -/
def step (t : LockTable) : LockOp → LockTable
  | .lock component action => (t.lock component action).toOption.getD t
  | .drop index => (t.drop? index).getD t

/-- The table after some operations. -/
def run (t : LockTable) (ops : List LockOp) : LockTable :=
  ops.foldl step t

/-- The component whose guard an operation drops, if it drops one. -/
def freed? (t : LockTable) : LockOp → Option String
  | .lock _ _ => none
  | .drop index => ((t.guards[index]?).filter Guard.live).map Guard.component

/-- The place of the first guard that is handed out after the last drop of a guard of a component,
if it is `n` before some operations. -/
def since (component : String) (t : LockTable) (n : Nat) : List LockOp → Nat
  | [] => n
  | op :: ops =>
    since component (t.step op) (if t.freed? op = some component then t.guards.length else n) ops

/-- No operation drops a guard of a component while another guard of it is held. -/
def Orderly (component : String) (t : LockTable) : List LockOp → Prop
  | [] => True
  | op :: ops =>
    (t.freed? op = some component →
      ∀ g ∈ (t.step op).guards, g.live = true → g.component ≠ component) ∧
    Orderly component (t.step op) ops

/-- The guards of a component from the place `n` on are held, for the action that is registered, and
no action is registered without such a guard. -/
structure HeldSince (component : String) (n : Nat) (t : LockTable) : Prop where
  le_length : n ≤ t.guards.length
  held : ∀ i g, n ≤ i → t.guards[i]? = some g → g.component = component →
    g.live = true ∧ t.registry.current component = some g.action
  exists_guard : ∀ action, t.registry.current component = some action →
    ∃ i g, n ≤ i ∧ t.guards[i]? = some g ∧ g.component = component ∧ g.action = action

/-- All guards of a component that are held are held for the action that is registered. -/
def Exclusive (component : String) (t : LockTable) : Prop :=
  ∀ g ∈ t.guards, g.live = true → g.component = component →
    t.registry.current component = some g.action

/-! ### One operation -/

/-- What an operation does to a table: a lock is taken, a guard is dropped, or nothing happens. -/
inductive Steps (t : LockTable) : LockOp → LockTable → Prop
  | locked {component action : String} {registry : LockRegistry}
      (hfree : ∀ running, t.registry.current component = some running → running = action)
      (hcurrent : ∀ key, registry.current key =
        if component = key then some action else t.registry.current key) :
      Steps t (.lock component action) ⟨registry, t.guards ++ [⟨component, action, true⟩]⟩
  | dropped {index : Nat} {guard : Guard} (hguard : t.guards[index]? = some guard)
      (hfreed : t.freed? (.drop index) = some guard.component) :
      Steps t (.drop index)
        ⟨t.registry.release guard.component, t.guards.set index { guard with live := false }⟩
  | idle {op : LockOp} (hfreed : t.freed? op = none) : Steps t op t

theorem step_cases (t : LockTable) (op : LockOp) : Steps t op (t.step op) := by
  cases op with
  | lock component action =>
    cases hacquire : t.registry.acquire component action with
    | error fault =>
      have hstep : t.step (.lock component action) = t := by
        simp [step, lock, hacquire, Except.map, Except.toOption]
      rw [hstep]
      exact .idle rfl
    | ok registry =>
      obtain ⟨hfree, hcurrent⟩ := LockRegistry.acquire_eq_ok hacquire
      have hstep : t.step (.lock component action) =
          ⟨registry, t.guards ++ [⟨component, action, true⟩]⟩ := by
        simp [step, lock, hacquire, Except.map, Except.toOption]
      rw [hstep]
      exact .locked hfree hcurrent
  | drop index =>
    cases hguard : t.guards[index]? with
    | none =>
      have hstep : t.step (.drop index) = t := by simp [step, drop?, hguard]
      rw [hstep]
      exact .idle (by simp [freed?, hguard])
    | some guard =>
      cases hlive : guard.live with
      | false =>
        have hstep : t.step (.drop index) = t := by simp [step, drop?, hguard, hlive]
        rw [hstep]
        exact .idle (by simp [freed?, hguard, Option.filter, hlive])
      | true =>
        have hstep : t.step (.drop index) = ⟨t.registry.release guard.component,
            t.guards.set index { guard with live := false }⟩ := by
          simp [step, drop?, hguard, hlive]
        rw [hstep]
        exact .dropped hguard (by simp [freed?, hguard, Option.filter, hlive])

/-- A guard that is dropped leaves the guards of other components where they are. -/
theorem getElem?_set_of_component_ne {guards : List Guard} {index i : Nat} {guard g : Guard}
    (hguard : guards[index]? = some guard) (hne : guard.component ≠ g.component) :
    (guards.set index { guard with live := false })[i]? = some g ↔ guards[i]? = some g := by
  rw [List.getElem?_set]
  split
  · next hi =>
    subst hi
    rw [if_pos (List.getElem?_eq_some_iff.1 hguard).1, hguard, Option.some_inj, Option.some_inj]
    exact iff_of_false (fun h => hne (h ▸ rfl)) (fun h => hne (h ▸ rfl))
  · rfl

/-- A lock that is taken leaves what is registered as it is. -/
theorem current_of_locked {r r' : LockRegistry} {taken action component running : String}
    (hfree : ∀ running, r.current taken = some running → running = action)
    (hcurrent : ∀ key, r'.current key = if taken = key then some action else r.current key)
    (h : r.current component = some running) : r'.current component = some running := by
  rw [hcurrent component]
  split
  · next htaken => rw [hfree running (htaken ▸ h)]
  · exact h

variable {component : String} {t : LockTable} {n : Nat}

/-- **One operation keeps the counted guards on the registered action.** A drop of a guard of the
component starts the count anew. -/
theorem HeldSince.step (h : HeldSince component n t) (op : LockOp) :
    HeldSince component (if t.freed? op = some component then t.guards.length else n)
      (t.step op) := by
  have hsteps := step_cases t op
  generalize t.step op = t' at hsteps
  cases hsteps with
  | idle hfreed =>
    rw [hfreed, if_neg (Option.some_ne_none component).symm]
    exact h
  | @locked taken action registry hfree hcurrent =>
    rw [if_neg (by simp [freed?])]
    refine ⟨by simpa using Nat.le_succ_of_le h.le_length, fun i g hi hg hcomponent => ?_,
      fun running hrunning => ?_⟩
    · rw [List.getElem?_append] at hg
      split at hg
      · exact (h.held i g hi hg hcomponent).imp_right (current_of_locked hfree hcurrent)
      · obtain rfl := List.mem_singleton.1 (List.mem_of_getElem? hg)
        exact ⟨rfl, (hcurrent component).trans (if_pos hcomponent)⟩
    · rw [hcurrent component] at hrunning
      split at hrunning
      · next htaken =>
        exact ⟨t.guards.length, ⟨taken, action, true⟩, h.le_length, by simp, htaken,
          Option.some.inj hrunning⟩
      · obtain ⟨i, g, hi, hg, hcomponent, haction⟩ := h.exists_guard running hrunning
        have hlength := (List.getElem?_eq_some_iff.1 hg).1
        exact ⟨i, g, hi, by rw [List.getElem?_append_left hlength, hg], hcomponent, haction⟩
  | @dropped index guard hguard hfreed =>
    have hcurrent := t.registry.current_release guard.component component
    rw [hfreed]
    by_cases hsame : guard.component = component
    · rw [if_pos (congrArg some hsame)]
      refine ⟨by simp, fun i g hi hg _ => ?_, fun action haction => ?_⟩
      · have hlength := (List.getElem?_eq_some_iff.1 hg).1
        rw [List.length_set] at hlength
        omega
      · rw [hcurrent, if_pos hsame] at haction
        cases haction
    · rw [if_neg (by simpa using hsame)]
      rw [if_neg hsame] at hcurrent
      refine ⟨by simpa using h.le_length, fun i g hi hg hcomponent => ?_, fun action haction => ?_⟩
      · rw [hcurrent]
        have hold := (getElem?_set_of_component_ne hguard (hcomponent ▸ hsame)).1 hg
        exact h.held i g hi hold hcomponent
      · rw [hcurrent] at haction
        obtain ⟨i, g, hi, hg, hcomponent, hg'⟩ := h.exists_guard action haction
        refine ⟨i, g, hi, ?_, hcomponent, hg'⟩
        exact (getElem?_set_of_component_ne hguard (hcomponent ▸ hsame)).2 hg

/-- **One operation keeps mutual exclusion,** unless it drops a guard beside another one. -/
theorem Exclusive.step (h : Exclusive component t) {op : LockOp}
    (horderly : t.freed? op = some component →
      ∀ g ∈ (t.step op).guards, g.live = true → g.component ≠ component) :
    Exclusive component (t.step op) := by
  have hsteps := step_cases t op
  generalize t.step op = t' at hsteps horderly
  cases hsteps with
  | idle hfreed => exact h
  | @locked taken action registry hfree hcurrent =>
    intro g hg hlive hcomponent
    rcases List.mem_append.1 hg with hg | hg
    · exact current_of_locked hfree hcurrent (h g hg hlive hcomponent)
    · obtain rfl := List.mem_singleton.1 hg
      exact (hcurrent component).trans (if_pos hcomponent)
  | @dropped index guard hguard hfreed =>
    intro g hg hlive hcomponent
    by_cases hsame : guard.component = component
    · exact absurd hcomponent (horderly (hsame ▸ hfreed) g hg hlive)
    · rw [LockRegistry.current_release, if_neg hsame]
      rcases List.mem_or_eq_of_mem_set hg with hg | rfl
      · exact h g hg hlive hcomponent
      · cases hlive

/-! ### Runs -/

theorem heldSince_empty (component : String) : HeldSince component 0 empty where
  le_length := Nat.le_refl 0
  held _ _ _ hg _ := by cases hg
  exists_guard _ haction := by cases haction

theorem HeldSince.run (h : HeldSince component n t) (ops : List LockOp) :
    HeldSince component (t.since component n ops) (t.run ops) := by
  induction ops generalizing t n with
  | nil => exact h
  | cons op ops ih => exact ih (h.step op)

theorem Exclusive.run (h : Exclusive component t) {ops : List LockOp}
    (horderly : t.Orderly component ops) : Exclusive component (t.run ops) := by
  induction ops generalizing t with
  | nil => exact h
  | cons op ops ih => exact ih (h.step horderly.1) horderly.2

/-- **After every run the guards of a component that have been taken since the last drop of one of
its guards are held for one action,** the registered one, and an action is registered only while
there is such a guard. If no guard of the component has been dropped beside another one, this is
true of all its guards that are still held. -/
theorem run_exclusive (component : String) (ops : List LockOp) :
    HeldSince component (empty.since component 0 ops) (empty.run ops) ∧
      (empty.Orderly component ops → Exclusive component (empty.run ops)) := by
  refine ⟨(heldSince_empty component).run ops, fun horderly => Exclusive.run ?_ horderly⟩
  intro g hg
  cases hg

/-- A lock that is taken twice, refused to another action, and handed on after a drop. -/
theorem run_exclusive_handedOn :
    empty.Orderly "agent" [.lock "agent" "install", .lock "agent" "remove", .drop 0,
        .lock "agent" "remove", .lock "agent" "remove"] ∧
      Exclusive "agent" (empty.run [.lock "agent" "install", .lock "agent" "remove", .drop 0,
        .lock "agent" "remove", .lock "agent" "remove"]) := by
  have horderly : empty.Orderly "agent" [.lock "agent" "install", .lock "agent" "remove", .drop 0,
      .lock "agent" "remove", .lock "agent" "remove"] := by
    refine ⟨?_, ?_, ?_, ?_, ?_, trivial⟩ <;> decide +kernel
  exact ⟨horderly, (run_exclusive "agent" _).2 horderly⟩

/-- A guard that is dropped beside another one: the component is not registered although a guard of
it is held, and after another action has taken the lock, two actions hold the component. -/
theorem not_exclusive_reentered :
    (∃ g ∈ (empty.run [.lock "agent" "install", .lock "agent" "install", .drop 0]).guards,
        g.live = true ∧ g.component = "agent" ∧
        (empty.run [.lock "agent" "install", .lock "agent" "install",
          .drop 0]).registry.current "agent" = none) ∧
      ∃ g ∈ (empty.run [.lock "agent" "install", .lock "agent" "install", .drop 0,
          .lock "agent" "remove"]).guards,
        ∃ h ∈ (empty.run [.lock "agent" "install", .lock "agent" "install", .drop 0,
            .lock "agent" "remove"]).guards,
          g.live = true ∧ h.live = true ∧ g.component = "agent" ∧ h.component = "agent" ∧
            g.action ≠ h.action := by
  decide +kernel

end LockTable

end Depot
