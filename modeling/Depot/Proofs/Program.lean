import Depot.Program.Machine
import Depot.Proofs.Fetch.Scheduled
import Depot.Proofs.Settings

/-!
# Runs that find a schedule

A run carries out a command under the settings of a file, or under none, and under what its command
line says. Both are in range by then, so that the settings of every download are usable, and no run
fails for want of a schedule, whatever its files, its clock and its network do.

## Main definitions

* `RunEnds` : how a part of a run ends that does not fail for want of a schedule.

## Main results

* `Settings.yields_load` : settings that are loaded are in range.
* `Command.yields_run` : a command under settings that are in range.
* `Invocation.chosen_schedule` : an accepted command line and an accepted settings file make a
  schedule of the numbers that apply, and no run fails for want of one.
-/

namespace Depot

open Program

/-! ### Parts of a run -/

/-- A part of a run does not end as a download that has no schedule, and what it comes to has a
property. -/
structure RunEnds {α : Type} (P : α → Prop) (r : Except RunFault α) : Prop where
  scheduled : ∀ source fault, r ≠ .error (.download source (.schedule fault))
  result : ∀ a, r = .ok a → P a

section Steps

variable {σ φ α β : Type} {P : α → Prop} {Q : β → Prop}

theorem RunEnds.ok {a : α} (h : P a) : RunEnds P (.ok a) :=
  ⟨nofun, fun _ heq => Except.ok.inj heq ▸ h⟩

theorem RunEnds.error {fault : RunFault}
    (h : ∀ source cause, fault ≠ .download source (.schedule cause)) : RunEnds P (.error fault) :=
  ⟨fun source cause heq => h source cause (Except.error.inj heq), nofun⟩

theorem yields_run_pure {a : α} (h : P a) :
    Yields (pure a : ExceptT RunFault (StateM σ) α).run (RunEnds P) :=
  yields_pure (.ok h)

theorem yields_run_bind {x : ExceptT RunFault (StateM σ) α} {f : α → ExceptT RunFault (StateM σ) β}
    (hx : Yields x.run (RunEnds P)) (hf : ∀ a, P a → Yields (f a).run (RunEnds Q)) :
    Yields (x >>= f).run (RunEnds Q) := by
  change Yields (x.run >>= ExceptT.bindCont f) (RunEnds Q)
  refine hx.bind fun r hr => ?_
  cases r with
  | ok a => exact hf a (hr.result a rfl)
  | error fault =>
    exact yields_pure (.error fun source cause heq => hr.scheduled source cause (heq ▸ rfl))

/-- A step whose faults are none of a download. -/
theorem yields_step {tell : φ → RunFault} {action : StateM σ (Except φ α)}
    (htell : ∀ fault source cause, tell fault ≠ .download source cause)
    (h : Yields action fun r => ∀ a, r = .ok a → P a) :
    Yields (step tell action).run (RunEnds P) := by
  refine Yields.map fun s => ?_
  have hs := h s
  cases hr : (action s).1 with
  | ok a => exact .ok (hs a hr)
  | error fault => exact .error fun source cause => htell fault source _

/-- A step about whose result nothing is known. -/
theorem yields_step_trivial {tell : φ → RunFault} (action : StateM σ (Except φ α))
    (htell : ∀ fault source cause, tell fault ≠ .download source cause) :
    Yields (step tell action).run (RunEnds fun _ => True) :=
  yields_step htell fun _ _ _ => trivial

theorem yields_settle {tell : φ → RunFault} (outcome : Except φ α)
    (htell : ∀ fault source cause, tell fault ≠ .download source cause) :
    Yields (settle tell outcome : ExceptT RunFault (StateM σ) α).run (RunEnds fun _ => True) :=
  yields_step_trivial (pure outcome) htell

end Steps

/-! ### Settings -/

section Settings

variable {σ : Type} [FileStore (StateM σ)]

theorem Settings.yields_loadFile (path : Path) :
    Yields (Settings.loadFile path : StateM σ _) fun r => ∀ s, r = .ok s → s.InRange := by
  refine yields_bind fun read => ?_
  cases read with
  | error fault => exact yields_pure nofun
  | ok text =>
    dsimp only
    split
    · exact yields_pure nofun
    · next hparse => exact yields_pure fun _ heq => Except.ok.inj heq ▸ inRange_of_parse? hparse

/-- **Settings that are loaded are in range,** and so are those that apply without a file. -/
theorem Settings.yields_load (named default : Option Path) :
    Yields (Settings.load named default : StateM σ _) fun r =>
      ∀ loaded, r = .ok loaded → (loaded.settings.getD Settings.none).InRange := by
  have hfile : ∀ path, Yields (do
      return (← Settings.loadFile path).map fun s => ⟨some path, some s⟩ :
        StateM σ (Except LoadFault LoadedSettings)) fun r =>
      ∀ loaded, r = .ok loaded → (loaded.settings.getD Settings.none).InRange := by
    refine fun path => (yields_loadFile path).bind fun r hr => yields_pure fun loaded heq => ?_
    obtain ⟨s, hs, rfl⟩ := map_eq_ok_iff.1 heq
    exact hr s hs
  unfold load
  split
  · next path => exact hfile path
  · exact yields_pure fun _ heq => Except.ok.inj heq ▸ inRange_none
  · next path =>
    refine yields_bind fun found => ?_
    split
    · exact hfile path
    · exact yields_pure fun _ heq => Except.ok.inj heq ▸ inRange_none

end Settings

/-! ### Commands -/

section Commands

variable {σ : Type} [FileStore (StateM σ)]

theorem yields_loadManifest (path : Path) :
    Yields (loadManifest path : ExceptT RunFault (StateM σ) _).run (RunEnds fun _ => True) :=
  yields_step_trivial _ fun _ _ _ => RunFault.noConfusion

omit [FileStore (StateM σ)] in
theorem yields_selectVariant (manifest : PackageManifest) (host : HostPlatform) :
    Yields (Program.selectVariant manifest host : ExceptT RunFault (StateM σ) _).run
      (RunEnds fun _ => True) :=
  yields_settle _ fun _ _ _ => RunFault.noConfusion

theorem yields_resolveHost (around : Surroundings) (options : HostOptions) :
    Yields (resolveHost around options : ExceptT RunFault (StateM σ) _).run
      (RunEnds fun _ => True) := by
  unfold resolveHost
  split
  · exact yields_run_pure trivial
  · exact yields_run_bind (yields_step_trivial _ fun _ _ _ => RunFault.noConfusion)
      fun found _ => yields_run_pure trivial

variable [Clock (StateM σ)] [Transports (StateM σ)]
  (hurl : ∀ url tag, Yields (Transports.getUrl url tag : StateM σ _) Reply.Scheduled)
  (hobject : ∀ location tag,
    Yields (Transports.getObject location tag : StateM σ _) Reply.Scheduled)

include hurl hobject

theorem yields_fetch {settings : Settings} {around : Surroundings} {transfer : TransferOptions}
    (hsettings : settings.InRange) (htransfer : transfer.InRange) (request : FetchRequest) :
    Yields (fetch settings around transfer request : ExceptT RunFault (StateM σ) _).run
      (RunEnds fun _ => True) := by
  obtain ⟨s, hs, -⟩ :=
    (Settings.chosen_fetchSettings hsettings htransfer around.tempDir).usable.schedule
  refine Yields.map fun u => ?_
  have hscheduled := yields_download hurl hobject hs request u
  cases hr : ((download (settings.fetchSettings transfer around.tempDir) request :
      StateM σ _) u).1 with
  | ok result => exact .ok trivial
  | error fault =>
    refine .error fun source cause heq => hscheduled cause ?_
    rw [hr, (RunFault.download.inj heq).2]

/-- **A command does not fail for want of a schedule** under settings that are in range. -/
theorem Command.yields_run {settings : Settings} (hsettings : settings.InRange)
    (around : Surroundings) {command : Command}
    (htransfer : ∀ transfer, command.transfer? = some transfer → transfer.InRange) :
    Yields (command.run settings around : ExceptT RunFault (StateM σ) _).run
      (RunEnds fun _ => True) := by
  cases command with
  | download url checksums transfer =>
    exact yields_run_bind (yields_fetch hurl hobject hsettings (htransfer _ rfl) _)
      fun result _ => yields_run_pure trivial
  | parseUrl url => exact yields_run_pure trivial
  | selectVariant path options =>
    refine yields_run_bind (yields_loadManifest path) fun manifest _ => ?_
    refine yields_run_bind (yields_resolveHost around options) fun host _ => ?_
    exact yields_run_bind (yields_selectVariant manifest host) fun selection _ =>
      yields_run_pure trivial
  | latestVersion component excluded root =>
    exact yields_run_bind (yields_step_trivial _ fun _ _ _ => RunFault.noConfusion)
      fun latest _ => yields_run_pure trivial
  | fetchPackage path action base region options transfer =>
    refine yields_run_bind (yields_loadManifest path) fun manifest _ => ?_
    refine yields_run_bind (yields_settle _ fun _ _ _ => RunFault.noConfusion) fun guard _ => ?_
    refine yields_run_bind (yields_resolveHost around options) fun host _ => ?_
    refine yields_run_bind (yields_selectVariant manifest host) fun selection _ => ?_
    refine yields_run_bind (yields_settle _ fun _ _ _ => RunFault.noConfusion) fun request _ => ?_
    exact yields_run_bind (yields_fetch hurl hobject hsettings (htransfer _ rfl) request)
      fun result _ => yields_run_pure trivial

end Commands

/-! ### Runs -/

section Runs

variable {σ : Type} [FileStore (StateM σ)] [Clock (StateM σ)] [Network (StateM σ)]

/-- The transports of the program. -/
local instance : Transports (StateM σ) :=
  HttpClient.transports none

theorem Invocation.yields_run {args : List String} {inv : Invocation}
    (hparse : Invocation.parse? args = .ok inv) (around : Surroundings) :
    Yields (inv.run around : ExceptT RunFault (StateM σ) _).run (RunEnds fun _ => True) := by
  have hload : Yields (step .settings (Settings.load inv.config around.settingsFile) :
      ExceptT RunFault (StateM σ) _).run
      (RunEnds fun loaded => (loaded.settings.getD Settings.none).InRange) :=
    yields_step (fun _ _ _ => RunFault.noConfusion)
      (Settings.yields_load inv.config around.settingsFile)
  refine yields_run_bind hload fun loaded hsettings => ?_
  have htransfer : ∀ transfer, inv.command.transfer? = some transfer → transfer.InRange :=
    fun transfer => inRange_of_transfer? hparse
  have hurl : ∀ url tag, Yields (Transports.getUrl url tag : StateM σ _) Reply.Scheduled :=
    HttpClient.yields_get
  have hobject : ∀ location tag, Yields (Transports.getObject location tag : StateM σ _)
      Reply.Scheduled :=
    fun location => HttpClient.yields_getObject none (some location)
  exact Command.yields_run hurl hobject hsettings around htransfer

/-- **An accepted command line finds a schedule.** With every accepted settings file the numbers
that apply are in their ranges, and the schedule of a download has just these; and no run of the
program fails for want of a schedule. -/
theorem Invocation.chosen_schedule {args : List String} {inv : Invocation}
    (hparse : Invocation.parse? args = .ok inv) :
    (∀ text settings transfer tempDir, Settings.parse? text = .ok settings →
      inv.command.transfer? = some transfer →
      (settings.fetchSettings transfer tempDir).Chosen transfer settings) ∧
    ∀ (around : Surroundings) (s : σ) (source : String) (fault : ScheduleFault),
      ((inv.run around : ExceptT RunFault (StateM σ) _).run s).1 ≠
        .error (.download source (.schedule fault)) := by
  refine ⟨fun text settings transfer tempDir htext htransfer => ?_, fun around s => ?_⟩
  · exact Settings.chosen_fetchSettings (Settings.inRange_of_parse? htext)
      (inRange_of_transfer? hparse htransfer) tempDir
  · exact (yields_run hparse around s).scheduled

/-- The retries of the command line apply, and the interval of the file. A line that is replaced by
a later one need not be in range. -/
theorem Invocation.chosen_schedule_download :
    ∃ inv settings transfer,
      Invocation.parse? ["download", "agent", "--max-retries", "7"] = .ok inv ∧
      Settings.parse? "max_retries = 300\nmax_retries = 3\nretry_initial_interval_ms = 10000" =
        .ok settings ∧
      inv.command.transfer? = some transfer ∧
      (settings.fetchSettings transfer ⟨"/tmp"⟩).Chosen transfer settings ∧
      (settings.fetchSettings transfer ⟨"/tmp"⟩).maxRetries = 7 ∧
      (settings.fetchSettings transfer ⟨"/tmp"⟩).initialInterval = seconds 10 ∧
      ∀ (around : Surroundings) (machine : Machine) (source : String) (fault : ScheduleFault),
        ((inv.run around : ExceptT RunFault (StateM Machine) _).run machine).1 ≠
          .error (.download source (.schedule fault)) := by
  have hparse : Invocation.parse? ["download", "agent", "--max-retries", "7"] =
      .ok ⟨0, false, none, .download "agent" [] ⟨none, some 7, none⟩⟩ :=
    eq_ok_of_toOption (by decide +kernel)
  have htext :
      Settings.parse? "max_retries = 300\nmax_retries = 3\nretry_initial_interval_ms = 10000" =
        .ok { Settings.none with maxRetries := some 3, retryInitialIntervalMs := some 10000 } :=
    eq_ok_of_toOption (by decide +kernel)
  obtain ⟨hchosen, hruns⟩ := @Invocation.chosen_schedule Machine _ _ _ _ _ hparse
  exact ⟨_, _, _, hparse, htext, rfl, hchosen _ _ _ ⟨"/tmp"⟩ htext rfl, rfl, rfl, hruns⟩

end Runs

end Depot
