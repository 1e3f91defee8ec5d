import Depot.Program.Command
import Depot.Proofs.CommandLine
import Depot.Proofs.Dict
import Depot.Proofs.Fetch.Integrity

/-!
# Which digests of a command line are enforced

The digests of a command line are read one by one, a bare one under the empty name, and are collected
in a dictionary, where of several digests of one name the last one stays. The verification of a file
takes a lone digest under the empty name for no digest at all. Both are silent: the command succeeds,
and a digest that it was given need not be that of the file.

Nothing else is lost on the way. All digests are enforced exactly when one of them comes with a name,
and no two digests of one known name differ.

## Main definitions

* `SameDigest` : digests that differ in case and blanks alone.
* `Enforced` : what the digests of a successful command should say of its file.
* `Enforceable` : digests that the command enforces.

## Main results

* `download_of_run` : a command that succeeds is a download that succeeds.
* `run_enforced_iff` : when the digests of a command are enforced.
-/

namespace Depot

open World

/-! ### Digests that agree -/

/-- Two digests are the same up to the case of their letters and blanks about them. -/
def SameDigest (s t : String) : Prop :=
  Text.eqIgnoringAsciiCase (Text.trim s) (Text.trim t) = true

variable {ε : Type} {w : World ε} {path : Path} {name s t : String}

theorem World.Satisfies.congr (h : w.Satisfies path (name, s)) (hsame : SameDigest s t) :
    w.Satisfies path (name, t) := by
  intro a ha
  obtain ⟨bytes, hbytes, hmatches⟩ := h a ha
  simp only [SameDigest, Text.eqIgnoringAsciiCase, beq_iff_eq] at hsame hmatches ⊢
  exact ⟨bytes, hbytes, hmatches.trans hsame⟩

/-- Two digests of a file under one known name are the same. -/
theorem World.Satisfies.sameDigest (hs : w.Satisfies path (name, s))
    (ht : w.Satisfies path (name, t)) (hknown : (HashAlgorithm.ofName? name).isSome) :
    SameDigest s t := by
  obtain ⟨a, ha⟩ := Option.isSome_iff_exists.1 hknown
  obtain ⟨bytes, hbytes, hs⟩ := hs a ha
  obtain ⟨bytes', hbytes', ht⟩ := ht a ha
  cases hbytes.symm.trans hbytes'
  simp only [SameDigest, Text.eqIgnoringAsciiCase, beq_iff_eq] at hs ht ⊢
  exact hs.symm.trans ht

/-! ### Enforcement -/

/-- All given digests of known algorithms are those of the file that the result names, and if there is
one, the result does not say that verification was skipped. -/
structure Enforced (checksums : List (String × String)) (result : FetchResult) (w : World ε) :
    Prop where
  satisfied : ∀ c ∈ checksums, w.Satisfies result.path c
  verified : (∃ c ∈ checksums, (HashAlgorithm.ofName? c.1).isSome) → result.verification ≠ .skipped

/-- One of the digests has a name, and no two digests of one known name differ. -/
structure Enforceable (checksums : List (String × String)) : Prop where
  named : ∃ c ∈ checksums, c.1 ≠ ""
  agree : ∀ c ∈ checksums, ∀ c' ∈ checksums, c.1 = c'.1 → (HashAlgorithm.ofName? c.1).isSome →
    SameDigest c.2 c'.2

/-- Given digests ask for no verification only if none of them has a name. -/
theorem skipForm_ofList_iff {checksums : List (String × String)} (hne : checksums ≠ [])
    (hdigits : ∀ c ∈ checksums, c.2 ≠ "") :
    SkipForm (Dict.ofList checksums) ↔ ∀ c ∈ checksums, c.1 = "" := by
  constructor
  · rintro (hnil | ⟨name, digest, hpairs, hempty⟩) c hc
    · obtain ⟨value, hvalue⟩ := Dict.exists_mem_ofList hc
      rw [hnil] at hvalue
      cases hvalue
    · have hmem : (name, digest) ∈ checksums :=
        Dict.mem_of_mem_ofList (hpairs ▸ List.mem_cons_self)
      have hname : name = "" := hempty.resolve_right (hdigits _ hmem)
      obtain ⟨value, hvalue⟩ := Dict.exists_mem_ofList hc
      rw [hpairs] at hvalue
      rw [← hname]
      exact congrArg Prod.fst (List.mem_singleton.1 hvalue)
  · intro hall
    obtain ⟨c, hc⟩ := List.exists_mem_of_ne_nil _ hne
    obtain ⟨value, hvalue⟩ := Dict.exists_mem_ofList hc
    obtain ⟨digest, hpairs⟩ := Dict.exists_pairs_eq (List.ne_nil_of_mem hvalue)
      fun pair hpair => hall pair (Dict.mem_of_mem_ofList hpair)
    exact .inr ⟨"", digest, hpairs, .inl rfl⟩

theorem isSome_ofName?_empty : (HashAlgorithm.ofName? "").isSome := by
  decide +kernel

/-- **The digests that a file has passed were enforced exactly if they are enforceable.** -/
theorem World.Passes.enforced_iff {checksums : List (String × String)} {result : FetchResult}
    (hne : checksums ≠ []) (hdigits : ∀ c ∈ checksums, c.2 ≠ "")
    (h : w.Passes result.path (Dict.ofList checksums) result.verification) :
    Enforced checksums result w ↔ Enforceable checksums := by
  have hskip := skipForm_ofList_iff hne hdigits
  constructor
  · intro henforced
    refine ⟨Classical.byContradiction fun hnone => ?_, fun c hc c' hc' hname hknown => ?_⟩
    · -- Without a name among them the digests come to a single one, and nothing is verified.
      have hbare : ∀ c ∈ checksums, c.1 = "" := fun c hc =>
        Decidable.byContradiction fun hc' => hnone ⟨c, hc, hc'⟩
      obtain ⟨c, hc⟩ := List.exists_mem_of_ne_nil _ hne
      refine henforced.verified ⟨c, hc, hbare c hc ▸ isSome_ofName?_empty⟩ ?_
      rcases h with ⟨-, houtcome⟩ | ⟨hdo, -⟩
      · exact houtcome
      · exact absurd (hskip.2 hbare) hdo
    · have hc'' : w.Satisfies result.path (c.1, c'.2) := hname ▸ henforced.satisfied c' hc'
      exact (henforced.satisfied c hc).sameDigest hc'' hknown
  · rintro ⟨⟨named, hnamed, hname⟩, hagree⟩
    rcases h with ⟨hform, -⟩ | ⟨-, hknown, houtcome, hall⟩
    · exact absurd (hskip.1 hform named hnamed) hname
    refine ⟨fun c hc a ha => ?_, fun _ => by rw [houtcome]; exact Verification.noConfusion⟩
    -- The file was verified against the last digest of this name, which is the same as any other.
    obtain ⟨last, hlast⟩ := Dict.exists_mem_ofList hc
    have hsame : SameDigest last c.2 :=
      hagree (c.1, last) (Dict.mem_of_mem_ofList hlast) c hc rfl (Option.isSome_of_eq_some ha)
    exact (hall _ hlast).congr hsame a ha

/-! ### Runs -/

section Runs

variable [Outside ε] {w' : World ε}

theorem run_bind_eq_ok_iff {σ φ α β : Type} {x : ExceptT φ (StateM σ) α}
    {f : α → ExceptT φ (StateM σ) β} {b : β} {u u' : σ} :
    (x >>= f).run u = (.ok b, u') ↔ ∃ a v, x.run u = (.ok a, v) ∧ (f a).run v = (.ok b, u') := by
  change (x.run >>= ExceptT.bindCont f) u = (.ok b, u') ↔ _
  rw [bind_eq_iff]
  constructor
  · rintro ⟨r, v, hx, hf⟩
    cases r with
    | ok a => exact ⟨a, v, hx, hf⟩
    | error fault => cases (pure_eq_iff.1 hf).1
  · rintro ⟨a, v, hx, hf⟩
    exact ⟨.ok a, v, hx, hf⟩

theorem run_step_eq_ok_iff {σ φ α : Type} {tell : φ → RunFault} {action : StateM σ (Except φ α)}
    {a : α} {u u' : σ} :
    (Program.step tell action).run u = (.ok a, u') ↔ action u = (.ok a, u') := by
  change (action >>= fun r => pure (r.mapError tell)) u = (.ok a, u') ↔ _
  rw [bind_eq_iff]
  constructor
  · rintro ⟨r, v, haction, hr⟩
    obtain ⟨hr, rfl⟩ := pure_eq_iff.1 hr
    cases r with
    | ok b =>
      cases hr
      exact haction
    | error fault => cases hr
  · intro haction
    exact ⟨.ok a, u', haction, rfl⟩

/-- A download command that succeeds prints the result of a download that succeeds. -/
theorem download_of_run {inv : Invocation} {around : Surroundings} {url text : String}
    {checksums : List (String × String)} {transfer : TransferOptions}
    (hcommand : inv.command = .download url checksums transfer)
    (h : (inv.run around : ExceptT RunFault (StateM (World ε)) String).run w = (.ok text, w')) :
    ∃ settings v result, (download settings ⟨url, transfer.outputDir, Dict.ofList checksums⟩ :
        StateM (World ε) _) v = (.ok result, w') ∧ text = textOfLines result.lines := by
  obtain ⟨loaded, v, -, h⟩ := run_bind_eq_ok_iff.1 h
  rw [hcommand] at h
  obtain ⟨result, v', hfetch, h⟩ := run_bind_eq_ok_iff.1 h
  obtain ⟨htext, rfl⟩ := pure_eq_iff.1 h
  cases htext
  exact ⟨_, v, result, run_step_eq_ok_iff.1 hfetch, rfl⟩

/-- **A download command that succeeds has enforced the digests of its command line exactly if they
are enforceable:** not if all of them are bare, nor if two of one known name differ. What it prints
are the lines of its result. -/
theorem run_enforced_iff {args : List String} {inv : Invocation} {around : Surroundings}
    {url text : String} {checksums : List (String × String)} {transfer : TransferOptions}
    (hparse : Invocation.parse? args = .ok inv)
    (hcommand : inv.command = .download url checksums transfer) (hne : checksums ≠ [])
    (h : (inv.run around : ExceptT RunFault (StateM (World ε)) String).run w = (.ok text, w')) :
    ∃ settings v result, (download settings ⟨url, transfer.outputDir, Dict.ofList checksums⟩ :
        StateM (World ε) _) v = (.ok result, w') ∧ text = textOfLines result.lines ∧
      (Enforced checksums result w' ↔ Enforceable checksums) := by
  obtain ⟨settings, v, result, hdownload, htext⟩ := download_of_run hcommand h
  have hdigits : ∀ c ∈ checksums, c.2 ≠ "" := fun c hc => by
    obtain ⟨given, hgiven⟩ := readDigest_of_mem_checksums hparse hcommand c hc
    exact CommandLine.ne_empty_of_readDigest hgiven
  obtain ⟨u, path, updated, hverified⟩ := verified_of_download hdownload
  obtain ⟨-, hpasses⟩ := verified_cases hverified
  exact ⟨settings, v, result, hdownload, htext,
    (hpasses result rfl).2.2.enforced_iff hne hdigits⟩

end Runs

/-! ### A lone bare digest -/

/-- A download of the greeting by its path. -/
def greetingInvocation (checksums : List (String × String)) : Invocation :=
  ⟨0, false, none, .download "agent" checksums ⟨some ⟨"out"⟩, none, none⟩⟩

theorem run_greeting {checksums : List (String × String)} {outcome : Verification}
    (hpasses : (greeting [["out"]]).Passes ⟨"agent"⟩ (Dict.ofList checksums) outcome) :
    ((greetingInvocation checksums).run ⟨none, ⟨"tmp"⟩, "x86_64"⟩ :
        ExceptT RunFault (StateM (World Script)) String).run (greeting []) =
      (.ok (textOfLines (FetchResult.lines ⟨⟨"agent"⟩, false, outcome⟩)), greeting [["out"]]) := by
  refine run_bind_eq_ok_iff.2 ⟨⟨none, none⟩, greeting [], rfl, ?_⟩
  refine run_bind_eq_ok_iff.2 ⟨⟨⟨"agent"⟩, false, outcome⟩, greeting [["out"]], ?_, rfl⟩
  exact run_step_eq_ok_iff.2 (download_greeting _ hpasses)

theorem run_enforced_iff_greeting :
    ∃ settings v result, (download settings ⟨"agent", some ⟨"out"⟩, Dict.ofList greetingDigests.pairs⟩ :
        StateM (World Script) _) v = (.ok result, greeting [["out"]]) ∧
      Enforced greetingDigests.pairs result (greeting [["out"]]) := by
  have hparse : Invocation.parse? ["download", "agent", "--checksum", "CRC32=0", "--checksum",
      "md5= 5D41402ABC4B2A76B9719D911017C592", "-o", "out"] =
        .ok (greetingInvocation greetingDigests.pairs) :=
    eq_ok_of_toOption (by decide +kernel)
  have hdict : Dict.ofList greetingDigests.pairs = greetingDigests := by decide +kernel
  obtain ⟨settings, v, result, hdownload, -, hiff⟩ := run_enforced_iff hparse rfl
    (List.cons_ne_nil _ _) (run_greeting (hdict ▸ passes_greeting))
  have hnamed : ∃ c ∈ greetingDigests.pairs, c.1 ≠ "" := by decide +kernel
  have hunique : ∀ c ∈ greetingDigests.pairs, ∀ c' ∈ greetingDigests.pairs, c.1 = c'.1 → c = c' := by
    decide +kernel
  refine ⟨settings, v, result, hdownload, hiff.2 ⟨hnamed, fun c hc c' hc' hname _ => ?_⟩⟩
  rw [hunique c hc c' hc' hname]
  exact beq_self_eq_true _

/-- A lone digest without a name is taken for no digest: the command succeeds with any file. -/
theorem not_enforced_greeting :
    ∃ result : FetchResult,
      Invocation.parse? ["download", "agent", "--checksum", "0", "-o", "out"] =
        .ok (greetingInvocation [("", "0")]) ∧
      ((greetingInvocation [("", "0")]).run ⟨none, ⟨"tmp"⟩, "x86_64"⟩ :
          ExceptT RunFault (StateM (World Script)) String).run (greeting []) =
        (.ok (textOfLines result.lines), greeting [["out"]]) ∧
      ¬ Enforced [("", "0")] result (greeting [["out"]]) := by
  have hdict : (Dict.ofList [("", "0")]).pairs = [("", "0")] := by decide +kernel
  have hpasses : (greeting [["out"]]).Passes ⟨"agent"⟩ (Dict.ofList [("", "0")]) .skipped :=
    .inl ⟨.inr ⟨"", "0", hdict, .inl rfl⟩, rfl⟩
  refine ⟨⟨⟨"agent"⟩, false, .skipped⟩, eq_ok_of_toOption (by decide +kernel),
    run_greeting hpasses, fun henforced => ?_⟩
  exact henforced.verified ⟨("", "0"), List.mem_cons_self, isSome_ofName?_empty⟩ rfl

end Depot
