import Depot.CommandLine.Invocation
import Depot.Proofs.Except

/-!
# Where the values of a command line come from

Scanning a command line only ever adds values to those that have been taken, and every value that it
adds was read as the option or the operand of its name asks for. What an option checks of its values
is therefore true of all values under its name when the command is carried out.

## Main definitions

* `CommandSpec.Offers` : the options and operands of a command, with what they do.
* `ReadAs` : a value was read for an option or an operand.
* `Scan.Follows` : all that has been taken was read so.
* `TransferOptions.InRange` : numbers for a transfer that a command line may hold.

## Main results

* `Scan.Follows.run` : a scan of arguments keeps to what its command offers.
* `readDigest_of_mem_checksums` : the digests of a download are such that a text denotes them.
* `inRange_of_transfer?` : the numbers for a transfer are in their ranges.
-/

namespace Depot.CommandLine

/-! ### What a command offers -/

/-- A command has an option or an operand of a name, which does something. An operand takes a value,
once. -/
def CommandSpec.Offers (spec : CommandSpec) (name : String) (action : OptionAction) : Prop :=
  (∃ o ∈ spec.options, o.name = name ∧ o.action = action) ∨
    ∃ o ∈ spec.operands, o.name = name ∧ .set o.kind = action

/-- A value was read for an option or an operand of a name, or counts an option. -/
def ReadAs (spec : CommandSpec) (name : String) (v : OptionValue) : Prop :=
  ∃ action, spec.Offers name action ∧
    ((action = .count ∧ v = .number 1) ∨
      ∃ kind text, action.kind? = some kind ∧ kind.read text = .ok v)

namespace Scan

/-- A scan keeps to what its command offers. -/
structure Follows (spec : CommandSpec) (s : Scan) : Prop where
  readAs : ∀ name, ∀ v ∈ s.values name, ReadAs spec name v
  pending : ∀ p, s.pending = some p → spec.Offers p.name p.action
  operands : s.operands ⊆ spec.operands

variable {spec : CommandSpec} {s s' : Scan}

theorem values_add (s : Scan) (name : String) (vs : List OptionValue) (n : String) :
    (s.add name vs).values n = if name = n then s.values name ++ vs else s.values n := by
  rw [values, add, Assoc.get?_insert]
  split <;> rfl

theorem follows_start (spec : CommandSpec) : (start spec).Follows spec where
  readAs _ _ hv := by cases hv
  pending _ hp := by cases hp
  operands := List.Subset.refl _

namespace Follows

theorem add (h : s.Follows spec) {name : String} {vs : List OptionValue}
    (hvs : ∀ v ∈ vs, ReadAs spec name v) : (s.add name vs).Follows spec where
  readAs n v hv := by
    rw [values_add] at hv
    split at hv
    · next hn =>
      subst hn
      exact (List.mem_append.1 hv).elim (h.readAs name v) (hvs v)
    · exact h.readAs n v hv
  pending := h.pending
  operands := h.operands

theorem take (h : s.Follows spec) {name : String} {action : OptionAction} {value : Option String}
    (hoffers : spec.Offers name action) (hs : s.take name action value = .ok s') :
    s'.Follows spec := by
  have hread : ∀ {kind : ValueKind} {text : String} {v : OptionValue}, action.kind? = some kind →
      kind.read text = .ok v → ∀ u ∈ [v], ReadAs spec name u := by
    intro kind text v hkind hv u hu
    rw [List.mem_singleton.1 hu]
    exact ⟨action, hoffers, .inr ⟨kind, text, hkind, hv⟩⟩
  unfold Scan.take at hs
  split at hs
  · cases hs
  · cases hs
  · split at hs
    · cases hs
    · cases hs
      exact h.add fun v hv => by cases hv
  · cases hs
    refine h.add fun v hv => ?_
    rw [List.mem_singleton.1 hv]
    exact ⟨.count, hoffers, .inl ⟨rfl, rfl⟩⟩
  · cases hs
  · cases hs
  · split at hs
    · cases hs
    · obtain ⟨v, hv, rfl⟩ := map_eq_ok_iff.1 hs
      exact h.add (hread rfl hv)
  · obtain ⟨v, hv, rfl⟩ := map_eq_ok_iff.1 hs
    exact h.add (hread rfl hv)

theorem settle (h : s.Follows spec) (hs : s.settle = .ok s') : s'.Follows spec := by
  unfold Scan.settle at hs
  cases hp : s.pending with
  | none =>
    rw [hp] at hs
    cases hs
    exact ⟨h.readAs, fun _ hnone => (by cases hnone), h.operands⟩
  | some p =>
    rw [hp] at hs
    have hbare : ({ s with pending := none, awaiting := false } : Scan).Follows spec :=
      ⟨h.readAs, fun _ hnone => (by cases hnone), h.operands⟩
    exact hbare.take (h.pending p hp) hs

theorem takeOption (h : s.Follows spec) {o : OptionSpec} {attached : Option String}
    (ho : o ∈ spec.options) (hs : s.takeOption o attached = .ok s') : s'.Follows spec := by
  have hoffers : spec.Offers o.name o.action := .inl ⟨o, ho, rfl, rfl⟩
  obtain ⟨t, ht, hs⟩ := bind_eq_ok_iff.1 hs
  replace ht := h.settle ht
  split at hs
  · cases hs
    refine ⟨ht.readAs, ?_, ht.operands⟩
    rintro _ ⟨⟩
    exact hoffers
  · exact ht.take hoffers hs

theorem takeLong (h : s.Follows spec) {name : String} {attached : Option String}
    (hs : s.takeLong spec name attached = .ok s') : s'.Follows spec := by
  unfold Scan.takeLong at hs
  split at hs
  · cases hs
  · next o ho =>
    split at hs
    · cases hs
    · exact h.takeOption (List.mem_of_find?_eq_some ho) hs

theorem takeLetters {cs : List Char} (h : s.Follows spec) (hs : s.takeLetters spec cs = .ok s') :
    s'.Follows spec := by
  induction cs generalizing s with
  | nil =>
    cases hs
    exact h
  | cons c rest ih =>
    unfold Scan.takeLetters at hs
    split at hs
    · cases hs
    next o ho =>
    have hmem := List.mem_of_find?_eq_some ho
    split at hs
    · obtain ⟨t, ht, hs⟩ := bind_eq_ok_iff.1 hs
      exact ih (h.takeOption hmem ht) hs
    · split at hs <;> exact h.takeOption hmem hs

theorem takeOperand (h : s.Follows spec) {arg : String} (hs : s.takeOperand spec arg = .ok s') :
    s'.Follows spec := by
  unfold Scan.takeOperand at hs
  split at hs
  · next o rest ho =>
    obtain ⟨t, ht, hs⟩ := bind_eq_ok_iff.1 hs
    have hsub : o :: rest ⊆ spec.operands := ho ▸ h.operands
    cases hs
    refine ⟨(h.settle ht).readAs, ?_, fun o' ho' => hsub (List.mem_cons_of_mem _ ho')⟩
    rintro _ ⟨⟩
    exact .inr ⟨o, hsub List.mem_cons_self, rfl, rfl⟩
  · split at hs <;> cases hs

theorem takePlain (h : s.Follows spec) {arg : String} (hs : s.takePlain spec arg = .ok s') :
    s'.Follows spec := by
  unfold Scan.takePlain at hs
  split at hs
  · next p _ hp =>
    cases hs
    refine ⟨h.readAs, ?_, h.operands⟩
    rintro _ ⟨⟩
    exact h.pending p hp
  · exact h.takeOperand hs

/-- An argument adds only values that were read for what it names. -/
theorem takeArgument (h : s.Follows spec) {arg : String} (hs : s.takeArgument spec arg = .ok s') :
    s'.Follows spec := by
  unfold Scan.takeArgument at hs
  split at hs
  · exact h.takeOperand hs
  · split at hs
    · cases hs
      exact ⟨h.readAs, h.pending, h.operands⟩
    · exact h.takeLong hs
    · exact h.takeLetters hs
    · exact h.takePlain hs

/-- **A scan of arguments keeps to what its command offers.** -/
theorem run {args : List String} {further : Option (String × List String)} (h : s.Follows spec)
    (hs : run spec s args = .ok (s', further)) : s'.Follows spec := by
  induction args generalizing s with
  | nil =>
    cases hs
    exact h
  | cons arg rest ih =>
    unfold Scan.run at hs
    split at hs
    · cases hs
      exact h
    · obtain ⟨t, ht, hs⟩ := bind_eq_ok_iff.1 hs
      exact ih (h.takeArgument ht) hs

end Follows

end Scan

/-! ### Digests -/

theorem eq_digest_of_read {kind : ValueKind} {text algorithm digits : String}
    (h : kind.read text = .ok (.digest algorithm digits)) :
    readDigest text = some (algorithm, digits) := by
  cases kind with
  | text => cases h
  | path =>
    simp only [ValueKind.read] at h
    split at h <;> cases h
  | number least greatest =>
    simp only [ValueKind.read] at h
    split at h
    · split at h <;> cases h
    · cases h
  | digest =>
    simp only [ValueKind.read] at h
    split at h
    · next hread =>
      cases h
      exact hread
    · cases h

/-- A digest that is read has digits. -/
theorem ne_empty_of_readDigest {text algorithm digits : String}
    (h : readDigest text = some (algorithm, digits)) : digits ≠ "" := by
  simp only [readDigest] at h
  split at h
  · cases h
  · next hne =>
    cases h
    intro hempty
    rw [String.ofList_eq_empty_iff] at hempty
    exact hne (List.isEmpty_iff.2 hempty)

/-- Every digest that a scan has taken was read as one. -/
theorem Scan.Follows.readDigest {spec : CommandSpec} {s : Scan} (h : s.Follows spec) {name : String}
    {c : String × String} (hc : c ∈ s.digests name) : ∃ text, readDigest text = some c := by
  obtain ⟨v, hv, heq⟩ := List.mem_filterMap.1 hc
  cases v with
  | text _ => cases heq
  | number _ => cases heq
  | digest algorithm digits =>
    cases heq
    obtain ⟨action, -, ⟨-, hcount⟩ | ⟨kind, text, -, hread⟩⟩ := h.readAs name _ hv
    · cases hcount
    · exact ⟨text, eq_digest_of_read hread⟩

theorem Scan.eq_digests_of_command {s : Scan} {name operand url : String}
    {checksums : List (String × String)} {transfer : TransferOptions}
    (h : s.command name operand = .download url checksums transfer) :
    checksums = s.digests "checksum" := by
  unfold Scan.command at h
  split at h
  · cases h
    rfl
  · cases h
  · cases h
  · cases h
  · cases h

/-- A command that was scanned is made of what was read for its options and its operand. -/
theorem exists_of_scanCommand {name : String} {args : List String} {s : Scan} {command : Command}
    (h : scanCommand name args = .ok (s, command)) :
    s.Follows (specOf name) ∧ ∃ operand, command = s.command name operand := by
  obtain ⟨⟨t, further⟩, hrun, h⟩ := bind_eq_ok_iff.1 h
  obtain ⟨t', hsettle, h⟩ := bind_eq_ok_iff.1 h
  have hfollows := ((Scan.follows_start _).run hrun).settle hsettle
  split at h
  · next operand hoperand =>
    obtain ⟨rfl, rfl⟩ := Prod.mk.inj (Except.ok.inj h)
    exact ⟨hfollows, operand, rfl⟩
  · cases h

/-- A command line that denotes an invocation has been scanned for its command. -/
theorem exists_scanCommand {args : List String} {inv : Invocation}
    (h : Invocation.parse? args = .ok inv) :
    ∃ name rest s, scanCommand name rest = .ok (s, inv.command) := by
  obtain ⟨⟨outer, further⟩, -, h⟩ := bind_eq_ok_iff.1 h
  match further with
  | none =>
    obtain ⟨t, -, h⟩ := bind_eq_ok_iff.1 h
    cases h
  | some (name, rest) =>
    simp only at h
    split at h
    · next heq => cases heq
    · cases h
    · next heq =>
      cases heq
      obtain ⟨⟨s, command⟩, hscan, h⟩ := bind_eq_ok_iff.1 h
      obtain ⟨t, -, h⟩ := bind_eq_ok_iff.1 h
      cases h
      exact ⟨name, rest, s, hscan⟩

/-! ### Numbers -/

/-- A number that is read for an option is one that lies within the bounds of the option. -/
theorem eq_number_of_read {kind : ValueKind} {text : String} {n : Nat}
    (h : kind.read text = .ok (.number n)) :
    ∃ least greatest, kind = .number least greatest ∧ least ≤ n ∧ n ≤ greatest := by
  cases kind with
  | text => cases h
  | path =>
    simp only [ValueKind.read] at h
    split at h <;> cases h
  | number least greatest =>
    simp only [ValueKind.read] at h
    split at h
    · split at h
      · next hbounds =>
        cases h
        exact ⟨least, greatest, rfl, hbounds⟩
      · cases h
    · cases h
  | digest =>
    simp only [ValueKind.read] at h
    split at h <;> cases h

/-- A number that a scan has taken under a name lies within the bounds of the only option of this
name. -/
theorem Scan.Follows.number?_bounds {spec : CommandSpec} {s : Scan} (h : s.Follows spec)
    {name : String} {least greatest n : Nat}
    (hoffers : ∀ action, spec.Offers name action → action = .set (.number least greatest))
    (hn : s.number? name = some n) : least ≤ n ∧ n ≤ greatest := by
  obtain ⟨v, hv, heq⟩ := List.exists_of_findSome?_eq_some hn
  cases v with
  | text _ => cases heq
  | digest _ _ => cases heq
  | number m =>
    cases heq
    obtain ⟨action, haction, ⟨hcount, -⟩ | ⟨kind, text, hkind, hread⟩⟩ := h.readAs name _ hv
    · cases hcount.symm.trans (hoffers action haction)
    · rw [hoffers action haction] at hkind
      cases hkind
      obtain ⟨_, _, ⟨⟩, hbounds⟩ := eq_number_of_read hread
      exact hbounds

/-- Every command that has an option for transfers has no other one of this name. -/
theorem eq_action_of_offers {command : String} {action : OptionAction} :
    ∀ o ∈ transferOptions, (specOf command).Offers o.name action → action = o.action := by
  have hspec : ∀ o ∈ transferOptions,
      (∀ p ∈ (specOf command).options, p.name = o.name → p.action = o.action) ∧
        ∀ p ∈ (specOf command).operands, p.name ≠ o.name := by
    unfold specOf
    split
    next heq =>
      split at heq
      all_goals
        cases heq
        decide
  rintro o ho (⟨p, hp, hname, rfl⟩ | ⟨p, hp, hname, -⟩)
  · exact (hspec o ho).1 p hp hname
  · exact absurd hname ((hspec o ho).2 p hp)

end Depot.CommandLine

namespace Depot

open CommandLine

/-- **Every digest of a download command was read as a digest,** whatever stands on its command
line. -/
theorem readDigest_of_mem_checksums {args : List String} {inv : Invocation} {url : String}
    {checksums : List (String × String)} {transfer : TransferOptions}
    (hparse : Invocation.parse? args = .ok inv)
    (hcommand : inv.command = .download url checksums transfer) :
    ∀ c ∈ checksums, ∃ text, readDigest text = some c := by
  obtain ⟨name, rest, s, hscan⟩ := exists_scanCommand hparse
  obtain ⟨hfollows, operand, hmade⟩ := exists_of_scanCommand hscan
  rw [Scan.eq_digests_of_command (hmade.symm.trans hcommand)]
  exact fun c => hfollows.readDigest

/-- The options for transfers of a command that has them. -/
def Command.transfer? : Command → Option TransferOptions
  | .download _ _ transfer | .fetchPackage _ _ _ _ _ transfer => some transfer
  | .parseUrl _ | .selectVariant .. | .latestVersion .. => none

/-- The numbers among the options for transfers are such that a command line may hold them. -/
structure TransferOptions.InRange (transfer : TransferOptions) : Prop where
  maxRetries : ∀ n ∈ transfer.maxRetries, 1 ≤ n ∧ n ≤ 100
  retryIntervalMs : ∀ n ∈ transfer.retryIntervalMs, 1 ≤ n ∧ n ≤ 10000

theorem CommandLine.Scan.transfer?_command {s : Scan} {name operand : String}
    {transfer : TransferOptions} (h : (s.command name operand).transfer? = some transfer) :
    transfer = s.transfer := by
  unfold Scan.command at h
  split at h <;> cases h <;> rfl

/-- **The numbers for a transfer on a command line are in their ranges,** whatever else stands on
it. -/
theorem inRange_of_transfer? {args : List String} {inv : Invocation} {transfer : TransferOptions}
    (hparse : Invocation.parse? args = .ok inv)
    (htransfer : inv.command.transfer? = some transfer) :
    transfer.InRange := by
  obtain ⟨name, rest, s, hscan⟩ := exists_scanCommand hparse
  obtain ⟨hfollows, operand, hmade⟩ := exists_of_scanCommand hscan
  obtain rfl : transfer = s.transfer := Scan.transfer?_command (hmade ▸ htransfer)
  exact {
    maxRetries := fun n => hfollows.number?_bounds fun action =>
      eq_action_of_offers ⟨"max-retries", some 'r', .set (.number 1 100)⟩ (by decide)
    retryIntervalMs := fun n => hfollows.number?_bounds fun action =>
      eq_action_of_offers ⟨"retry-interval-ms", none, .set (.number 1 10000)⟩ (by decide) }

end Depot
