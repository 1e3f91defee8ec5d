import Mathlib.Logic.Function.Iterate
import Depot.Proofs.Fetch.Integrity
import Depot.Proofs.Text.ByteOrder

/-!
# The verdict on a file

What a verification answers, over any store of files. The entries whose algorithm is known are taken
in the order of the bytes of their names. Each of them has the file read once more, and the first one
that finds the file unreadable or with another digest decides. The store may answer the reads as it
likes, so each entry is held against the read that is made for it.

## Main definitions

* `HashAlgorithm.IsKnown`, `HashAlgorithm.ofKnown` : the names of algorithms, and what they stand for.
* `knownEntries` : the entries that count.
* `nthRead`, `afterReads` : what the reads of a file one after the other answer and leave.
* `AllMatch` : every entry finds its digest at its own read.
* `Verdict` : the ways in which a verification ends, with what it answers and leaves.

## Main results

* `verify_of_verdict`, `exists_verdict` : a verification ends as a verdict says, and one applies.
* `verdict_iff` : the answer of a verification is the verdict on the file.
-/

namespace Depot

namespace HashAlgorithm

/-- The names that stand for an algorithm, in any case and with blanks about them. -/
def IsKnown (name : String) : Prop :=
  Text.asciiLower (Text.trim name) ∈ ["", "sha256", "md5"]

instance : DecidablePred IsKnown := fun name =>
  inferInstanceAs (Decidable (Text.asciiLower (Text.trim name) ∈ ["", "sha256", "md5"]))

/-- The algorithm that a known name stands for. -/
def ofKnown (name : String) : HashAlgorithm :=
  if Text.asciiLower (Text.trim name) = "md5" then md5 else sha256

theorem ofName?_of_isKnown {name : String} (h : IsKnown name) : ofName? name = some (ofKnown name) := by
  simp only [IsKnown, List.mem_cons, List.not_mem_nil, or_false] at h
  rcases h with h | h | h <;> simp [ofName?, ofKnown, h]

theorem ofName?_of_not_isKnown {name : String} (h : ¬ IsKnown name) : ofName? name = none := by
  simp only [IsKnown, List.mem_cons, List.not_mem_nil, or_false, not_or] at h
  obtain ⟨hempty, hsha, hmd⟩ := h
  unfold ofName?
  split
  · next heq => exact absurd heq hempty
  · next heq => exact absurd heq hsha
  · next heq => exact absurd heq hmd
  · rfl

end HashAlgorithm

open HashAlgorithm

/-- The entries whose algorithm is known. -/
def knownEntries (pairs : List (String × String)) : List (String × String) :=
  pairs.filter fun entry => IsKnown entry.1

/-- The digest of some bytes is the one of an entry, up to blanks about it and the case of its
letters. -/
def HasDigest (bytes : Bytes) (entry : String × String) : Prop :=
  ((ofKnown entry.1).hexDigest bytes).toList.map Char.toLower =
    (Text.trim entry.2).toList.map Char.toLower

variable {σ : Type} [FileStore (StateM σ)] {path : Path} {s s' : σ}

/-- The store after some reads of a file. -/
def afterReads (path : Path) (s : σ) (n : Nat) : σ :=
  (fun s => ((FileStore.readBytes path : StateM σ _) s).2)^[n] s

/-- The answer to a read of a file that follows some others. -/
def nthRead (path : Path) (s : σ) (n : Nat) : Except IoFault Bytes :=
  ((FileStore.readBytes path : StateM σ _) (afterReads path s n)).1

/-- Every entry finds its digest at the read that is made for it. -/
def AllMatch (path : Path) (s : σ) (entries : List (String × String)) : Prop :=
  ∀ k entry, entries[k]? = some entry →
    ∃ bytes, nthRead path s k = .ok bytes ∧ HasDigest bytes entry

/-- The ways in which a verification ends, with its answer and the store that it leaves. -/
inductive Verdict (checksums : Dict String) (path : Path) (s : σ) :
    Except ChecksumFault Verification → σ → Prop
  /-- Nothing is asked for, and the file is not read. -/
  | skipped (hskip : SkipForm checksums) : Verdict checksums path s (.ok .skipped) s
  /-- No algorithm is known, and the file is not read. -/
  | unsupported (hasks : ¬ SkipForm checksums) (hnone : knownEntries checksums.pairs = []) :
      Verdict checksums path s (.error .noSupportedAlgorithm) s
  /-- The first entry that does not find its digest could not have the file read. -/
  | unreadable {before after : List (String × String)} {entry : String × String} {fault : IoFault}
      (hasks : ¬ SkipForm checksums)
      (hknown : knownEntries checksums.pairs = before ++ entry :: after)
      (hbefore : AllMatch path s before) (hread : nthRead path s before.length = .error fault) :
      Verdict checksums path s (.error (.io path fault)) (afterReads path s (before.length + 1))
  /-- The first entry that does not find its digest finds another one. -/
  | mismatched {before after : List (String × String)} {name expected : String} {bytes : Bytes}
      (hasks : ¬ SkipForm checksums)
      (hknown : knownEntries checksums.pairs = before ++ (name, expected) :: after)
      (hbefore : AllMatch path s before) (hread : nthRead path s before.length = .ok bytes)
      (hdiffers : ¬ HasDigest bytes (name, expected)) :
      Verdict checksums path s
        (.error (.mismatch (ofKnown name).name expected ((ofKnown name).hexDigest bytes)))
        (afterReads path s (before.length + 1))
  /-- Every entry finds its digest, and there is one. -/
  | matched (hasks : ¬ SkipForm checksums) (hsome : knownEntries checksums.pairs ≠ [])
      (hall : AllMatch path s (knownEntries checksums.pairs)) :
      Verdict checksums path s
        (.ok (.matched ((knownEntries checksums.pairs).map fun entry => ofKnown entry.1)))
        (afterReads path s (knownEntries checksums.pairs).length)

/-! ### Reads one after the other -/

theorem readBytes_afterReads {read : Except IoFault Bytes} {n : Nat}
    (h : nthRead path s n = read) :
    (FileStore.readBytes path : StateM σ _) (afterReads path s n) =
      (read, afterReads path s (n + 1)) := by
  refine Prod.ext h ?_
  rw [afterReads, afterReads, Function.iterate_succ_apply']

theorem afterReads_succ (path : Path) (s : σ) (n : Nat) :
    afterReads path s (n + 1) = afterReads path (afterReads path s 1) n :=
  Function.iterate_succ_apply _ n s

theorem nthRead_succ (path : Path) (s : σ) (n : Nat) :
    nthRead path s (n + 1) = nthRead path (afterReads path s 1) n := by
  rw [nthRead, afterReads_succ]
  rfl

theorem allMatch_nil : AllMatch path s [] := by
  intro k entry hentry
  cases hentry

theorem allMatch_cons {entry : String × String} {rest : List (String × String)} :
    AllMatch path s (entry :: rest) ↔
      (∃ bytes, nthRead path s 0 = .ok bytes ∧ HasDigest bytes entry) ∧
        AllMatch path (afterReads path s 1) rest := by
  constructor
  · intro h
    refine ⟨h 0 entry rfl, fun k e he => ?_⟩
    rw [← nthRead_succ]
    exact h (k + 1) e he
  · rintro ⟨hfirst, hrest⟩ k e he
    cases k with
    | zero =>
      cases he
      exact hfirst
    | succ k =>
      rw [nthRead_succ]
      exact hrest k e he

/-- Either all entries find their digests, or there is a first one that does not. -/
theorem allMatch_or_first (path : Path) (s : σ) (entries : List (String × String)) :
    AllMatch path s entries ∨ ∃ before entry after, entries = before ++ entry :: after ∧
      AllMatch path s before ∧
        ¬ ∃ bytes, nthRead path s before.length = .ok bytes ∧ HasDigest bytes entry := by
  induction entries generalizing s with
  | nil => exact .inl allMatch_nil
  | cons entry rest ih =>
    by_cases hfirst : ∃ bytes, nthRead path s 0 = .ok bytes ∧ HasDigest bytes entry
    · rcases ih (afterReads path s 1) with hall | ⟨before, other, after, rfl, hbefore, hother⟩
      · exact .inl (allMatch_cons.2 ⟨hfirst, hall⟩)
      · refine .inr ⟨entry :: before, other, after, rfl, allMatch_cons.2 ⟨hfirst, hbefore⟩, ?_⟩
        rwa [List.length_cons, nthRead_succ]
    · exact .inr ⟨[], entry, rest, rfl, allMatch_nil, hfirst⟩

/-! ### The entries in their order -/

theorem digestMatches_iff {bytes : Bytes} {name expected : String} :
    digestMatches ((ofKnown name).hexDigest bytes) expected = true ↔
      HasDigest bytes (name, expected) :=
  Text.eqIgnoringAsciiCase_iff

theorem isKnown_of_mem {pairs : List (String × String)} {entry : String × String}
    (h : entry ∈ knownEntries pairs) : IsKnown entry.1 :=
  of_decide_eq_true (List.mem_filter.1 h).2

/-- Entries of algorithms that are not known do not count. -/
theorem matchAll_knownEntries (path : Path) (pairs : List (String × String)) :
    (matchAll path (knownEntries pairs) : StateM σ _) = matchAll path pairs := by
  induction pairs with
  | nil => rfl
  | cons entry rest ih =>
    obtain ⟨name, expected⟩ := entry
    by_cases hname : IsKnown name
    · rw [knownEntries, List.filter_cons_of_pos (by simpa using hname), ← knownEntries]
      simp only [matchAll, ofName?_of_isKnown hname, ih]
    · rw [knownEntries, List.filter_cons_of_neg (by simpa using hname), ← knownEntries, ih]
      simp only [matchAll, ofName?_of_not_isKnown hname]

theorem computeDigest_of_read {a : HashAlgorithm} {read : Except IoFault Bytes}
    (h : (FileStore.readBytes path : StateM σ _) s = (read, s')) :
    (computeDigest a path : StateM σ _) s =
      (match read with
        | .ok bytes => .ok (a.hexDigest bytes)
        | .error fault => .error (.io path fault), s') := by
  refine bind_eq_iff.2 ⟨_, _, h, ?_⟩
  cases read <;> rfl

/-- An entry that cannot have the file read ends the matter. -/
theorem matchAll_unreadable {entry : String × String} {rest : List (String × String)}
    {fault : IoFault} (hname : IsKnown entry.1)
    (hread : (FileStore.readBytes path : StateM σ _) s = (.error fault, s')) :
    (matchAll path (entry :: rest) : StateM σ _) s = (.error (.io path fault), s') := by
  simp only [matchAll, ofName?_of_isKnown hname]
  exact bind_eq_iff.2 ⟨_, _, computeDigest_of_read hread, rfl⟩

/-- An entry that finds another digest ends the matter. -/
theorem matchAll_mismatched {name expected : String} {rest : List (String × String)} {bytes : Bytes}
    (hname : IsKnown name)
    (hread : (FileStore.readBytes path : StateM σ _) s = (.ok bytes, s'))
    (hdiffers : ¬ HasDigest bytes (name, expected)) :
    (matchAll path ((name, expected) :: rest) : StateM σ _) s =
      (.error (.mismatch (ofKnown name).name expected ((ofKnown name).hexDigest bytes)), s') := by
  simp only [matchAll, ofName?_of_isKnown hname]
  refine bind_eq_iff.2 ⟨_, _, computeDigest_of_read hread, ?_⟩
  simp only [if_neg (mt digestMatches_iff.1 hdiffers)]
  rfl

/-- Entries that find their digests are passed, and their algorithms are listed before those of the
others. -/
theorem matchAll_append {before : List (String × String)} (rest : List (String × String))
    {r : Except ChecksumFault (List HashAlgorithm)} (hknown : ∀ entry ∈ before, IsKnown entry.1)
    (hall : AllMatch path s before)
    (hrest : (matchAll path rest : StateM σ _) (afterReads path s before.length) = (r, s')) :
    (matchAll path (before ++ rest) : StateM σ _) s =
      (r.map ((before.map fun entry => ofKnown entry.1) ++ ·), s') := by
  induction before generalizing s with
  | nil =>
    refine hrest.trans (Prod.ext ?_ rfl)
    cases r <;> rfl
  | cons entry before ih =>
    obtain ⟨name, expected⟩ := entry
    obtain ⟨⟨bytes, hread, hdigest⟩, hbefore⟩ := allMatch_cons.1 hall
    have hname : IsKnown name := hknown (name, expected) List.mem_cons_self
    rw [List.length_cons, afterReads_succ] at hrest
    have hothers := ih (fun e he => hknown e (List.mem_cons_of_mem _ he)) hbefore hrest
    have hdone : (FileStore.readBytes path : StateM σ _) s = (.ok bytes, afterReads path s 1) :=
      readBytes_afterReads hread
    simp only [List.cons_append, matchAll, ofName?_of_isKnown hname]
    refine bind_eq_iff.2 ⟨_, _, computeDigest_of_read hdone, ?_⟩
    simp only [if_pos (digestMatches_iff.2 hdigest)]
    refine bind_eq_iff.2 ⟨_, _, hothers, pure_eq_iff.2 ⟨?_, rfl⟩⟩
    cases r <;> rfl

/-! ### Verdicts -/

theorem verifyChecksums_of_error {checksums : Dict String} {fault : ChecksumFault}
    (hasks : ¬ SkipForm checksums)
    (h : (matchAll path (knownEntries checksums.pairs) : StateM σ _) s = (.error fault, s')) :
    (verifyChecksums checksums path : StateM σ _) s = (.error fault, s') := by
  rw [matchAll_knownEntries] at h
  rw [verifyChecksums, if_neg (mt (asksNothing_iff checksums).1 hasks)]
  exact bind_eq_iff.2 ⟨_, _, h, rfl⟩

theorem verifyChecksums_of_ok {checksums : Dict String} {algorithms : List HashAlgorithm}
    (hasks : ¬ SkipForm checksums)
    (h : (matchAll path (knownEntries checksums.pairs) : StateM σ _) s = (.ok algorithms, s')) :
    (verifyChecksums checksums path : StateM σ _) s =
      (if algorithms = [] then .error .noSupportedAlgorithm else .ok (.matched algorithms), s') := by
  rw [matchAll_knownEntries] at h
  rw [verifyChecksums, if_neg (mt (asksNothing_iff checksums).1 hasks)]
  refine bind_eq_iff.2 ⟨_, _, h, ?_⟩
  cases algorithms <;> rfl

/-- A verification ends as a verdict says. -/
theorem verify_of_verdict {checksums : Dict String} {r : Except ChecksumFault Verification}
    (h : Verdict checksums path s r s') :
    (verifyChecksums checksums path : StateM σ _) s = (r, s') := by
  have hmem : ∀ {before rest}, knownEntries checksums.pairs = before ++ rest →
      ∀ entry ∈ before ++ rest, IsKnown entry.1 :=
    fun hknown entry hentry => isKnown_of_mem (hknown ▸ hentry)
  cases h with
  | skipped hskip =>
    rw [verifyChecksums, if_pos ((asksNothing_iff checksums).2 hskip)]
    rfl
  | unsupported hasks hnone =>
    have hmatch : (matchAll path (knownEntries checksums.pairs) : StateM σ _) s = (.ok [], s) := by
      rw [hnone]
      rfl
    exact verifyChecksums_of_ok hasks hmatch
  | @unreadable before after entry fault hasks hknown hbefore hread =>
    have hentry := hmem hknown entry List.mem_append_cons_self
    have hmatch := matchAll_append (entry :: after)
      (fun e he => hmem hknown e (List.mem_append_left _ he)) hbefore
      (matchAll_unreadable hentry (readBytes_afterReads hread))
    rw [← hknown] at hmatch
    exact verifyChecksums_of_error hasks hmatch
  | @mismatched before after name expected bytes hasks hknown hbefore hread hdiffers =>
    have hentry := hmem hknown (name, expected) List.mem_append_cons_self
    have hmatch := matchAll_append ((name, expected) :: after)
      (fun e he => hmem hknown e (List.mem_append_left _ he)) hbefore
      (matchAll_mismatched hentry (readBytes_afterReads hread) hdiffers)
    rw [← hknown] at hmatch
    exact verifyChecksums_of_error hasks hmatch
  | matched hasks hsome hall =>
    have hmatch := matchAll_append [] (fun e => isKnown_of_mem) hall rfl
    rw [List.append_nil] at hmatch
    refine (verifyChecksums_of_ok hasks hmatch).trans ?_
    simp only [List.append_nil, if_neg (mt List.map_eq_nil_iff.1 hsome)]

/-- A verdict applies to every file. -/
theorem exists_verdict (checksums : Dict String) (path : Path) (s : σ) :
    ∃ r s', Verdict checksums path s r s' := by
  by_cases hskip : SkipForm checksums
  · exact ⟨_, _, .skipped hskip⟩
  by_cases hnone : knownEntries checksums.pairs = []
  · exact ⟨_, _, .unsupported hskip hnone⟩
  rcases allMatch_or_first path s (knownEntries checksums.pairs) with
    hall | ⟨before, entry, after, hknown, hbefore, hfirst⟩
  · exact ⟨_, _, .matched hskip hnone hall⟩
  cases hread : nthRead path s before.length with
  | error fault => exact ⟨_, _, .unreadable hskip hknown hbefore hread⟩
  | ok bytes =>
    exact ⟨_, _, .mismatched hskip hknown hbefore hread fun hdigest => hfirst ⟨bytes, hread, hdigest⟩⟩

/-- A verification that finds its file with another digest than an entry says does not end well. -/
theorem Verdict.error_of_differs {checksums : Dict String}
    {r : Except ChecksumFault Verification} {k : Nat} {entry : String × String} {bytes : Bytes}
    (h : Verdict checksums path s r s') (hasks : ¬ SkipForm checksums)
    (hentry : (knownEntries checksums.pairs)[k]? = some entry)
    (hread : nthRead path s k = .ok bytes) (hdiffers : ¬ HasDigest bytes entry) :
    ∃ fault, r = .error fault := by
  cases h with
  | skipped hskip => exact absurd hskip hasks
  | unsupported => exact ⟨_, rfl⟩
  | unreadable => exact ⟨_, rfl⟩
  | mismatched => exact ⟨_, rfl⟩
  | matched _ _ hall =>
    obtain ⟨bytes', hread', hdigest⟩ := hall k entry hentry
    cases hread.symm.trans hread'
    exact absurd hdigest hdiffers

/-- **The answer of a verification is the verdict on the file,** over any store. Nothing asked for is
told without a look at the file. Else the entries of known algorithms count, in the order of the bytes
of their names: without one no algorithm is supported, the first one that finds the file unreadable or
with another digest is the one that is told of, and where there is none, all their algorithms are
listed. A single entry that finds another digest makes the verification fail, whatever the others
find. -/
theorem verdict_iff (checksums : Dict String) (path : Path) (s : σ) :
    (∀ r s', (verifyChecksums checksums path : StateM σ _) s = (r, s') ↔
      Verdict checksums path s r s') ∧
    (knownEntries checksums.pairs).Pairwise (fun a b => Bytes.ofText a.1 < Bytes.ofText b.1) ∧
    ∀ k entry bytes, ¬ SkipForm checksums → (knownEntries checksums.pairs)[k]? = some entry →
      nthRead path s k = .ok bytes → ¬ HasDigest bytes entry →
        ∃ fault s', (verifyChecksums checksums path : StateM σ _) s = (.error fault, s') := by
  obtain ⟨r₀, s₀, hverdict⟩ := exists_verdict checksums path s
  have hrun := verify_of_verdict hverdict
  refine ⟨fun r s' => ⟨fun h => ?_, verify_of_verdict⟩, ?_, ?_⟩
  · cases hrun.symm.trans h
    exact hverdict
  · exact checksums.pairwise_bytes.filter _
  · intro k entry bytes hasks hentry hread hdiffers
    obtain ⟨fault, rfl⟩ := hverdict.error_of_differs hasks hentry hread hdiffers
    exact ⟨fault, s₀, hrun⟩

/-- Two digests of the greeting. The name of the first one is in capitals with a blank before it, and
the second one is not that of the greeting. -/
def mixedDigests : Dict String :=
  ⟨[(" SHA256", "2CF24DBA5FB0A30E26E83B2AC5B9E29E1B161E5C1FA7425E73043362938B9824"), ("md5", "0")],
    by decide⟩

theorem verdict_iff_greeting :
    (knownEntries mixedDigests.pairs = mixedDigests.pairs ∧
      nthRead ⟨"agent"⟩ (World.greeting []).files 1 = .ok [104, 101, 108, 108, 111] ∧
      HasDigest [104, 101, 108, 108, 111] mixedDigests.pairs[0] ∧
      ¬ HasDigest [104, 101, 108, 108, 111] mixedDigests.pairs[1]) ∧
    ∃ fault s', (verifyChecksums mixedDigests ⟨"agent"⟩ : StateM MemoryFiles _)
      (World.greeting []).files = (.error fault, s') := by
  have hknown : knownEntries mixedDigests.pairs = mixedDigests.pairs := by decide +kernel
  have hread : nthRead ⟨"agent"⟩ (World.greeting []).files 1 = .ok [104, 101, 108, 108, 111] := rfl
  have hfirst : HasDigest [104, 101, 108, 108, 111] mixedDigests.pairs[0] := by
    unfold HasDigest
    decide +kernel
  have hsecond : ¬ HasDigest [104, 101, 108, 108, 111] mixedDigests.pairs[1] := by
    unfold HasDigest
    decide +kernel
  have hasks : ¬ SkipForm mixedDigests := by
    rw [← asksNothing_iff]
    decide
  refine ⟨⟨hknown, hread, hfirst, hsecond⟩, ?_⟩
  exact (verdict_iff mixedDigests ⟨"agent"⟩ (World.greeting []).files).2.2 1 _ _ hasks
    (congrArg (·[1]?) hknown) hread hsecond

end Depot
