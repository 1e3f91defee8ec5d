import Depot.Proofs.Fetch.Session

/-!
# Integrity of downloads

Verifying a file changes nothing. It passes only where no verification is asked for, or where the
file has every digest whose algorithm is known, and there is such a digest. A download that succeeds
has passed the verification of the file that it names, whichever way the file came there.

## Main definitions

* `SkipForm` : digests that ask for no verification.
* `World.Satisfies` : a file has a digest.
* `World.Passes` : a file passes a verification with some outcome.

## Main results

* `verifyChecksums_cases` : what a verification has looked at when it ends.
* `verifyChecksums_eq_ok` : a file that passes a verification is found to do so.
* `fetched_of_ok` : a source that is not on this machine is fetched.
* `download_integrity` : the file of a successful download has its digests.
-/

namespace Depot

open World

variable {ε : Type} {w w' : World ε} {path : Path}

theorem Text.eqIgnoringAsciiCase_iff {s t : String} :
    eqIgnoringAsciiCase s t = true ↔ s.toList.map Char.toLower = t.toList.map Char.toLower := by
  rw [eqIgnoringAsciiCase, beq_iff_eq, ← String.toList_inj, asciiLower, asciiLower,
    String.toList_map, String.toList_map]

/-- Digests that ask for no verification: none at all, or a single one without a name or without
digits. -/
def SkipForm (checksums : Dict String) : Prop :=
  checksums.pairs = [] ∨
    ∃ name digest, checksums.pairs = [(name, digest)] ∧ (name = "" ∨ digest = "")

theorem asksNothing_iff (checksums : Dict String) :
    asksNothing checksums = true ↔ SkipForm checksums := by
  unfold asksNothing SkipForm
  split
  · next h => exact iff_of_true rfl (.inl h)
  · next name digest h =>
    rw [Bool.or_eq_true, String.isEmpty_iff, String.isEmpty_iff, h]
    constructor
    · intro hempty
      exact .inr ⟨name, digest, rfl, hempty⟩
    · rintro (hnil | ⟨_, _, hpairs, hempty⟩)
      · cases hnil
      · cases hpairs
        exact hempty
  · next h₁ h₂ =>
    refine iff_of_false Bool.false_ne_true ?_
    rintro (h | ⟨name, digest, h, -⟩)
    · exact h₁ h
    · exact h₂ name digest h

/-- Entries of digests whose algorithm is known. -/
def knownAlgorithms (pairs : List (String × String)) : List HashAlgorithm :=
  pairs.filterMap fun entry => HashAlgorithm.ofName? entry.1

namespace World

/-- The file at a path has a digest, up to blanks about it and the case of its letters, unless the
algorithm of the digest is not known. -/
def Satisfies (w : World ε) (path : Path) (entry : String × String) : Prop :=
  ∀ a, HashAlgorithm.ofName? entry.1 = some a → ∃ bytes, w.file path.key = some bytes ∧
    Text.eqIgnoringAsciiCase (a.hexDigest bytes) (Text.trim entry.2) = true

/-- The file at a path passes the verification of some digests with an outcome. -/
def Passes (w : World ε) (path : Path) (checksums : Dict String) (outcome : Verification) : Prop :=
  (SkipForm checksums ∧ outcome = .skipped) ∨
    (¬ SkipForm checksums ∧ knownAlgorithms checksums.pairs ≠ [] ∧
      outcome = .matched (knownAlgorithms checksums.pairs) ∧
      ∀ entry ∈ checksums.pairs, w.Satisfies path entry)

theorem Satisfies.of_file_eq {entry : String × String} (hfile : w'.file path.key = w.file path.key)
    (h : w.Satisfies path entry) : w'.Satisfies path entry := by
  intro a ha
  rw [hfile]
  exact h a ha

theorem Passes.of_file_eq {checksums : Dict String} {outcome : Verification}
    (hfile : w'.file path.key = w.file path.key) (h : w.Passes path checksums outcome) :
    w'.Passes path checksums outcome :=
  h.imp id fun ⟨hskip, hknown, houtcome, hall⟩ =>
    ⟨hskip, hknown, houtcome, fun entry hentry => (hall entry hentry).of_file_eq hfile⟩

end World

/-! ### Verifications -/

variable [Outside ε]

theorem computeDigest_cases {a : HashAlgorithm} {r : Except ChecksumFault String}
    (h : (computeDigest a path : StateM (World ε) _) w = (r, w')) :
    Moves [] [] w w' ∧ ∀ actual, r = .ok actual →
      ∃ bytes, w.file path.key = some bytes ∧ actual = a.hexDigest bytes := by
  obtain ⟨read, w₁, hread, h⟩ := bind_eq_iff.1 h
  obtain ⟨hmoves, hbytes⟩ := readBytes_cases hread
  cases read with
  | ok bytes =>
    obtain ⟨rfl, rfl⟩ := pure_eq_iff.1 h
    refine ⟨hmoves, ?_⟩
    rintro _ ⟨⟩
    exact ⟨bytes, hbytes bytes rfl, rfl⟩
  | error fault =>
    obtain ⟨rfl, rfl⟩ := pure_eq_iff.1 h
    exact ⟨hmoves, fun _ hr => by cases hr⟩

/-- Entries that all match are satisfied by the file, and their algorithms are listed. -/
theorem matchAll_cases {pairs : List (String × String)}
    {r : Except ChecksumFault (List HashAlgorithm)}
    (h : (matchAll path pairs : StateM (World ε) _) w = (r, w')) :
    Moves [] [] w w' ∧ ∀ algorithms, r = .ok algorithms →
      algorithms = knownAlgorithms pairs ∧ ∀ entry ∈ pairs, w.Satisfies path entry := by
  induction pairs generalizing w r with
  | nil =>
    obtain ⟨rfl, rfl⟩ := pure_eq_iff.1 h
    refine ⟨Moves.refl w, ?_⟩
    rintro _ ⟨⟩
    exact ⟨rfl, fun entry hentry => by cases hentry⟩
  | cons entry rest ih =>
    obtain ⟨name, expected⟩ := entry
    unfold matchAll at h
    cases ha : HashAlgorithm.ofName? name with
    | none =>
      simp only [ha] at h
      obtain ⟨hmoves, hall⟩ := ih h
      refine ⟨hmoves, fun algorithms hr => ?_⟩
      obtain ⟨hlist, hrest⟩ := hall algorithms hr
      refine ⟨by simp [knownAlgorithms, ha, hlist], fun e he => ?_⟩
      rcases List.mem_cons.1 he with rfl | he
      · exact fun a hsome => nomatch ha.symm.trans hsome
      · exact hrest e he
    | some a =>
      simp only [ha] at h
      obtain ⟨digest, w₁, hdigest, h⟩ := bind_eq_iff.1 h
      obtain ⟨hmoves, hcomputed⟩ := computeDigest_cases hdigest
      cases digest with
      | error fault =>
        obtain ⟨rfl, rfl⟩ := pure_eq_iff.1 h
        exact ⟨hmoves, fun _ hr => by cases hr⟩
      | ok actual =>
        simp only at h
        split at h
        · next hmatches =>
          obtain ⟨others, w₂, hothers, h⟩ := bind_eq_iff.1 h
          obtain ⟨rfl, rfl⟩ := pure_eq_iff.1 h
          obtain ⟨hmoves', hall⟩ := ih hothers
          refine ⟨hmoves.trans hmoves', fun algorithms hr => ?_⟩
          cases others with
          | error fault => cases hr
          | ok list =>
            cases hr
            obtain ⟨hlist, hrest⟩ := hall list rfl
            refine ⟨by simp [knownAlgorithms, ha, hlist], fun e he => ?_⟩
            rcases List.mem_cons.1 he with rfl | he
            · intro b hb
              cases ha.symm.trans hb
              obtain ⟨bytes, hbytes, rfl⟩ := hcomputed actual rfl
              exact ⟨bytes, hbytes, hmatches⟩
            · exact (hrest e he).of_file_eq (hmoves.file_eq' _).symm
        · obtain ⟨rfl, rfl⟩ := pure_eq_iff.1 h
          exact ⟨hmoves, fun _ hr => by cases hr⟩

/-- A verification changes nothing, and the file passes it where it ends well. -/
theorem verifyChecksums_cases {checksums : Dict String} {r : Except ChecksumFault Verification}
    (h : (verifyChecksums checksums path : StateM (World ε) _) w = (r, w')) :
    Moves [] [] w w' ∧ ∀ outcome, r = .ok outcome → w.Passes path checksums outcome := by
  unfold verifyChecksums at h
  split at h
  · next hskip =>
    obtain ⟨rfl, rfl⟩ := pure_eq_iff.1 h
    refine ⟨Moves.refl w, ?_⟩
    rintro _ ⟨⟩
    exact .inl ⟨(asksNothing_iff checksums).1 hskip, rfl⟩
  next hskip =>
  obtain ⟨matched, w₁, hmatched, h⟩ := bind_eq_iff.1 h
  obtain ⟨hmoves, hall⟩ := matchAll_cases hmatched
  match matched with
  | .error fault =>
    obtain ⟨rfl, rfl⟩ := pure_eq_iff.1 h
    exact ⟨hmoves, fun _ hr => by cases hr⟩
  | .ok [] =>
    obtain ⟨rfl, rfl⟩ := pure_eq_iff.1 h
    exact ⟨hmoves, fun _ hr => by cases hr⟩
  | .ok (a :: rest) =>
    obtain ⟨rfl, rfl⟩ := pure_eq_iff.1 h
    refine ⟨hmoves, ?_⟩
    rintro _ ⟨⟩
    obtain ⟨hlist, hsatisfied⟩ := hall _ rfl
    exact .inr ⟨mt (asksNothing_iff checksums).2 hskip, by simp [← hlist], by rw [hlist], hsatisfied⟩

/-- Entries that the file satisfies all match, if the file can be read. -/
theorem matchAll_eq_ok {bytes : Bytes} {pairs : List (String × String)}
    (hread : (FileStore.readBytes path : StateM (World ε) _) w = (.ok bytes, w))
    (hall : ∀ entry ∈ pairs, w.Satisfies path entry) :
    (matchAll path pairs : StateM (World ε) _) w = (.ok (knownAlgorithms pairs), w) := by
  have hfile : w.file path.key = some bytes := (readBytes_cases hread).2 bytes rfl
  induction pairs with
  | nil => rfl
  | cons entry rest ih =>
    obtain ⟨name, expected⟩ := entry
    replace ih := ih fun e he => hall e (List.mem_cons_of_mem _ he)
    unfold matchAll
    cases ha : HashAlgorithm.ofName? name with
    | none =>
      simp only [ih]
      simp [knownAlgorithms, ha]
    | some a =>
      obtain ⟨bytes', hbytes', hmatches⟩ := hall _ List.mem_cons_self a ha
      cases hfile.symm.trans hbytes'
      have hdigest : (computeDigest a path : StateM (World ε) _) w = (.ok (a.hexDigest bytes), w) :=
        bind_eq_iff.2 ⟨_, w, hread, rfl⟩
      refine bind_eq_iff.2 ⟨_, w, hdigest, ?_⟩
      simp only [digestMatches, hmatches, if_true]
      refine bind_eq_iff.2 ⟨_, w, ih, pure_eq_iff.2 ⟨?_, rfl⟩⟩
      simp [knownAlgorithms, ha, Except.map]

/-- A file that passes a verification is found to do so, if it can be read. -/
theorem verifyChecksums_eq_ok {bytes : Bytes} {checksums : Dict String} {outcome : Verification}
    (hread : (FileStore.readBytes path : StateM (World ε) _) w = (.ok bytes, w))
    (h : w.Passes path checksums outcome) :
    (verifyChecksums checksums path : StateM (World ε) _) w = (.ok outcome, w) := by
  unfold verifyChecksums
  rcases h with ⟨hskip, rfl⟩ | ⟨hskip, hknown, rfl, hall⟩
  · rw [if_pos ((asksNothing_iff checksums).2 hskip)]
    rfl
  · rw [if_neg (mt (asksNothing_iff checksums).1 hskip)]
    refine bind_eq_iff.2 ⟨_, w, matchAll_eq_ok hread hall, ?_⟩
    obtain ⟨a, rest, hlist⟩ := List.exists_cons_of_ne_nil hknown
    rw [hlist]
    rfl

/-- The last step of a download changes nothing, and where it ends well, the file that the result
names has passed the verification that the result tells of. -/
theorem verified_cases {checksums : Dict String} {updated : Bool}
    {r : Except FetchFault FetchResult}
    (h : (verified checksums path updated : StateM (World ε) _) w = (r, w')) :
    Moves [] [] w w' ∧ ∀ result, r = .ok result → result.path = path ∧ result.updated = updated ∧
      w'.Passes result.path checksums result.verification := by
  obtain ⟨checked, w₁, hchecked, h⟩ := bind_eq_iff.1 h
  obtain ⟨hmoves, hpasses⟩ := verifyChecksums_cases hchecked
  cases checked with
  | ok verification =>
    obtain ⟨rfl, rfl⟩ := pure_eq_iff.1 h
    refine ⟨hmoves, ?_⟩
    rintro _ ⟨⟩
    exact ⟨rfl, rfl, (hpasses verification rfl).of_file_eq (hmoves.file_eq' _)⟩
  | error fault =>
    obtain ⟨rfl, rfl⟩ := pure_eq_iff.1 h
    exact ⟨hmoves, fun _ hr => by cases hr⟩

/-! ### Downloads -/

/-- A download of a source that is not on this machine succeeds only with the file that it has
fetched. -/
theorem fetched_of_ok {settings : FetchSettings} {request : FetchRequest} {result : FetchResult}
    (hremote : ¬ w.HasSource request.source)
    (h : (download settings request : StateM (World ε) _) w = (.ok result, w')) :
    ∃ v v', EntersFetch settings request w v ∧
      (fetchRemote settings request.source (destinationFile settings request) :
        StateM (World ε) _) v = (.ok result.updated, v') ∧
      Moves [] [] v' w' ∧ result.path = destinationFile settings request := by
  cases download_cases h with
  | atHand path hdir hlocal hverified => exact absurd (hasSource_of_atHand hdir hlocal) hremote
  | fetched updated hfetch hdone hverified =>
    obtain ⟨hmoves, hresult⟩ := verified_cases hverified
    obtain ⟨hpath, rfl, -⟩ := hresult result rfl
    exact ⟨_, _, hfetch, hdone, hmoves, hpath⟩

/-- Every download that succeeds ends in a verification. -/
theorem verified_of_download {settings : FetchSettings} {request : FetchRequest}
    {result : FetchResult}
    (h : (download settings request : StateM (World ε) _) w = (.ok result, w')) :
    ∃ v path updated, (verified request.checksums path updated : StateM (World ε) _) v =
      (.ok result, w') := by
  cases download_cases h with
  | atHand path hdir hlocal hverified => exact ⟨_, path, false, hverified⟩
  | fetched updated hfetch hdone hverified => exact ⟨_, _, updated, hverified⟩

/-- **The file of a successful download has passed its verification.** Either no verification was
asked for, and the result says so; or every digest of a known algorithm is that of the bytes that the
file holds when the download ends, there is such a digest, and the result lists their algorithms. It
does not matter how the file came there, and what the outside did. -/
theorem download_integrity {settings : FetchSettings} {request : FetchRequest} {result : FetchResult}
    (h : (download settings request : StateM (World ε) _) w = (.ok result, w')) :
    w'.Passes result.path request.checksums result.verification := by
  obtain ⟨v, path, updated, hverified⟩ := verified_of_download h
  obtain ⟨-, hpasses⟩ := verified_cases hverified
  exact (hpasses result rfl).2.2

/-- A world whose one file is a greeting. -/
def World.greeting (dirs : List PathKey) : World Script :=
  ⟨⟨[(["agent"], [104, 101, 108, 108, 111])], dirs, []⟩, ⟨[]⟩, []⟩

/-- The digest of the greeting in capitals, and one of an algorithm that is not known. -/
def greetingDigests : Dict String :=
  ⟨[("crc32", "0"), ("md5", "5D41402ABC4B2A76B9719D911017C592")], by decide⟩

theorem passes_greeting :
    (greeting [["out"]]).Passes ⟨"agent"⟩ greetingDigests (.matched [.md5]) := by
  have hcrc : HashAlgorithm.ofName? "crc32" = none := by decide +kernel
  have hmd5 : HashAlgorithm.ofName? "md5" = some .md5 := by decide +kernel
  have hdigest : Text.eqIgnoringAsciiCase (HashAlgorithm.md5.hexDigest [104, 101, 108, 108, 111])
      (Text.trim "5D41402ABC4B2A76B9719D911017C592") = true := by
    rw [Text.eqIgnoringAsciiCase_iff]
    decide +kernel
  have hknown : knownAlgorithms greetingDigests.pairs = [.md5] := by
    simp [knownAlgorithms, greetingDigests, hcrc, hmd5]
  refine .inr ⟨?_, by simp [hknown], by rw [hknown], ?_⟩
  · rintro (h | ⟨name, digest, h, -⟩) <;> simp [greetingDigests] at h
  · intro entry hentry a ha
    simp only [greetingDigests, List.mem_cons, List.not_mem_nil, or_false] at hentry
    rcases hentry with rfl | rfl
    · exact nomatch hcrc.symm.trans ha
    · cases hmd5.symm.trans ha
      exact ⟨_, rfl, hdigest⟩

theorem download_greeting (settings : FetchSettings) {checksums : Dict String}
    {outcome : Verification}
    (hpasses : (greeting [["out"]]).Passes ⟨"agent"⟩ checksums outcome) :
    (download settings (agentRequest checksums) : StateM (World Script) _) (greeting []) =
      (.ok ⟨⟨"agent"⟩, false, outcome⟩, greeting [["out"]]) := by
  have hdirs : (FileStore.createDirs ⟨"out"⟩ : StateM (World Script) _) (greeting []) =
      (.ok (), greeting [["out"]]) := rfl
  have hlocal : (localSource? "agent" : StateM (World Script) _) (greeting [["out"]]) =
      (some ⟨"agent"⟩, greeting [["out"]]) := bind_eq_iff.2 ⟨true, _, rfl, rfl⟩
  have hverified : (verified checksums ⟨"agent"⟩ false : StateM (World Script) _)
      (greeting [["out"]]) = (.ok ⟨⟨"agent"⟩, false, outcome⟩, greeting [["out"]]) :=
    bind_eq_iff.2 ⟨_, _, verifyChecksums_eq_ok rfl hpasses, rfl⟩
  exact bind_eq_iff.2 ⟨_, _, hdirs, bind_eq_iff.2 ⟨_, _, hlocal, hverified⟩⟩

theorem download_integrity_greeting :
    ∃ result w', (download agentSettings (agentRequest greetingDigests) : StateM (World Script) _)
        (greeting []) = (.ok result, w') ∧
      w'.Passes result.path greetingDigests result.verification := by
  have hdownload := download_greeting agentSettings passes_greeting
  exact ⟨_, _, hdownload, download_integrity hdownload⟩

end Depot
