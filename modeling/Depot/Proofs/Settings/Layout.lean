import Depot.Proofs.Number
import Depot.Proofs.Settings
import Depot.Proofs.Text
import Depot.Proofs.Text.Blank

/-!
# Layouts of settings

Settings can be written in many ways: in any order, with blanks around every part of a line, with
blank lines, and with comments on lines of their own or at the end of any line. However they are
written, they are read back as they are.

What is read of a line ends where its comment begins, and whether a number sign begins a comment
depends on the quotes before it. The texts that settle this are those that leave no quote open: a
comment that stands behind such a text is found there, and nothing in the text is taken for one.
Quotes in a comment are never looked at. A carriage return at the end of a line is a blank like any
other.

## Main definitions

* `Setting`, `Settings.Has` : single settings, and those that some settings have.
* `Setting.WrittenIn`, `IsVoid` : the lines that write a setting, and those that write none.
* `Settings.WrittenIn` : the texts in which settings are written.

## Main results

* `Settings.beforeComment_append` : a comment is found behind a text that leaves no quote open.
* `Settings.readLine_writtenIn` : what is read of a line.
* `Settings.has_foldl` : the settings that have been read after all lines.
* `Settings.parse?_writtenIn` : written settings are read back.
-/

namespace Depot

open Number (IsNumeral)
open Text (isBlank trimChars IsTrimmed)

/-! ### Settings one by one -/

/-- The word for a verbosity. -/
def Verbosity.name : Verbosity → String
  | default => "default"
  | verbose => "verbose"
  | quiet => "quiet"
  | debug => "debug"

theorem Verbosity.ofName?_name (v : Verbosity) : ofName? v.name = some v := by
  cases v <;> rfl

/-- One setting. -/
inductive Setting
  | downloadRoot (path : Path)
  | packageRoot (path : Path)
  | connectTimeoutSecs (n : Nat)
  | readTimeoutSecs (n : Nat)
  | retryInitialIntervalMs (n : Nat)
  | maxRetries (n : Nat)
  | verbosity (verbosity : Verbosity)

/-- A value as it is written: a text between quotes or a number. -/
inductive SettingValue
  | text (s : String)
  | number (n : Nat)

namespace Setting

/-- The key of a setting. -/
def key : Setting → String
  | downloadRoot _ => "download_root"
  | packageRoot _ => "package_root"
  | connectTimeoutSecs _ => "connect_timeout_secs"
  | readTimeoutSecs _ => "read_timeout_secs"
  | retryInitialIntervalMs _ => "retry_initial_interval_ms"
  | maxRetries _ => "max_retries"
  | verbosity _ => "verbosity"

/-- The value of a setting. -/
def value : Setting → SettingValue
  | downloadRoot path => .text path.text
  | packageRoot path => .text path.text
  | connectTimeoutSecs n => .number n
  | readTimeoutSecs n => .number n
  | retryInitialIntervalMs n => .number n
  | maxRetries n => .number n
  | verbosity v => .text v.name

/-- The settings with a new value for one of them. -/
def assign (s : Settings) : Setting → Settings
  | downloadRoot path => { s with downloadRoot := some path }
  | packageRoot path => { s with packageRoot := some path }
  | connectTimeoutSecs n => { s with connectTimeoutSecs := some n }
  | readTimeoutSecs n => { s with readTimeoutSecs := some n }
  | retryInitialIntervalMs n => { s with retryInitialIntervalMs := some n }
  | maxRetries n => { s with maxRetries := some n }
  | verbosity v => { s with verbosity := some v }

end Setting

namespace SettingValue

/-- The texts of a value: quotes around a text, digits for a number. -/
inductive Spells : SettingValue → List Char → Prop
  | text (s : String) : Spells (.text s) ('"' :: s.toList ++ ['"'])
  | number {n : Nat} {cs : List Char} (h : IsNumeral cs n) : Spells (.number n) cs

/-- A value that a line can hold: no text with a quote or a line feed, no number beyond 32 bits. -/
def IsPlain : SettingValue → Prop
  | text s => '"' ∉ s.toList ∧ '\n' ∉ s.toList
  | number n => n < Nat.pow 2 32

end SettingValue

namespace Settings

/-- The settings that some settings have. -/
def Has (s : Settings) : Setting → Prop
  | .downloadRoot path => s.downloadRoot = some path
  | .packageRoot path => s.packageRoot = some path
  | .connectTimeoutSecs n => s.connectTimeoutSecs = some n
  | .readTimeoutSecs n => s.readTimeoutSecs = some n
  | .retryInitialIntervalMs n => s.retryInitialIntervalMs = some n
  | .maxRetries n => s.maxRetries = some n
  | .verbosity v => s.verbosity = some v

variable {s t : Settings} {x y : Setting}

theorem not_has_none (x : Setting) : ¬none.Has x := by
  cases x <;> exact nofun

/-- What has been set is there, and everything else stays as it was. -/
theorem has_assign : (y.assign s).Has x ↔ x = y ∨ x.key ≠ y.key ∧ s.Has x := by
  cases x <;> cases y <;> simp [Setting.assign, Has, Setting.key, eq_comm]

theorem eq_of_has (h : ∀ x, s.Has x ↔ t.Has x) : s = t := by
  obtain ⟨_, _, _, _, _, _, _⟩ := s
  obtain ⟨_, _, _, _, _, _, _⟩ := t
  simp only [mk.injEq]
  exact ⟨Option.ext fun a => h (.downloadRoot a), Option.ext fun a => h (.packageRoot a),
    Option.ext fun a => h (.connectTimeoutSecs a), Option.ext fun a => h (.readTimeoutSecs a),
    Option.ext fun a => h (.retryInitialIntervalMs a), Option.ext fun a => h (.maxRetries a),
    Option.ext fun a => h (.verbosity a)⟩

/-- **What has been read after all lines,** if no two of them have the same key. -/
theorem has_foldl {xs : List Setting} (hkeys : (xs.map Setting.key).Nodup) :
    (xs.foldl Setting.assign s).Has x ↔ x ∈ xs ∨ x.key ∉ xs.map Setting.key ∧ s.Has x := by
  induction xs generalizing s with
  | nil => simp
  | cons y ys ih =>
    rw [List.map_cons, List.nodup_cons] at hkeys
    rw [List.foldl_cons, ih hkeys.2, has_assign, List.map_cons, List.mem_cons, List.mem_cons]
    by_cases hxy : x = y
    · subst hxy
      simp [hkeys.1]
    · simp [hxy, not_or, and_assoc, and_left_comm]

end Settings

/-! ### Lines -/

/-- What may stand at the end of any line: a comment, or nothing. -/
inductive IsRemark : List Char → Prop
  | nothing : IsRemark []
  | comment {cs : List Char} (h : '\n' ∉ cs) : IsRemark ('#' :: cs)

/-- The lines without a setting: blanks, and perhaps a comment. -/
inductive IsVoid : List Char → Prop
  | mk {gap remark : List Char} (hgap : IsGap gap) (hremark : IsRemark remark) :
    IsVoid (gap ++ remark)

/-- The lines that write a setting: its key, an equals sign and its value, with blanks around each
of them, and perhaps a comment. -/
inductive Setting.WrittenIn (x : Setting) : List Char → Prop
  | mk {front before after back value remark : List Char} (hfront : IsGap front)
      (hbefore : IsGap before) (hafter : IsGap after) (hback : IsGap back)
      (hvalue : x.value.Spells value) (hremark : IsRemark remark) :
    x.WrittenIn (front ++ (x.key.toList ++ before ++ '=' :: (after ++ value)) ++ back ++ remark)

/-- The lines in which some settings are written in their order, each on one line. -/
inductive Setting.AllWrittenIn : List Setting → List (List Char) → Prop
  | nil : AllWrittenIn [] []
  | void {xs : List Setting} {line : List Char} {lines : List (List Char)} (hline : IsVoid line)
      (h : AllWrittenIn xs lines) : AllWrittenIn xs (line :: lines)
  | setting {x : Setting} {xs : List Setting} {line : List Char} {lines : List (List Char)}
      (hline : x.WrittenIn line) (h : AllWrittenIn xs lines) :
    AllWrittenIn (x :: xs) (line :: lines)

/-- The texts in which some settings are written: every setting that is there has one line. -/
def Settings.WrittenIn (s : Settings) (text : String) : Prop :=
  ∃ xs lines, text.toList = ['\n'].intercalate lines ∧ Setting.AllWrittenIn xs lines ∧
    (xs.map Setting.key).Nodup ∧ ∀ x, x ∈ xs ↔ s.Has x

namespace Settings

variable {cs front gap remark line : List Char} {q : Bool} {v : SettingValue}

/-! ### Comments -/

/-- Texts that leave no quote open and have no comment: comments are looked for behind them. -/
def IsClosed (front : List Char) : Prop :=
  ∀ cs, beforeComment false (front ++ cs) = front ++ beforeComment false cs

theorem IsClosed.append (h : IsClosed front) (hcs : IsClosed cs) : IsClosed (front ++ cs) :=
  fun rest => by rw [List.append_assoc, h, hcs, List.append_assoc]

/-- A text without quotes and number signs leaves no quote open. -/
theorem isClosed_of_plain (h : ∀ c ∈ front, c ≠ '#' ∧ c ≠ '"') : IsClosed front := by
  intro cs
  induction front with
  | nil => rfl
  | cons c front ih =>
    obtain ⟨⟨hsign, hquote⟩, hfront⟩ := List.forall_mem_cons.1 h
    rw [List.cons_append, beforeComment, if_neg (by simp [hsign]), if_neg hquote, ih hfront]
    rfl

theorem beforeComment_quoted (h : '"' ∉ front) (cs : List Char) :
    beforeComment true (front ++ '"' :: cs) = front ++ '"' :: beforeComment false cs := by
  induction front with
  | nil => rfl
  | cons c front ih =>
    rw [List.mem_cons, not_or] at h
    rw [List.cons_append, beforeComment, if_neg (by simp), if_neg (Ne.symm h.1), ih h.2]
    rfl

/-- A text between quotes leaves no quote open, whatever else stands in it. -/
theorem isClosed_quoted (h : '"' ∉ front) : IsClosed ('"' :: front ++ ['"']) := by
  intro cs
  have hrest := beforeComment_quoted h cs
  simpa [beforeComment] using hrest

theorem beforeComment_remark (h : IsRemark remark) : beforeComment false remark = [] := by
  cases h with
  | nothing => rfl
  | comment => rfl

theorem isClosed_gap (h : IsGap gap) : IsClosed gap :=
  isClosed_of_plain fun c hc =>
    ⟨Text.ne_of_isBlank (h.blank c hc) (by decide), Text.ne_of_isBlank (h.blank c hc) (by decide)⟩

/-! ### Values -/

theorem isClosed_value (h : v.Spells cs) (hv : v.IsPlain) : IsClosed cs := by
  cases h with
  | text s => exact isClosed_quoted hv.1
  | number h =>
    exact isClosed_of_plain fun c hc =>
      ⟨ne_of_mem_of_not_mem hc (h.notMem rfl), ne_of_mem_of_not_mem hc (h.notMem rfl)⟩

theorem isTrimmed_value (h : v.Spells cs) : cs ≠ [] ∧ IsTrimmed cs := by
  cases h with
  | text s =>
    have hlast : ('"' :: s.toList ++ ['"']).getLast? = some '"' := List.getLast?_concat
    refine ⟨List.cons_ne_nil _ _, fun c hc => ?_, fun c hc => ?_⟩
    · exact Option.some.inj hc ▸ by decide
    · exact Option.some.inj (hlast.symm.trans hc) ▸ by decide
  | number h =>
    exact ⟨h.ne_nil, Text.isTrimmed_of_forall fun c hc => Text.isBlank_of_isDigit (h.isDigit c hc)⟩

theorem lineFeed_notMem_value (h : v.Spells cs) (hv : v.IsPlain) : '\n' ∉ cs := by
  cases h with
  | text s => simpa using hv.2
  | number h => exact h.notMem rfl

theorem readQuoted_of_spells {s : String} (h : (SettingValue.text s).Spells cs) :
    readQuoted cs = .ok s := by
  cases h
  simp [readQuoted]

theorem readNatural_of_spells {n : Nat} (h : (SettingValue.number n).Spells cs) (hn : n < Nat.pow 2 32) :
    readNatural cs = .ok n := by
  cases h with
  | number h =>
    unfold readNatural
    rw [if_neg (mt List.isEmpty_iff.1 h.ne_nil),
      Number.signed?_of_isNumeral h (hn.trans (by decide))]
    have h64 : ¬Nat.pow 2 64 ≤ n := Nat.not_le.2 (hn.trans (by decide))
    simp only [if_neg (Int.not_lt.2 (Int.natCast_nonneg n)), Int.toNat_natCast, if_neg h64]

/-! ### One line -/

variable {s : Settings} {x : Setting}

theorem key_plain (x : Setting) : x.key.toList ≠ [] ∧
    ∀ c ∈ x.key.toList, isBlank c = false ∧ c ≠ '#' ∧ c ≠ '"' ∧ c ≠ '=' := by
  cases x <;> rw [Setting.key] <;> exact ⟨by decide, Text.forall_mem_of_all (by decide)⟩

/-- A key with a text of its value sets it. -/
theorem set_eq (h : x.value.Spells cs) (hx : x.value.IsPlain) (n : Nat) :
    s.set n x.key cs = .ok (x.assign s) := by
  cases x with
  | downloadRoot path => simp only [set, Setting.key, readQuoted_of_spells h]; rfl
  | packageRoot path => simp only [set, Setting.key, readQuoted_of_spells h]; rfl
  | connectTimeoutSecs n => simp only [set, Setting.key, readNatural_of_spells h hx]; rfl
  | readTimeoutSecs n => simp only [set, Setting.key, readNatural_of_spells h hx]; rfl
  | retryInitialIntervalMs n => simp only [set, Setting.key, readNatural_of_spells h hx]; rfl
  | maxRetries n =>
    have hlt : ¬Nat.pow 2 32 ≤ n := Nat.not_le.2 hx
    simp only [set, Setting.key, readNatural_of_spells h hx, atLine, bind, Except.bind, if_neg hlt]
    rfl
  | verbosity v =>
    simp only [set, Setting.key, readQuoted_of_spells h, atLine, bind, Except.bind,
      Verbosity.ofName?_name]
    rfl

theorem readLine_void (h : IsVoid line) (n : Nat) : s.readLine n line = .ok s := by
  obtain @⟨gap, remark, hgap, hremark⟩ := h
  have hnone : trimChars (beforeComment false (gap ++ remark)) = [] := by
    rw [isClosed_gap hgap, beforeComment_remark hremark, List.append_nil, trimChars,
      Text.trimLeft_eq_nil hgap.blank]
    rfl
  unfold readLine
  rw [hnone]
  rfl

section Written

variable {before after value : List Char} (hbefore : IsGap before) (hafter : IsGap after)
  (hvalue : x.value.Spells value)

include hbefore hafter hvalue

/-- No comment begins between the key and the end of the value. -/
theorem isClosed_writing (hx : x.value.IsPlain) :
    IsClosed (x.key.toList ++ before ++ '=' :: (after ++ value)) := by
  have hkey : IsClosed x.key.toList := isClosed_of_plain fun c hc =>
    ⟨((key_plain x).2 c hc).2.1, ((key_plain x).2 c hc).2.2.1⟩
  have hequals : IsClosed ['='] := isClosed_of_plain (Text.forall_mem_of_all (by decide))
  exact (hkey.append (isClosed_gap hbefore)).append
    (hequals.append ((isClosed_gap hafter).append (isClosed_value hvalue hx)))

omit hbefore hafter in
theorem isTrimmed_writing (before after : List Char) :
    IsTrimmed (x.key.toList ++ before ++ '=' :: (after ++ value)) := by
  obtain ⟨hne, hplain⟩ := key_plain x
  obtain ⟨hne', htrimmed⟩ := isTrimmed_value hvalue
  have hends := (Text.isTrimmed_of_forall fun c hc => (hplain c hc).1).around htrimmed hne hne'
    (before ++ '=' :: after)
  simpa using hends

/-- The first equals sign is the one behind the key. -/
theorem splitOnce_writing :
    Text.splitOnce '=' (x.key.toList ++ before ++ '=' :: (after ++ value)) =
        some (x.key.toList ++ before, after ++ value) ∧
      trimChars (x.key.toList ++ before) = x.key.toList ∧ trimChars (after ++ value) = value := by
  obtain ⟨-, hplain⟩ := key_plain x
  refine ⟨Text.splitOnce_append_cons _ fun hmem => ?_, ?_, ?_⟩
  · rcases List.mem_append.1 hmem with hmem | hmem
    · exact (hplain _ hmem).2.2.2 rfl
    · exact absurd (hbefore.blank _ hmem) (by decide)
  · have htrim : trimChars ([] ++ x.key.toList ++ before) = x.key.toList :=
      Text.trimChars_append (by simp) hbefore.blank
        (Text.isTrimmed_of_forall fun c hc => (hplain c hc).1)
    rwa [List.nil_append] at htrim
  · have htrim : trimChars (after ++ value ++ []) = value :=
      Text.trimChars_append hafter.blank (by simp) (isTrimmed_value hvalue).2
    rwa [List.append_nil] at htrim

end Written

/-- **What is read of a line** that writes a setting is the setting. -/
theorem readLine_writtenIn (h : x.WrittenIn line) (hx : x.value.IsPlain) (n : Nat) :
    s.readLine n line = .ok (x.assign s) := by
  obtain @⟨front, before, after, back, value, remark, hfront, hbefore, hafter, hback, hvalue,
    hremark⟩ := h
  have hcontent : trimChars (beforeComment false
      (front ++ (x.key.toList ++ before ++ '=' :: (after ++ value)) ++ back ++ remark)) =
        x.key.toList ++ before ++ '=' :: (after ++ value) := by
    have hclosed := ((isClosed_gap hfront).append
      (isClosed_writing hbefore hafter hvalue hx)).append (isClosed_gap hback)
    rw [hclosed, beforeComment_remark hremark, List.append_nil]
    exact Text.trimChars_append hfront.blank hback.blank (isTrimmed_writing hvalue _ _)
  obtain ⟨hcut, hkey, hvalue'⟩ := splitOnce_writing hbefore hafter hvalue
  unfold readLine
  simp only [hcontent, hcut, hkey, hvalue', String.ofList_toList, set_eq hvalue hx]
  rw [if_neg (by simp)]

/-- One more character at the end is lost in a comment, or it is kept. -/
theorem beforeComment_concat (q : Bool) (cs : List Char) (c : Char) :
    beforeComment q (cs ++ [c]) = beforeComment q cs ∨
      beforeComment q (cs ++ [c]) = beforeComment q cs ++ [c] := by
  induction cs generalizing q with
  | nil =>
    simp only [List.nil_append, beforeComment]
    split
    · exact .inl rfl
    · exact .inr rfl
  | cons d cs ih =>
    rw [List.cons_append, beforeComment, beforeComment]
    split
    · exact .inl rfl
    · exact (ih _).imp (congrArg (d :: ·)) (congrArg (d :: ·))

/-- A carriage return before the line feed makes no difference. -/
theorem readLine_dropReturn (n : Nat) (line : List Char) :
    s.readLine n (Text.dropReturn line) = s.readLine n line := by
  rcases Text.dropReturn_cases line with h | h
  · rw [h]
  · have hcontent : trimChars (beforeComment false (Text.dropReturn line)) =
        trimChars (beforeComment false line) := by
      conv_rhs => rw [h]
      rcases beforeComment_concat false (Text.dropReturn line) '\r' with heq | heq
      · rw [heq]
      · rw [heq, Text.trimChars_concat _ (by decide)]
    unfold readLine
    rw [hcontent]

/-! ### All lines -/

/-- Lines are read as the pieces between line feeds. -/
theorem readLines_linesOfPieces (n : Nat) (pieces : List (List Char)) :
    s.readLines n (Text.linesOfPieces pieces) = s.readLines n pieces := by
  induction pieces using Text.linesOfPieces.induct generalizing s n with
  | case1 => rfl
  | case2 last h =>
    obtain rfl := List.isEmpty_iff.1 h
    rfl
  | case3 last h => rw [Text.linesOfPieces, if_neg h]
  | case4 piece pieces hne ih =>
    rw [Text.linesOfPieces, readLines, readLines, readLine_dropReturn]
    · exact congrArg _ (funext fun s => ih (n + 1))
    · exact hne

/-- Lines that are put together are read as these lines. -/
theorem readLines_intercalate {lines : List (List Char)} (h : ∀ line ∈ lines, '\n' ∉ line)
    (n : Nat) : s.readLines n (Text.lines (['\n'].intercalate lines)) = s.readLines n lines := by
  unfold Text.lines
  rw [readLines_linesOfPieces]
  cases lines with
  | nil => rfl
  | cons line lines => rw [Text.splitAll_intercalate (List.cons_ne_nil _ _) h]

/-- **Lines in which settings are written** set them in their order. -/
theorem readLines_allWrittenIn {xs : List Setting} {lines : List (List Char)}
    (h : Setting.AllWrittenIn xs lines) (hplain : ∀ x ∈ xs, x.value.IsPlain) (n : Nat) :
    s.readLines n lines = .ok (xs.foldl Setting.assign s) := by
  induction h generalizing s n with
  | nil => rfl
  | void hline _ ih =>
    rw [readLines, readLine_void hline]
    exact ih hplain (n + 1)
  | setting hline _ ih =>
    obtain ⟨hx, hxs⟩ := List.forall_mem_cons.1 hplain
    rw [readLines, readLine_writtenIn hline hx]
    exact ih hxs (n + 1)

theorem lineFeed_notMem {xs : List Setting} {lines : List (List Char)}
    (h : Setting.AllWrittenIn xs lines) (hplain : ∀ x ∈ xs, x.value.IsPlain) :
    ∀ line ∈ lines, '\n' ∉ line := by
  have hremark : ∀ {remark : List Char}, IsRemark remark → '\n' ∉ remark := fun h => by
    cases h with
    | nothing => exact List.not_mem_nil
    | comment h => simpa using h
  induction h with
  | nil => nofun
  | void hline _ ih =>
    obtain @⟨gap, remark, hgap, hrest⟩ := hline
    refine List.forall_mem_cons.2 ⟨?_, ih hplain⟩
    simp [hgap.noLineFeed, hremark hrest]
  | @setting x _ _ _ hline _ ih =>
    obtain ⟨hx, hxs⟩ := List.forall_mem_cons.1 hplain
    obtain ⟨hfront, hbefore, hafter, hback, hvalue, hrest⟩ := hline
    have hkey : '\n' ∉ x.key.toList := fun hmem =>
      absurd ((key_plain x).2 _ hmem).1 (by decide)
    refine List.forall_mem_cons.2 ⟨?_, ih hxs⟩
    simp [hfront.noLineFeed, hkey, hbefore.noLineFeed, hafter.noLineFeed,
      lineFeed_notMem_value hvalue hx, hback.noLineFeed, hremark hrest]

/-! ### All settings -/

/-- The paths have neither quotes nor line feeds. -/
structure HasPlainPaths (s : Settings) : Prop where
  downloadRoot : ∀ path ∈ s.downloadRoot, '"' ∉ path.text.toList ∧ '\n' ∉ path.text.toList
  packageRoot : ∀ path ∈ s.packageRoot, '"' ∉ path.text.toList ∧ '\n' ∉ path.text.toList

theorem isPlain_of_has (hs : s.InRange) (hpaths : s.HasPlainPaths) (h : s.Has x) :
    x.value.IsPlain := by
  cases x with
  | downloadRoot path => exact hpaths.downloadRoot path h
  | packageRoot path => exact hpaths.packageRoot path h
  | connectTimeoutSecs n => exact (hs.connectTimeoutSecs n h).2.trans_lt (by decide)
  | readTimeoutSecs n => exact (hs.readTimeoutSecs n h).2.trans_lt (by decide)
  | retryInitialIntervalMs n => exact (hs.retryInitialIntervalMs n h).2.trans_lt (by decide)
  | maxRetries n => exact (hs.maxRetries n h).2.trans_lt (by decide)
  | verbosity v => cases v <;> exact ⟨by decide, by decide⟩

/-- **Written settings are read back,** whatever the layout: settings whose numbers are in range and
whose paths can stand between quotes are what is read of every text in which they are written. And
whatever is read of any text is in range. -/
theorem parse?_writtenIn :
    (∀ (s : Settings) (text : String), s.InRange → s.HasPlainPaths → s.WrittenIn text →
      parse? text = .ok s) ∧
    ∀ (text : String) (s : Settings), parse? text = .ok s → s.InRange := by
  refine ⟨fun s text hs hpaths hwritten => ?_, fun text s h => inRange_of_parse? h⟩
  obtain ⟨xs, lines, htext, hlines, hkeys, hxs⟩ := hwritten
  have hplain : ∀ x ∈ xs, x.value.IsPlain :=
    fun x hx => isPlain_of_has hs hpaths ((hxs x).1 hx)
  have hread : readLines none 1 (Text.lines text.toList) = .ok (xs.foldl Setting.assign none) := by
    rw [htext, readLines_intercalate (lineFeed_notMem hlines hplain),
      readLines_allWrittenIn hlines hplain]
  have heq : xs.foldl Setting.assign none = s := eq_of_has fun x => by
    rw [has_foldl hkeys, ← hxs]
    exact or_iff_left fun h => not_has_none x h.2
  unfold parse?
  rw [hread, heq]
  have hrange := outOfRange?_eq_none_iff.2 hs
  simp only [bind, Except.bind, hrange]

/-- Settings with a path that has all signs of the notation in it but quotes. -/
def signs : Settings :=
  { none with downloadRoot := some ⟨"/a #b = c\\"⟩, maxRetries := some 7 }

/-- The settings of `signs`, with the equals sign of one line in a comment of another, and quotes
that are opened in comments only. -/
def signsText : String :=
  "# max_retries = 3\n\tmax_retries=007 # a \"few\r\n\n download_root = \"/a #b = c\\\"# \"it = "

theorem writtenIn_signsText : signs.WrittenIn signsText := by
  have hnone : IsGap [] := ⟨nofun, by decide⟩
  have hspace : IsGap [' '] := ⟨Text.forall_mem_of_all (by decide), by decide⟩
  have htab : IsGap ['\t'] := ⟨Text.forall_mem_of_all (by decide), by decide⟩
  have hcomment : IsRemark ('#' :: " max_retries = 3".toList) := .comment (by decide)
  have hfew : IsRemark ('#' :: " a \"few\r".toList) := .comment (by decide)
  have hit : IsRemark ('#' :: " \"it = ".toList) := .comment (by decide)
  have hseven : IsNumeral "007".toList 7 := ⟨by decide, Text.forall_mem_of_all (by decide), by decide⟩
  have hretries : (Setting.maxRetries 7).WrittenIn _ :=
    .mk htab hnone hnone hspace (.number hseven) hfew
  have hroot : (Setting.downloadRoot ⟨"/a #b = c\\"⟩).WrittenIn _ :=
    .mk hspace hspace hspace hnone (.text _) hit
  refine ⟨_, _, ?_, .void (.mk hnone hcomment) (.setting hretries
    (.void (.mk hnone .nothing) (.setting hroot .nil))), by decide, fun x => ?_⟩
  · decide
  · cases x <;> simp [Has, signs, none, eq_comm]

theorem parse?_writtenIn_signs :
    (signs.InRange ∧ signs.HasPlainPaths ∧ signs.WrittenIn signsText) ∧
      parse? signsText = .ok signs := by
  have hrange : signs.InRange := outOfRange?_eq_none_iff.1 rfl
  have hpaths : signs.HasPlainPaths := ⟨by decide, by decide⟩
  exact ⟨⟨hrange, hpaths, writtenIn_signsText⟩,
    parse?_writtenIn.1 signs signsText hrange hpaths writtenIn_signsText⟩

end Settings

end Depot
