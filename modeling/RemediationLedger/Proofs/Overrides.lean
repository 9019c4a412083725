/-
Settings under the environment's overrides.

Three settings have a variable each. What overrides make of settings is said
here setting by setting (`Settings.Overridden`): one whose variable is set has
the value that the variable's text gives it, and every other one the value that
it had. An override succeeds exactly with the settings for which that is so
(`withOverrides_eq_ok_iff`), and that they are the same for any two settings
that agree where no variable is set, and for the result itself, is then to be
seen setting by setting.

A table's name is the text itself, be it empty. A retention is what the text
spells without the blanks at its ends: `Trimmed` says which part of a text that
is, and there is no other (`trimBlanks_eq_iff`).

## How the proof goes

Trimming comes first. Blanks are dropped from both ends, and `trimBlanks_eq_iff`
says that what is left is the one part of the text that neither begins nor ends
with a blank and has only blanks around it. With it `readTtl?_eq_some_iff`
describes the texts that give a retention without mentioning how they are read.

Then settings are taken as a table of values by name (`Settings.ext_value`).
`overridden_iff` compares the table of the result with the base, name by name,
and `withOverrides_eq_ok_iff` and `withOverrides_eq_error_iff` follow for the
whole function. `overrides_are_exact` adds two things that are then short:
overrides that are applied twice have the same effect as once, and settings that
agree beside the variables come to the same, before the check of the settings
and behind it.
-/
import Mathlib.Data.List.DropRight
import RemediationLedger.Proofs.Numerals
import RemediationLedger.Settings.Entry

namespace RemediationLedger

/-! ## Blanks at both ends -/

/-- `core` is the part of a text between the blanks at its ends. -/
structure Trimmed (text core : List Char) : Prop where
  /-- Only blanks are removed. -/
  around : ∃ before after, text = before ++ core ++ after ∧
    (∀ c ∈ before, isBlank c) ∧ ∀ c ∈ after, isBlank c
  /-- And all of them are. -/
  starts : ∀ c ∈ core.head?, isBlank c = false
  ends : ∀ c ∈ core.getLast?, isBlank c = false

theorem trimBlanks_eq_rdropWhile (text : List Char) :
    trimBlanks text = (text.dropWhile isBlank).rdropWhile isBlank := rfl

theorem rdropWhile_blanks {after front : List Char} (blank : ∀ c ∈ after, isBlank c) :
    (front ++ after).rdropWhile isBlank = front.rdropWhile isBlank := by
  unfold List.rdropWhile
  rw [List.reverse_append, List.dropWhile_append_of_pos]
  simpa using blank

theorem dropWhile_eq_self_of_starts {cs : List Char} (starts : ∀ c ∈ cs.head?, isBlank c = false) :
    cs.dropWhile isBlank = cs := by
  cases cs with
  | nil => rfl
  | cons c cs =>
    have first : ¬isBlank c = true := by simp [starts c (by simp)]
    rw [List.dropWhile_cons_of_neg first]

theorem starts_dropWhile (cs : List Char) :
    ∀ c ∈ (cs.dropWhile isBlank).head?, isBlank c = false := by
  intro c first
  have stop := List.head?_dropWhile_not isBlank cs
  rwa [Option.mem_def.mp first] at stop

theorem trimBlanks_eq_iff {text core : List Char} :
    trimBlanks text = core ↔ Trimmed text core := by
  rw [trimBlanks_eq_rdropWhile]
  constructor
  · rintro rfl
    refine ⟨⟨text.takeWhile isBlank, (text.dropWhile isBlank).rtakeWhile isBlank, ?_, ?_, ?_⟩,
      ?_, ?_⟩
    · rw [List.append_assoc, List.rdropWhile_append_rtakeWhile, List.takeWhile_append_dropWhile]
    · exact fun c member => List.mem_takeWhile_imp member
    · exact fun c member => List.mem_rtakeWhile_imp member
    · -- what is dropped at the end leaves the start as it is, unless nothing is left
      intro c first
      have starts := starts_dropWhile text
      obtain ⟨rest, split⟩ := List.rdropWhile_prefix isBlank (text.dropWhile isBlank)
      apply starts c
      rw [← split, List.head?_append, Option.mem_def.mp first]
      rfl
    · intro c last
      rw [List.rdropWhile, List.getLast?_reverse] at last
      exact starts_dropWhile _ c last
  · rintro ⟨⟨before, after, rfl, blankBefore, blankAfter⟩, starts, ends⟩
    rw [List.append_assoc, List.dropWhile_append_of_pos blankBefore]
    cases core with
    | nil =>
      rw [List.nil_append, List.dropWhile_eq_nil_iff.mpr blankAfter, List.rdropWhile_nil]
    | cons c core =>
      rw [dropWhile_eq_self_of_starts (by simpa using starts), rdropWhile_blanks blankAfter,
        List.rdropWhile, dropWhile_eq_self_of_starts, List.reverse_reverse]
      rwa [List.head?_reverse]

/-! ## Setting by setting -/

def Settings.value (s : Settings) : SettingName → SettingValue
  | .findingsTable => .text s.findingsTable
  | .historyTable => .text s.historyTable
  | .historyTtlDays => .number s.historyTtlDays
  | .scanHelperAttribute => .text s.scanHelperAttribute
  | .scanHelperValue => .text s.scanHelperValue
  | .findingScanHelperAttribute => .text s.findingScanHelperAttribute
  | .defaultActor => .text s.defaultActor
  | .failureReasons => .texts s.failureReasons

/-- Settings are what they hold under the eight names. -/
theorem Settings.ext_value {s t : Settings} (same : ∀ name, s.value name = t.value name) :
    s = t := by
  have findingsTable := same .findingsTable
  have historyTable := same .historyTable
  have historyTtlDays := same .historyTtlDays
  have scanHelperAttribute := same .scanHelperAttribute
  have scanHelperValue := same .scanHelperValue
  have findingScanHelperAttribute := same .findingScanHelperAttribute
  have defaultActor := same .defaultActor
  have failureReasons := same .failureReasons
  cases s
  cases t
  simp_all [value]

namespace SettingName

def overriddenBy? : SettingName → Option String
  | findingsTable => some "FINDINGS_TABLE_NAME"
  | historyTable => some "HISTORY_TABLE_NAME"
  | historyTtlDays => some "HISTORY_TTL_DAYS"
  | _ => none

def given? (name : SettingName) (lookup : String → Option String) : Option String :=
  name.overriddenBy?.bind lookup

/-- What the text of its variable makes of a setting: a table is called what the text says, and a
retention is the number that it spells, blanks around it ignored. -/
def Gives (text : String) : SettingName → SettingValue → Prop
  | findingsTable, v => v = .text text
  | historyTable, v => v = .text text
  | historyTtlDays, v =>
    ∃ core days, Trimmed text.toList core ∧ SpellsWord core days ∧ v = .number days
  | _, _ => False

end SettingName

namespace Settings

variable {base base' s : Settings} {lookup : String → Option String}

/-- `s` is what the variables that are set make of `base`. -/
def Overridden (base : Settings) (lookup : String → Option String) (s : Settings) : Prop :=
  ∀ name : SettingName,
    (∀ text, name.given? lookup = some text → name.Gives text (s.value name)) ∧
      (name.given? lookup = none → s.value name = base.value name)

/-- Two settings agree wherever no variable overrides them. -/
def AgreeBeside (lookup : String → Option String) (base base' : Settings) : Prop :=
  ∀ name : SettingName, name.given? lookup = none → base.value name = base'.value name

/-- What was overridden stays as it is under the same overrides. -/
theorem Overridden.again (h : base.Overridden lookup s) : s.Overridden lookup s := by
  intro name
  exact ⟨(h name).1, fun _ => rfl⟩

theorem Overridden.of_agree (h : base.Overridden lookup s) (agree : AgreeBeside lookup base base') :
    base'.Overridden lookup s := by
  intro name
  exact ⟨(h name).1, fun free => ((h name).2 free).trans (agree name free)⟩

/-- A retention is read from what a text spells between the blanks at its ends. -/
theorem readTtl?_eq_some_iff {text : String} {days : Int} :
    readTtl? text = some days ↔ ∃ core, Trimmed text.toList core ∧ SpellsWord core days := by
  unfold readTtl?
  rw [readWord?_eq_some_iff]
  constructor
  · intro spells
    exact ⟨_, trimBlanks_eq_iff.mp rfl, spells⟩
  · rintro ⟨core, trimmed, spells⟩
    rwa [trimBlanks_eq_iff.mpr trimmed]

theorem gives_historyTtlDays {text : String} {days : Int} :
    SettingName.historyTtlDays.Gives text (.number days) ↔ readTtl? text = some days := by
  rw [readTtl?_eq_some_iff]
  constructor
  · rintro ⟨core, days', trimmed, spells, same⟩
    cases same
    exact ⟨core, trimmed, spells⟩
  · rintro ⟨core, trimmed, spells⟩
    exact ⟨core, days, trimmed, spells, rfl⟩

/-- A table is called what its variable says, or else what it was called. -/
theorem table_overridden {given : Option String} {was now : String} :
    ((∀ text, given = some text → SettingValue.text now = .text text) ∧
      (given = none → SettingValue.text now = .text was)) ↔ now = given.getD was := by
  cases given with
  | none => simp
  | some text => simp

/-- Overridden settings are the base with the tables and the retention put in their place. -/
theorem overridden_iff : base.Overridden lookup s ↔ ∃ days,
    (∀ text, lookup historyTtlVariable = some text → readTtl? text = some days) ∧
      (lookup historyTtlVariable = none → days = base.historyTtlDays) ∧
      s = { base with
        findingsTable := (lookup findingsTableVariable).getD base.findingsTable
        historyTable := (lookup historyTableVariable).getD base.historyTable
        historyTtlDays := days } := by
  constructor
  · intro h
    refine ⟨s.historyTtlDays, ?_, ?_, ext_value fun name => ?_⟩
    · intro text given
      exact gives_historyTtlDays.mp ((h .historyTtlDays).1 text given)
    · intro free
      simpa [value] using (h .historyTtlDays).2 free
    · cases name with
      | findingsTable => exact congrArg SettingValue.text (table_overridden.mp (h .findingsTable))
      | historyTable => exact congrArg SettingValue.text (table_overridden.mp (h .historyTable))
      | historyTtlDays => rfl
      | _ => exact (h _).2 rfl
  · rintro ⟨days, given, free, rfl⟩ name
    cases name with
    | findingsTable => exact table_overridden.mpr rfl
    | historyTable => exact table_overridden.mpr rfl
    | historyTtlDays =>
      exact ⟨fun text set => gives_historyTtlDays.mpr (given text set),
        fun unset => congrArg SettingValue.number (free unset)⟩
    | _ => exact ⟨nofun, fun _ => rfl⟩

/-- Overrides succeed with exactly what they make of the settings. -/
theorem withOverrides_eq_ok_iff :
    base.withOverrides lookup = .ok s ↔ base.Overridden lookup s := by
  rw [overridden_iff, withOverrides]
  cases set : lookup historyTtlVariable with
  | none => simp [eq_comm]
  | some text =>
    cases read : readTtl? text with
    | none => simp [read]
    | some days => simp [read, eq_comm]

/-- And they fail for a retention that is no integer, whatever the settings are. -/
theorem withOverrides_eq_error_iff {e : SettingsError} :
    base.withOverrides lookup = .error e ↔
      ∃ text, lookup historyTtlVariable = some text ∧ readTtl? text = none ∧
        e = .notAnInteger historyTtlVariable text := by
  rw [withOverrides]
  cases set : lookup historyTtlVariable with
  | none => simp
  | some text =>
    cases read : readTtl? text with
    | none => simp [read, eq_comm]
    | some days => simp [read]

/-- **Overrides are exact.** They fail if and only if the variable of the retention is set to a text
that, without the blanks at its ends, is no numeral of a signed 64-bit integer, and then for that.
Otherwise each setting has what its variable gives it, if it has one that is set, and else what it
had. The same overrides once more change nothing. Settings that agree wherever nothing overrides
them come out alike, and alike in whether they pass the check. -/
theorem overrides_are_exact (base : Settings) (lookup : String → Option String) :
    ((∃ e, base.withOverrides lookup = .error e) ↔
      ∃ text, lookup "HISTORY_TTL_DAYS" = some text ∧
        ¬∃ core days, Trimmed text.toList core ∧ SpellsWord core days) ∧
    (∀ e, base.withOverrides lookup = .error e →
      ∃ text, lookup "HISTORY_TTL_DAYS" = some text ∧
        e = .notAnInteger "HISTORY_TTL_DAYS" text) ∧
    (∀ s, base.withOverrides lookup = .ok s ↔ base.Overridden lookup s) ∧
    (∀ s, base.withOverrides lookup = .ok s → s.withOverrides lookup = .ok s) ∧
    ∀ base', AgreeBeside lookup base base' →
      base.withOverrides lookup = base'.withOverrides lookup ∧
        (base.withOverrides lookup >>= validate) = (base'.withOverrides lookup >>= validate) := by
  have unreadable (text : String) :
      (¬∃ core days, Trimmed text.toList core ∧ SpellsWord core days) ↔ readTtl? text = none := by
    rw [Option.eq_none_iff_forall_ne_some, exists_comm]
    simp [readTtl?_eq_some_iff]
  refine ⟨?_, ?_, fun s => withOverrides_eq_ok_iff, ?_, ?_⟩
  · simp only [withOverrides_eq_error_iff, unreadable]
    constructor
    · rintro ⟨e, text, set, unread, -⟩
      exact ⟨text, set, unread⟩
    · rintro ⟨text, set, unread⟩
      exact ⟨_, text, set, unread, rfl⟩
  · intro e failed
    obtain ⟨text, set, -, rfl⟩ := withOverrides_eq_error_iff.mp failed
    exact ⟨text, set, rfl⟩
  · intro s ok
    exact withOverrides_eq_ok_iff.mpr (withOverrides_eq_ok_iff.mp ok).again
  · intro base' agree
    have same : base.withOverrides lookup = base'.withOverrides lookup := by
      cases result : base.withOverrides lookup with
      | ok s =>
        exact (withOverrides_eq_ok_iff.mpr
          ((withOverrides_eq_ok_iff.mp result).of_agree agree)).symm
      | error e =>
        exact (withOverrides_eq_error_iff.mpr (withOverrides_eq_error_iff.mp result)).symm
    rw [same]
    exact ⟨rfl, rfl⟩

def paddedVariables (name : String) : Option String :=
  [("FINDINGS_TABLE_NAME", ""), ("HISTORY_TTL_DAYS", "\u2003+0090\n")].lookup name

def tablesNamed : Settings := { findingsTable := "findings", historyTable := "history" }

def historyNamed : Settings := { historyTable := "history", historyTtlDays := -1 }

/-- Two bases that come out alike, and a sign that stands apart from its digits. -/
theorem overrides_of_paddedVariables :
    (tablesNamed.withOverrides paddedVariables = .ok { historyNamed with historyTtlDays := 90 } ∧
      ({ historyNamed with historyTtlDays := 90 } : Settings).withOverrides paddedVariables =
        .ok { historyNamed with historyTtlDays := 90 } ∧
      AgreeBeside paddedVariables tablesNamed historyNamed ∧
      tablesNamed.withOverrides paddedVariables = historyNamed.withOverrides paddedVariables) ∧
    tablesNamed.withOverrides (fun _ => some "- 1") =
        .error (.notAnInteger "HISTORY_TTL_DAYS" "- 1") ∧
      ∃ text, some "- 1" = some text ∧
        SettingsError.notAnInteger "HISTORY_TTL_DAYS" "- 1" =
          .notAnInteger "HISTORY_TTL_DAYS" text := by
  have ok : tablesNamed.withOverrides paddedVariables =
      .ok { historyNamed with historyTtlDays := 90 } := by decide +kernel
  have failed : tablesNamed.withOverrides (fun _ => some "- 1") =
      .error (.notAnInteger "HISTORY_TTL_DAYS" "- 1") := by decide +kernel
  have agree : AgreeBeside paddedVariables tablesNamed historyNamed := by
    intro name free
    cases name with
    | findingsTable => cases free
    | historyTtlDays => cases free
    | _ => rfl
  obtain ⟨-, -, -, again, alike⟩ := overrides_are_exact tablesNamed paddedVariables
  obtain ⟨-, told, -⟩ := overrides_are_exact tablesNamed fun _ => some "- 1"
  exact ⟨⟨ok, again _ ok, agree, (alike _ agree).1⟩, failed, told _ failed⟩

end Settings

end RemediationLedger
