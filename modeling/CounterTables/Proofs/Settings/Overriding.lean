import Mathlib
import CounterTables.Settings.Settings

/-!
# Options over settings

Options choose the mode of the origin or leave it as it is, and may give the
place that goes with one of the two modes. What they come to is decided by the
mode that results, not by the one that the settings had: a place for the other
mode is refused, and a place of the settings is kept just if they were in this
mode already.

`Refused` and `Resolves` say this for each outcome on its own. Both look at the
settings only through what the options leave open, so the same options find
nothing left to change in the result.

## Main results

* `choose_of_url`, `choose_of_directory` — what the flags make of an origin.
* `override_of_refused`, `exists_resolves` — options are refused, or there is a
  result.
* `Overrides.Refused.of_mode_eq`, `Resolves.again` — the same options over the
  result.
* `override_resolves` — when options are refused, what the result is, and that
  it stays.
-/

namespace CounterTables

/-! ## Modes -/

/-- The two ways in which documents are had. -/
inductive Mode
  | url
  | directory
  deriving DecidableEq

namespace Origin

def mode : Origin → Mode
  | url _ => .url
  | directory _ => .directory

/-- The base URL, which only one mode has. -/
def base? : Origin → Option String
  | url base => some base
  | directory _ => none

/-- The root, which only one mode has, and that one not always. -/
def root? : Origin → Option String
  | url _ => none
  | directory root => root

end Origin

/-- The mode under options: the one that a flag asks for, else that of the
settings. -/
def Overrides.mode (overrides : Overrides) (origin : Origin) : Mode :=
  if overrides.file then .directory
  else if overrides.url then .url
  else origin.mode

section Choose

variable {overrides : Overrides} {origin : Origin}

/-- A base URL is there already, or it is the default. -/
theorem choose_of_url (h : overrides.mode origin = .url) :
    origin.choose overrides = .url (origin.base?.getD publishedBase) := by
  unfold Overrides.mode at h
  unfold Origin.choose
  split at h
  · cases h
  · rename_i hfile
    rw [if_neg hfile]
    split
    · cases origin <;> rfl
    · rename_i hurl
      rw [if_neg hurl] at h
      cases origin with
      | url base => rfl
      | directory root => cases h

/-- A root is there already, or there is none. -/
theorem choose_of_directory (h : overrides.mode origin = .directory) :
    origin.choose overrides = .directory origin.root? := by
  unfold Overrides.mode at h
  unfold Origin.choose
  split at h
  · rename_i hfile
    rw [if_pos hfile]
    cases origin <;> rfl
  · rename_i hfile
    rw [if_neg hfile]
    split at h
    · cases h
    · rename_i hurl
      rw [if_neg hurl]
      cases origin with
      | url base => cases h
      | directory root => rfl

end Choose

/-! ## Options that are refused -/

/-- Why the options cannot be applied. Two flags count before everything else,
and the place that goes with the other mode is refused. -/
inductive Overrides.Refused (overrides : Overrides) (origin : Origin) :
    SettingsFault → Prop
  | flags (hurl : overrides.url = true) (hfile : overrides.file = true) :
      Refused overrides origin .conflictingSources
  | root (hflags : ¬(overrides.url = true ∧ overrides.file = true))
      (hmode : overrides.mode origin = .url)
      (hroot : overrides.sourceRoot.isSome = true) :
      Refused overrides origin .sourceRootWithUrl
  | base (hflags : ¬(overrides.url = true ∧ overrides.file = true))
      (hmode : overrides.mode origin = .directory)
        (hbase : overrides.baseUrl.isSome = true) :
      Refused overrides origin .baseUrlWithDirectory

/-- Of the settings, only the mode under the options matters. -/
theorem Overrides.Refused.of_mode_eq {overrides : Overrides} {origin other : Origin}
    {fault : SettingsFault} (h : overrides.Refused origin fault)
    (hmode : overrides.mode other = overrides.mode origin) :
    overrides.Refused other fault := by
  cases h with
  | flags hurl hfile => exact .flags hurl hfile
  | root hflags horigin hroot => exact .root hflags (hmode.trans horigin) hroot
  | base hflags horigin hbase => exact .base hflags (hmode.trans horigin) hbase

/-! ## The result -/

/-- The result of options over settings. A place is that of the options, else
the one that the settings have for this mode, else the default for it, and so
with everything else that the options may give. The catalog is not theirs. -/
structure Resolves (settings : Settings) (overrides : Overrides) (result : Settings) :
    Prop where
  of_url : overrides.mode settings.origin = .url → result.origin =
    .url ((overrides.baseUrl.or settings.origin.base?).getD publishedBase)
  of_directory : overrides.mode settings.origin = .directory → result.origin =
    .directory (overrides.sourceRoot.or settings.origin.root?)
  cpu_eq : result.cpu = overrides.cpu.or settings.cpu
  output_eq : result.output = overrides.output.or settings.output
  license_eq : result.license = overrides.license.or settings.license
  catalog_eq : result.catalog = settings.catalog

namespace Resolves

variable {settings result other : Settings} {overrides : Overrides}

theorem mode_eq (h : Resolves settings overrides result) :
    result.origin.mode = overrides.mode settings.origin := by
  cases hmode : overrides.mode settings.origin with
  | url => rw [h.of_url hmode]; rfl
  | directory => rw [h.of_directory hmode]; rfl

theorem unique (h : Resolves settings overrides result)
    (h' : Resolves settings overrides other) : result = other := by
  have horigin : result.origin = other.origin := by
    cases hmode : overrides.mode settings.origin with
    | url => rw [h.of_url hmode, h'.of_url hmode]
    | directory => rw [h.of_directory hmode, h'.of_directory hmode]
  have hcpu : result.cpu = other.cpu := h.cpu_eq.trans h'.cpu_eq.symm
  have houtput : result.output = other.output := h.output_eq.trans h'.output_eq.symm
  have hlicense : result.license = other.license :=
    h.license_eq.trans h'.license_eq.symm
  have hcatalog : result.catalog = other.catalog :=
    h.catalog_eq.trans h'.catalog_eq.symm
  cases result
  cases other
  simp_all

/-- The mode of the result is the one that the options ask of it. -/
theorem mode_again (h : Resolves settings overrides result) :
    overrides.mode result.origin = overrides.mode settings.origin := by
  have hresult := h.mode_eq
  unfold Overrides.mode at hresult ⊢
  split
  · rfl
  · split
    · rfl
    · simp_all

/-- The result is what it is under the same options, too. -/
theorem again (h : Resolves settings overrides result) :
    Resolves result overrides result where
  of_url hmode := by
    have horigin := h.of_url (h.mode_again.symm.trans hmode)
    rw [horigin]
    cases overrides.baseUrl <;> rfl
  of_directory hmode := by
    have horigin := h.of_directory (h.mode_again.symm.trans hmode)
    rw [horigin]
    cases overrides.sourceRoot <;> rfl
  cpu_eq := by rw [h.cpu_eq, ← Option.or_assoc, Option.or_self]
  output_eq := by rw [h.output_eq, ← Option.or_assoc, Option.or_self]
  license_eq := by rw [h.license_eq, ← Option.or_assoc, Option.or_self]
  catalog_eq := rfl

end Resolves

/-! ## Applying options -/

section Override

variable {settings : Settings} {overrides : Overrides}

/-- Without a conflict of flags, the origin that they choose is moved to the
place that is given. -/
theorem override_of_not_flags (h : ¬(overrides.url = true ∧ overrides.file = true)) :
    settings.override overrides =
      ((settings.origin.choose overrides).relocate overrides).map fun origin =>
        ⟨origin, settings.catalog, overrides.cpu.or settings.cpu,
          overrides.license.or settings.license,
            overrides.output.or settings.output⟩ := by
  have hflags : ¬((overrides.url && overrides.file) = true) := by simpa using h
  rw [Settings.override, if_neg hflags]
  simp only [Option.orElse_eq_orElse, Option.orElse_eq_or]

theorem override_of_refused {fault : SettingsFault}
    (h : overrides.Refused settings.origin fault) :
    settings.override overrides = .error fault := by
  cases h with
  | flags hurl hfile => simp [Settings.override, hurl, hfile]
  | root hflags hmode hroot =>
      rw [override_of_not_flags hflags, choose_of_url hmode, Origin.relocate,
        if_pos hroot]
      rfl
  | base hflags hmode hbase =>
      rw [override_of_not_flags hflags, choose_of_directory hmode, Origin.relocate,
        if_pos hbase]
      rfl

theorem exists_resolves (h : ∀ fault, ¬overrides.Refused settings.origin fault) :
    ∃ result, settings.override overrides = .ok result ∧
      Resolves settings overrides result := by
  have hflags : ¬(overrides.url = true ∧ overrides.file = true) :=
    fun hboth => h _ (.flags hboth.1 hboth.2)
  rw [override_of_not_flags hflags]
  cases hmode : overrides.mode settings.origin with
  | url =>
      have hroot : ¬overrides.sourceRoot.isSome = true := fun hgiven =>
        h _ (.root hflags hmode hgiven)
      have hplace : overrides.baseUrl.getD (settings.origin.base?.getD publishedBase) =
          (overrides.baseUrl.or settings.origin.base?).getD publishedBase := by
        cases overrides.baseUrl <;> rfl
      rw [choose_of_url hmode, Origin.relocate, if_neg hroot, hplace]
      refine ⟨_, rfl, fun _ => rfl, fun hother => ?_, rfl, rfl, rfl, rfl⟩
      cases hmode.symm.trans hother
  | directory =>
      have hbase : ¬overrides.baseUrl.isSome = true := fun hgiven =>
        h _ (.base hflags hmode hgiven)
      rw [choose_of_directory hmode, Origin.relocate, if_neg hbase,
        Option.orElse_eq_orElse, Option.orElse_eq_or]
      refine ⟨_, rfl, fun hother => ?_, fun _ => rfl, rfl, rfl, rfl, rfl⟩
      cases hmode.symm.trans hother

theorem override_eq_error_iff {fault : SettingsFault} :
    settings.override overrides = .error fault ↔
      overrides.Refused settings.origin fault := by
  refine ⟨fun herror => ?_, override_of_refused⟩
  by_cases h : ∃ other, overrides.Refused settings.origin other
  · obtain ⟨other, hother⟩ := h
    have hsame := herror.symm.trans (override_of_refused hother)
    exact Except.error.inj hsame ▸ hother
  · obtain ⟨result, hok, -⟩ := exists_resolves (not_exists.1 h)
    cases herror.symm.trans hok

end Override

/-- **Options over settings.** Options are refused for the first of three
reasons that holds: both flags, a root where the mode is that of URLs, a base
URL where it is that of directories. Else there is a result, in the mode that
the flags ask for or that of the settings, in which every option that is given
has its value, everything else is kept, and a place that the settings do not
have for this mode is the default. The same options leave the result as it
is. -/
theorem override_resolves (settings : Settings) (overrides : Overrides) :
    (∀ fault, settings.override overrides = .error fault ↔
      overrides.Refused settings.origin fault) ∧
    ((∀ fault, ¬overrides.Refused settings.origin fault) →
      ∃ result, settings.override overrides = .ok result ∧
        result.origin.mode = overrides.mode settings.origin ∧
        Resolves settings overrides result ∧
        result.override overrides = .ok result) := by
  refine ⟨fun fault => override_eq_error_iff, ?_⟩
  intro hnone
  obtain ⟨result, hoverride, hresult⟩ := exists_resolves hnone
  refine ⟨result, hoverride, hresult.mode_eq, hresult, ?_⟩
  have hagain : ∀ fault, ¬overrides.Refused result.origin fault :=
    fun fault hfault => hnone fault (hfault.of_mode_eq hresult.mode_again.symm)
  obtain ⟨again, hok, hresolves⟩ := exists_resolves hagain
  rw [hok, hresolves.unique hresult.again]

/-- A root goes with the mode that was left, and is not kept for later. -/
example : (Settings.override ⟨.directory (some "pmu"), .standard, none, none, none⟩
    ⟨true, false, none, none, some "n1", none, none⟩) =
      .ok ⟨.url publishedBase, .standard, some "n1", none, none⟩ := by
  decide

end CounterTables
