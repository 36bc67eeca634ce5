import CredentialRotation.Proofs.Configuration.Acceptance
import CredentialRotation.Proofs.Pattern.Matching
import CredentialRotation.Proofs.Service.Prediction

/-!
What validation accepts. The patterns mean that the level is one of those that logging knows and that
the paths can be paths, so that nothing that works with an accepted configuration has to refuse it.
-/
namespace CredentialRotation

section Patterns
variable {word path name : String}

/-- The words for the thresholds, in the order in which the pattern has them. -/
def levelWords : List String := ["off", "trace", "debug", "info", "warn", "error"]

theorem exists_ofWord_iff : (∃ t, Threshold.ofWord word = .ok t) ↔ word ∈ levelWords := by
  constructor
  · rintro ⟨t, known⟩
    by_contra other
    have unknown : Threshold.ofWord? word = none := by
      unfold Threshold.ofWord?
      split <;> simp_all [levelWords]
    rw [Threshold.ofWord, unknown] at known
    cases known
  · intro mem
    fin_cases mem <;> exact ⟨_, rfl⟩

/-- The pattern for levels matches exactly the words that logging knows. -/
theorem check_level (name word : String) :
    Condition.check ⟨name, word, Configuration.levelPattern⟩ =
      if word ∈ levelWords then .ok ()
      else .error (.patternMismatch name word Configuration.levelPattern) := by
  have read : Pattern.ofText? Configuration.levelPattern =
      some (.whole ((levelWords.tail.map fun w => Pattern.spelled w.toList).foldl .choice
        (.spelled "off".toList))) := by
    decide +kernel
  simp only [Condition.check, read]
  congr 1
  simp only [Pattern.occursIn_whole_iff, Pattern.matches_choices_iff, List.mem_map,
    exists_exists_and_eq_and, Pattern.matches_spelled_whole_iff, String.toList_inj]
  simp [levelWords]

/-- What a path has to be: not empty, and without the character that ends the names of files. -/
def IsPath (path : String) : Prop := path ≠ "" ∧ '\x00' ∉ path.toList

instance (path : String) : Decidable (IsPath path) := inferInstanceAs (Decidable (_ ∧ _))

/-- All characters but the one. -/
def pathChars : Pattern.CharSet := .complement (.union .empty (.single '\x00'))

theorem pathChars_holds_iff {c : Char} : pathChars.holds c = true ↔ c ≠ '\x00' := by
  have none : Pattern.CharSet.empty.holds c = false := by
    by_contra holds
    have both : '\x01' ≤ c ∧ c ≤ '\x00' := by
      simpa [Pattern.CharSet.empty, Pattern.CharSet.holds] using holds
    exact absurd (Char.le_trans both.1 both.2) (by decide)
  simp only [pathChars, Pattern.CharSet.holds, none, Bool.false_or, Bool.not_eq_true',
    Bool.eq_false_iff, ne_eq, Pattern.holds_single_iff]

/-- The pattern for paths matches exactly those. -/
theorem check_path (name path : String) :
    Condition.check ⟨name, path, Configuration.pathPattern⟩ =
      if IsPath path then .ok ()
      else .error (.patternMismatch name path Configuration.pathPattern) := by
  have read : Pattern.ofText? Configuration.pathPattern =
      some (.whole (.repeated 1 none (.one pathChars))) := by
    decide +kernel
  have fits : (Pattern.whole (.repeated 1 none (.one pathChars))).occursIn path = true ↔
      IsPath path := by
    simp only [Pattern.occursIn_whole_iff, Pattern.matches_run_whole_iff, pathChars_holds_iff,
      IsPath, List.forall_mem_ne', ne_eq, String.toList_eq_nil_iff]
  simp only [Condition.check, read, fits]

end Patterns

namespace Configuration

/-- What validation looks at, item by item. -/
inductive Item
  | level
  | keyPath
  | certificatesPath
  | bundlePath
  | refreshInterval
  | consoleInterval
  deriving DecidableEq, Repr

namespace Item
variable {c : Configuration} {item : Item} {failure : SetupFailure}

/-- The items in the order in which they are looked at. -/
def all : List Item :=
  [.level, .keyPath, .certificatesPath, .bundlePath, .refreshInterval, .consoleInterval]

/-- The name that messages have for an item. -/
def name : Item → String
  | .level => "[LOG] Level"
  | .keyPath => "[IDENTITY] Key path"
  | .certificatesPath => "[IDENTITY] Certificate path"
  | .bundlePath => "[VERIFICATION] Trust bundle path"
  | .refreshInterval => "[IDENTITY] Refresh interval"
  | .consoleInterval => "[LOG] Console interval"

/-- An item is not as those need it who work with the configuration. -/
def Offends (c : Configuration) : Item → Prop
  | .level => ¬ ∃ t, Threshold.ofWord c.logLevel = .ok t
  | .keyPath => ¬ IsPath c.identity.keyPath
  | .certificatesPath => ¬ IsPath c.identity.certificatesPath
  | .bundlePath => ∃ path, c.verification.trustBundlePath = some path ∧ ¬ IsPath path
  | .refreshInterval => c.identity.refreshMillis = 0
  | .consoleInterval => c.consoleSeconds = 0

/-- How validation fails because of an item. -/
def refusal (c : Configuration) : Item → SetupFailure
  | .level => .patternMismatch (name .level) c.logLevel levelPattern
  | .keyPath => .patternMismatch (name .keyPath) c.identity.keyPath pathPattern
  | .certificatesPath =>
    .patternMismatch (name .certificatesPath) c.identity.certificatesPath pathPattern
  | .bundlePath =>
    .patternMismatch (name .bundlePath) (c.verification.trustBundlePath.getD "") pathPattern
  | .refreshInterval => .zeroRefreshInterval
  | .consoleInterval => .zeroConsoleInterval

/-- The check of one item. -/
def check (c : Configuration) : Item → Except SetupFailure Unit
  | .level => Condition.check ⟨name .level, c.logLevel, levelPattern⟩
  | .keyPath => Condition.check ⟨name .keyPath, c.identity.keyPath, pathPattern⟩
  | .certificatesPath =>
    Condition.check ⟨name .certificatesPath, c.identity.certificatesPath, pathPattern⟩
  | .bundlePath =>
    c.verification.trustBundlePath.toList.forM fun path =>
      Condition.check ⟨name .bundlePath, path, pathPattern⟩
  | .refreshInterval => if c.identity.refreshMillis = 0 then .error .zeroRefreshInterval else .ok ()
  | .consoleInterval => if c.consoleSeconds = 0 then .error .zeroConsoleInterval else .ok ()

/-- Validation is a check of one item after another. -/
theorem validate_eq (c : Configuration) : c.validate = all.forM (check c) := by
  let first : List Item := [.level, .keyPath, .certificatesPath, .bundlePath]
  let last : List Item := [.refreshInterval, .consoleInterval]
  have texts : c.conditions.forM Condition.check = first.forM (check c) := by
    cases configured : c.verification.trustBundlePath <;>
      simp [first, conditions, check, configured, name]
  have split : (first ++ last).forM (check c) =
      (first.forM (check c)).bind fun _ => last.forM (check c) :=
    List.forM_append
  change _ = (first ++ last).forM (check c)
  rw [split, ← texts, validate]
  congr 1
  funext _
  by_cases refresh : c.identity.refreshMillis = 0 <;> by_cases console : c.consoleSeconds = 0 <;>
    simp [last, check, refresh, console] <;> rfl

theorem check_eq_ok (fine : ¬ item.Offends c) : item.check c = .ok () := by
  cases item with
  | level =>
    rw [Offends, not_not, exists_ofWord_iff] at fine
    rw [check, check_level, if_pos fine]
  | keyPath => rw [check, check_path, if_pos (not_not.1 fine)]
  | certificatesPath => rw [check, check_path, if_pos (not_not.1 fine)]
  | bundlePath =>
    rw [check, forM_eq_ok_iff]
    intro path mem
    rw [check_path, if_pos]
    by_contra bad
    exact fine ⟨path, Option.mem_toList.1 mem, bad⟩
  | refreshInterval => exact if_neg fine
  | consoleInterval => exact if_neg fine

theorem check_eq_error (offends : item.Offends c) : item.check c = .error (item.refusal c) := by
  cases item with
  | level =>
    rw [Offends, exists_ofWord_iff] at offends
    rw [check, check_level, if_neg offends]
    rfl
  | keyPath =>
    rw [check, check_path, if_neg offends]
    rfl
  | certificatesPath =>
    rw [check, check_path, if_neg offends]
    rfl
  | bundlePath =>
    obtain ⟨path, configured, bad⟩ := offends
    simp only [check, configured, refusal, Option.toList_some, Option.getD_some]
    exact forM_eq_error_iff.2 ⟨[], path, [], rfl, nofun, (check_path _ _).trans (if_neg bad)⟩
  | refreshInterval => exact if_pos offends
  | consoleInterval => exact if_pos offends

/-- The message names the item. -/
theorem refusal_message (c : Configuration) (item : Item) :
    ∃ detail, (item.refusal c).message =
      "[VALIDATE CONFIG] Error checking " ++ item.name ++ " [:] " ++ detail := by
  have zero (name : String) : ∃ detail,
      "[VALIDATE CONFIG] Error checking " ++ name ++ " [:] " ++ "must be greater than zero" =
        "[VALIDATE CONFIG] Error checking " ++ name ++ " [:] " ++ detail := ⟨_, rfl⟩
  have mismatch (name value pattern : String) : ∃ detail,
      (SetupFailure.patternMismatch name value pattern).message =
        "[VALIDATE CONFIG] Error checking " ++ name ++ " [:] " ++ detail := by
    refine ⟨"Name: \"" ++ value ++ "\" [:] Regex: \"" ++ pattern ++ "\"", ?_⟩
    change "[VALIDATE CONFIG] Error checking " ++ name ++ " [:] " ++ "Name: \"" ++ value ++
      "\" [:] Regex: \"" ++ pattern ++ "\"" = _
    simp only [String.append_assoc]
  cases item with
  | refreshInterval => exact zero (name .refreshInterval)
  | consoleInterval => exact zero (name .consoleInterval)
  | _ => exact mismatch _ _ _

/-- There is an item to refuse the configuration for, and none before it. -/
def FirstOffends (c : Configuration) (item : Item) : Prop :=
  ∃ before after, all = before ++ item :: after ∧ (∀ b ∈ before, ¬ b.Offends c) ∧ item.Offends c

theorem check_eq_ok_iff : item.check c = .ok () ↔ ¬ item.Offends c := by
  refine ⟨fun passes offends => ?_, check_eq_ok⟩
  cases passes.symm.trans (check_eq_error offends)

theorem check_eq_error_iff :
    item.check c = .error failure ↔ item.Offends c ∧ failure = item.refusal c := by
  constructor
  · intro fails
    have offends : item.Offends c := by
      by_contra fine
      cases fails.symm.trans (check_eq_ok fine)
    exact ⟨offends, Except.error.inj (fails.symm.trans (check_eq_error offends))⟩
  · rintro ⟨offends, rfl⟩
    exact check_eq_error offends

end Item

section Validation
variable {c : Configuration} {failure : SetupFailure}

theorem valid_iff : c.validate = .ok () ↔
    (∃ t, Threshold.ofWord c.logLevel = .ok t) ∧ IsPath c.identity.keyPath ∧
      IsPath c.identity.certificatesPath ∧ (∀ path ∈ c.verification.trustBundlePath, IsPath path) ∧
      c.identity.refreshMillis ≠ 0 ∧ c.consoleSeconds ≠ 0 := by
  rw [Item.validate_eq, forM_eq_ok_iff]
  simp [Item.check_eq_ok_iff, Item.all, Item.Offends]

/-- Validation fails because of the first item that offends. -/
theorem validate_eq_error_iff : c.validate = .error failure ↔
    ∃ item : Item, item.FirstOffends c ∧ failure = item.refusal c := by
  have passes (item : Item) : (∃ done, item.check c = .ok done) ↔ ¬ item.Offends c :=
    Unique.exists_iff.trans Item.check_eq_ok_iff
  rw [Item.validate_eq, forM_eq_error_iff]
  simp only [FirstFails, passes, Item.check_eq_error_iff]
  constructor
  · rintro ⟨before, item, after, split, fine, offends, rfl⟩
    exact ⟨item, ⟨before, after, split, fine, offends⟩, rfl⟩
  · rintro ⟨item, ⟨before, after, split, fine, offends⟩, rfl⟩
    exact ⟨before, item, after, split, fine, offends, rfl⟩

/-- Nothing that works with the configuration has to refuse it, or to make up for it. -/
structure Suits (c : Configuration) : Prop where
  level : ∃ t, Threshold.ofWord c.logLevel = .ok t
  refreshes : c.refreshInterval.nanos ≠ 0
  reports : c.consoleInterval.nanos ≠ 0
  period (now : Duration) : (Service.startTask c now).value.period = c.refreshInterval
  bundle : (PeerPolicy.ofSettings c.verification.mode c.verification.trustBundlePath).bundle =
    c.verification.trustBundlePath.map .ofFile

theorem suits_of_valid (valid : c.validate = .ok ()) : c.Suits := by
  obtain ⟨level, -, -, bundle, refresh, console⟩ := valid_iff.1 valid
  refine ⟨level, ?_, ?_, fun now => ?_, ?_⟩
  · simpa [refreshInterval, Duration.ofMillis, ← UInt64.toNat_inj] using refresh
  · simpa [consoleInterval, Duration.ofSeconds, ← UInt64.toNat_inj] using console
  · rw [Service.startTask_value refresh]
  · cases configured : c.verification.trustBundlePath with
    | none => rfl
    | some path =>
      have named : path ≠ "" := (bundle path configured).1
      simp [PeerPolicy.ofSettings, Option.filter, named]

/-- Validation accepts exactly the configurations that suit all who work with them, and otherwise
names the first item that does not, in the order of the items. So a program that has loaded a
configuration can log at its level, waits for a while between two looks and between two reports, and
has a trust bundle exactly if there is a path for one. -/
theorem valid_suits_every_use :
    (∀ c : Configuration, c.validate = .ok () ↔
      (∃ t, Threshold.ofWord c.logLevel = .ok t) ∧ IsPath c.identity.keyPath ∧
        IsPath c.identity.certificatesPath ∧
        (∀ path ∈ c.verification.trustBundlePath, IsPath path) ∧
        c.identity.refreshMillis ≠ 0 ∧ c.consoleSeconds ≠ 0) ∧
    (∀ (c : Configuration) failure, c.validate = .error failure ↔
      ∃ item : Item, item.FirstOffends c ∧ failure = item.refusal c) ∧
    (∀ (c : Configuration) (item : Item), ∃ detail, (item.refusal c).message =
      "[VALIDATE CONFIG] Error checking " ++ item.name ++ " [:] " ++ detail) ∧
    ∀ path create disk c, (loadFrom path create disk).1.outcome = .ok c → c.Suits :=
  ⟨fun _ => valid_iff, fun _ _ => validate_eq_error_iff, Item.refusal_message,
    fun path create disk _ loads => suits_of_valid (Accepted.valid ⟨path, create, disk, loads⟩)⟩

/-- A level in capitals is named before an empty path and a zero. What the program starts from
suits. -/
theorem valid_suits_every_use_initial :
    { initial with
      logLevel := "INFO"
      consoleSeconds := 0
      identity := ⟨"", "cert.pem", 1⟩ }.validate =
        .error (.patternMismatch "[LOG] Level" "INFO" levelPattern) ∧
      ∃ path create disk x y,
        (loadFrom path create disk).1.outcome = .ok (initial.withRates x y) ∧
        (initial.withRates x y).Suits := by
  obtain ⟨valid, fails, -, suits⟩ := valid_suits_every_use
  have unknown : ¬ ∃ t, Threshold.ofWord "INFO" = .ok t := by
    rw [exists_ofWord_iff]
    decide
  have accepts : initial.validate = .ok () :=
    (valid initial).2 ⟨⟨_, rfl⟩, by decide, by decide, by decide, by decide, by decide⟩
  obtain ⟨x, y, path, create, disk, loads⟩ :=
    accepted_of_valid accepts initial_rate_fits initial_rate_fits
  exact ⟨(fails _ _).2 ⟨.level, ⟨[], _, rfl, nofun, unknown⟩, rfl⟩,
    path, create, disk, x, y, loads, suits path create disk _ loads⟩

end Validation
end Configuration
end CredentialRotation
