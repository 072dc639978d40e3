import Mathlib
import BracketSpacing.Command.Basic
import BracketSpacing.Yaml.Document

/-!
# Commands without a report

* `Command.performRun_eq_ok_iff`: what a command comes to that writes no report. Its settings describe no normalizer, or
  its run comes to its end.
* `Command.fix_succeeds_iff`, `Command.check_succeeds_iff`: when the exit code is zero.
* `Command.perform_format`: what `format` comes to.
* The normalizer of a command follows a strategy (`SettingsArguments.exists_strategy_of_prepare`).
-/

namespace BracketSpacing

variable {h : Host} {l : Loader} {a : RunArguments} {t after : FileTree} {x : Settings × Normalizer} {p : Performance}
  {input : List Char}

/-! ## Preparation -/

theorem Normalizer.exists_strategy_of_ofSpacing {settings : Spacing} {n : Normalizer}
    (h : ofSpacing settings none = .ok n) : ∃ strategy, n.segmenter = .strategy strategy := by
  rw [ofSpacing] at h
  split at h
  · cases h
  · cases hnamed : Strategy.named settings.strategy with
    | error e =>
      simp only [hnamed] at h
      cases h
    | ok strategy =>
      simp only [hnamed] at h
      cases h
      exact ⟨strategy, rfl⟩

theorem SettingsArguments.exists_strategy_of_prepare {a : SettingsArguments} (hprepare : a.prepare l t = .ok x) :
    ∃ strategy, x.2.segmenter = .strategy strategy := by
  cases hsettings : a.settings l t with
  | error e => simp [prepare, hsettings, bind, Except.bind] at hprepare
  | ok settings =>
    simp only [prepare, hsettings, bind, Except.bind] at hprepare
    split at hprepare
    · rename_i n hn
      cases hprepare
      exact Normalizer.exists_strategy_of_ofSpacing hn
    · cases hprepare

/-- The settings and the normalizer of a command that are all defaults. -/
def standardSetup : Settings × Normalizer :=
  ({}, ({} : RunOptions).normalizer)

/-- Where no settings file is, all settings are defaults. -/
theorem SettingsArguments.prepare_standard {a : SettingsArguments} (l : Loader) (hconfig : a.config = .standard)
    (hstrategy : a.strategy = none) (hnone : t.holds (.ofString Settings.defaultFile) = false) :
    a.prepare l t = .ok standardSetup := by
  have hsettings : a.settings l t = .ok {} := by
    rw [settings, loaded, hconfig, Settings.load, hnone, hstrategy]
    rfl
  rw [prepare, hsettings]
  rfl

/-- A host that reads YAML and keeps line breaks, and on which nothing goes wrong with files. -/
def posixHost : Host where
  document := Yaml.load
  room := ⟨992, 991⟩
  lineMode := .kept
  walkLevels := 985
  reportLevels := 989
  time := ""

/-- Two hosts on which the same goes wrong with files, and walks can go as deep. -/
structure Host.RunsAlike (h h' : Host) : Prop where
  storage : h'.storage = h.storage
  walkLevels : h'.walkLevels = h.walkLevels

/-- Runs with the same settings go over the same on them. -/
theorem Host.RunsAlike.scope {h' : Host} (halike : h.RunsAlike h') (settings : Settings) :
    h'.scope settings = h.scope settings := by
  rw [Host.scope, Host.scope, halike.walkLevels]

/-! ## Performances -/

/-- Whether no report is asked for. -/
def RunArguments.IsSilent (a : RunArguments) : Prop :=
  a.reportFile = none ∨ a.reportFile = some ""

/-- The run over the files of a command, by its settings and its normalizer. -/
def RunArguments.run (h : Host) (a : RunArguments) (x : Settings × Normalizer) (dryRun : Bool) (t : FileTree) :
    Except Abort Bool × Run :=
  Run.run (h.runOptions a dryRun x.1 x.2) a.paths { tree := t }

/-- What a run prints and the files after it. -/
def Run.performance (r : Run) : Performance :=
  { exitCode := 0, out := r.out, err := r.err, tree := r.tree }

namespace Command

theorem finish_of_isSilent (ha : a.IsSilent) (dryRun : Bool) (r : Run) (conclude : Performance → Performance) :
    finish h a dryRun r conclude = .ok (conclude r.performance) := by
  rcases ha with hfile | hfile
  · simp only [finish, hfile, Run.performance]
  · simp only [finish, hfile, Run.performance]

/-- A command comes to something if its settings describe no normalizer, or if its run comes to its end. -/
theorem performRun_eq_ok_iff (ha : a.IsSilent) {dryRun : Bool} {conclude : Bool → Run → Performance → Performance} :
    performRun h a dryRun t conclude = .ok p ↔
      (∃ failure, a.prepare h.toLoader t = .error (.inr failure) ∧ p = ended t failure) ∨
      ∃ x ok, a.prepare h.toLoader t = .ok x ∧ (a.run h x dryRun t).1 = .ok ok ∧
        p = conclude ok (a.run h x dryRun t).2 (a.run h x dryRun t).2.performance := by
  rw [performRun]
  cases hprepare : a.prepare h.toLoader t with
  | error e =>
    cases e with
    | inl fault => simp [settled]
    | inr failure => simp [settled, eq_comm]
  | ok x =>
    simp only [settled, finish_of_isSilent ha]
    have hrun : Run.run (h.runOptions a dryRun x.1 x.2) a.paths { tree := t } = a.run h x dryRun t := rfl
    rw [hrun]
    rcases hresult : a.run h x dryRun t with ⟨e | ok, r⟩
    · simp [hresult]
    · cases ok <;> simp [hresult, eq_comm]

/-- `format` prints the normalized text. -/
theorem perform_format {b : SettingsArguments} {strategy : Strategy} (hb : b.prepare h.toLoader t = .ok x)
    (hx : x.2.segmenter = .strategy strategy) : (format b).perform h input t = .ok {
      exitCode := 0
      out := String.ofList (normalizeWith strategy x.2.guard x.2.passLimit (h.lineMode.read input)).text
      tree := t } := by
  simp only [perform, settled, hb, Normalizer.normalize?, hx]

/-- `fix` comes to what its run comes to. -/
theorem exists_perform_fix (ha : a.IsSilent) (hprepare : a.prepare h.toLoader t = .ok x) {ok : Bool}
    (hok : (a.run h x a.dryRun t).1 = .ok ok) (input : List Char) : ∃ p, (fix a).perform h input t = .ok p ∧
      p.exitCode = (if ok then 0 else 1) ∧ p.tree = (a.run h x a.dryRun t).2.tree := by
  rw [perform]
  exact ⟨_, (performRun_eq_ok_iff ha).mpr (Or.inr ⟨x, ok, hprepare, hok, rfl⟩), rfl, rfl⟩

/-- The exit code of `fix` is zero if all goes well. -/
theorem fix_succeeds_iff (ha : a.IsSilent) :
    (∃ p, (fix a).perform h input t = .ok p ∧ p.exitCode = 0 ∧ p.tree = after) ↔
      ∃ x, a.prepare h.toLoader t = .ok x ∧
        (a.run h x a.dryRun t).1 = .ok true ∧ (a.run h x a.dryRun t).2.tree = after := by
  simp only [perform, performRun_eq_ok_iff ha]
  constructor
  · rintro ⟨p, ⟨failure, -, rfl⟩ | ⟨x, ok, hprepare, hok, rfl⟩, hcode, htree⟩
    · cases hcode
    · cases ok with
      | false => cases hcode
      | true => exact ⟨x, hprepare, hok, htree⟩
  · rintro ⟨x, hprepare, hok, htree⟩
    exact ⟨_, Or.inr ⟨x, true, hprepare, hok, rfl⟩, rfl, htree⟩

/-- The exit code of `check` is zero if all goes well and no file would be changed. -/
theorem check_succeeds_iff (ha : a.IsSilent) :
    (∃ p, (check a).perform h input t = .ok p ∧ p.exitCode = 0) ↔
      ∃ x, a.prepare h.toLoader t = .ok x ∧
        (a.run h x true t).1 = .ok true ∧ (a.run h x true t).2.tally.changed = 0 := by
  simp only [perform, performRun_eq_ok_iff ha]
  constructor
  · rintro ⟨p, ⟨failure, -, rfl⟩ | ⟨x, ok, hprepare, hok, rfl⟩, hcode⟩
    · cases hcode
    · by_cases h : (ok && (a.run h x true t).2.tally.changed == 0) = true
      · rw [Bool.and_eq_true, beq_iff_eq] at h
        obtain ⟨rfl, hchanged⟩ := h
        exact ⟨x, hprepare, hok, hchanged⟩
      · rw [if_neg h] at hcode
        cases hcode
  · rintro ⟨x, hprepare, hok, hchanged⟩
    refine ⟨_, Or.inr ⟨x, true, hprepare, hok, rfl⟩, ?_⟩
    rw [hchanged]
    rfl

end Command

end BracketSpacing
