import BracketSpacing.Proofs.Agreement

/-!
# Runs over files that a run has written

* The stops of a run come to the same in the tree that it leaves, except that no file is changed or unsettled there
  (`FileTree.verdict_rewritten`, `FileTree.account_rewritten`).
* `Command.check_after_fix`: so `check` exits after `fix` as `fix` has.
* `Run.run_after_run`: a second run changes nothing, and its result is that of the first.
-/

namespace BracketSpacing

variable {t : FileTree} {n : Normalizer} {strategy : Strategy} {seen counted : List Path}

namespace FileTree

@[simp] theorem stops_rewritten (n : Normalizer) (seen : List Path) (t : FileTree) (s : Scope)
    (paths : List String) : (t.rewritten n seen).stops s paths = t.stops s paths :=
  stops_mapFiles _ t s paths

/-- What has been rewritten makes no difference to whether all goes well at a stop. -/
theorem goesWell_rewritten (hn : n.segmenter = .strategy strategy) (seen : List Path) (t : FileTree) (stop : Stop) :
    (t.rewritten n seen).goesWell n stop = t.goesWell n stop := by
  rcases List.eq_nil_or_concat' stop.read with hnone | ⟨front, p, hread⟩
  · exact goesWell_of_read hnone t
  · have hp : p ∈ stop.read := by simp [hread]
    obtain ⟨-, -, hwell, -⟩ := of_mem_read hp (t.rewritten n seen) n
    obtain ⟨-, -, hwell', -⟩ := of_mem_read hp t n
    rw [hwell, hwell', isSome_outcomeAt?_rewritten hn]

theorem failedFiles_rewritten (hn : n.segmenter = .strategy strategy) (seen : List Path) (t : FileTree) (stop : Stop) :
    ((t.rewritten n seen).entry n stop).failedFiles = (t.entry n stop).failedFiles := by
  rcases List.eq_nil_or_concat' stop.read with hnone | ⟨front, p, hread⟩
  · rw [entry_of_read hnone t]
  · have hp : p ∈ stop.read := by simp [hread]
    obtain ⟨-, -, -, hentry⟩ := of_mem_read hp (t.rewritten n seen) n
    obtain ⟨-, -, -, hentry'⟩ := of_mem_read hp t n
    have hsome := isSome_outcomeAt?_rewritten hn seen t p
    rw [hentry, hentry']
    cases houtcome : t.outcomeAt? n p <;> cases houtcome' : (t.rewritten n seen).outcomeAt? n p <;>
      simp_all [Tally.ofFile]

theorem verdict_rewritten (hn : n.segmenter = .strategy strategy) (seen : List Path) (t : FileTree)
    (stops : List Stop) : (t.rewritten n seen).verdict n stops = t.verdict n stops := by
  rw [verdict, verdict, funext (goesWell_rewritten hn seen t)]

theorem failures_rewritten (hn : n.segmenter = .strategy strategy) (seen : List Path) (t : FileTree)
    (stops : List Stop) : (t.rewritten n seen).failures n stops = t.failures n stops := by
  rw [failures, failures, funext (failedFiles_rewritten hn seen t)]

/-- A visit to a file that has been rewritten finds it unchanged, and its last pass shows it. -/
theorem filter_outcomeAt?_rewritten (hn : n.segmenter = .strategy strategy) (t : FileTree) {test : Outcome → Bool}
    (htest : ∀ text k, test ⟨text, false, k, true⟩ = false) (hcounted : ∀ p ∈ counted, p ∈ seen) :
    (counted.filter fun p => ((t.rewritten n seen).outcomeAt? n p).any test) = [] := by
  refine List.filter_eq_nil_iff.mpr fun p hp => ?_
  have hseen : t.Seen seen (t.located? p) := ⟨p, hcounted p hp, rfl⟩
  obtain ⟨k, hk⟩ := outcomeAt?_rewritten_of_seen hn hseen
  rw [hk]
  cases t.outcomeAt? n p with
  | none => exact Bool.false_ne_true
  | some outcome => simp [htest]

/-- Files that have been rewritten add nothing to a tally but their number and the failures. -/
theorem account_rewritten (hn : n.segmenter = .strategy strategy) (t : FileTree) (stops : List Stop)
    (hcounted : ∀ p ∈ counted, p ∈ seen) : (t.rewritten n seen).account n stops counted =
      { processed := ((Stop.reached stops).flatMap Stop.begun).length, failedFiles := t.failures n stops } := by
  have hchanges : (t.rewritten n seen).changes n counted = [] :=
    filter_outcomeAt?_rewritten hn t (fun _ _ => rfl) hcounted
  have hunsettled : (t.rewritten n seen).unsettled n counted = [] :=
    filter_outcomeAt?_rewritten hn t (fun _ _ => rfl) hcounted
  rw [account, hchanges, hunsettled, failures_rewritten hn]
  rfl

end FileTree

namespace Run

/-- A run over the files that a run has written, whether it only checks them or writes. -/
theorem run_rewritten (hn : n.segmenter = .strategy strategy) {storage : Storage} (hw : storage.Writes) (s : Scope)
    (dryRun verbose : Bool) (paths : List String) (t : FileTree) :
    let stops := storage.mark 0 (t.stops s paths)
    let second := run ⟨n, s, dryRun, verbose, storage⟩ paths { tree := t.rewritten n (Stop.files stops) }
    second.1 = t.verdict n stops ∧
    second.2.tree = t.rewritten n (Stop.files stops) ∧
    second.2.tally =
      { processed := ((Stop.reached stops).flatMap Stop.begun).length, failedFiles := t.failures n stops } := by
  intro stops second
  cases dryRun with
  | true =>
    obtain ⟨hresult, htree, htally⟩ := run_check_eq hn s verbose storage paths (t.rewritten n (Stop.files stops))
    rw [FileTree.stops_rewritten] at hresult htally
    exact ⟨hresult.trans (FileTree.verdict_rewritten hn _ t stops), htree,
      htally.trans (FileTree.account_rewritten hn t stops fun _ hp => hp)⟩
  | false =>
    obtain ⟨hresult, htree, htally⟩ := run_write_eq hn hw s verbose paths (t.rewritten n (Stop.files stops))
    rw [FileTree.stops_rewritten] at hresult htree htally
    exact ⟨hresult.trans (FileTree.verdict_rewritten hn _ t stops),
      htree.trans (FileTree.rewritten_rewritten hn (Stop.files stops) t),
      htally.trans (FileTree.account_rewritten hn t stops fun _ hp => FileTree.mem_of_mem_firstVisits hp)⟩

end Run

/-- `check` exits after `fix` as `fix` has, and leaves the files as they are. -/
theorem Command.check_after_fix {h h' : Host} {a a' : RunArguments} {input : List Char} {p : Performance}
    (hw : h.storage.Writes) (halike : h.RunsAlike h') (ha : a.IsSilent) (ha' : a'.IsSilent)
    (hwrites : a.dryRun = false) (hpaths : a.paths = a'.paths) (hfix : (fix a).perform h input t = .ok p)
    (hprepare : a'.prepare h'.toLoader p.tree = a.prepare h.toLoader t) (input' : List Char) :
    ∃ p', (check a').perform h' input' p.tree = .ok p' ∧ p'.exitCode = p.exitCode ∧ p'.tree = p.tree := by
  rw [perform, performRun_eq_ok_iff ha] at hfix
  simp only [perform, performRun_eq_ok_iff ha']
  rcases hfix with ⟨failure, hfailure, rfl⟩ | ⟨x, ok, hx, hok, rfl⟩
  · exact ⟨_, Or.inl ⟨failure, hprepare.trans hfailure, rfl⟩, rfl, rfl⟩
  · obtain ⟨strategy, hstrategy⟩ := SettingsArguments.exists_strategy_of_prepare hx
    obtain ⟨hwrite, hwritten, -⟩ := Run.run_write_eq hstrategy hw (h.scope x.1) a.verbose a.paths t
    obtain ⟨hresult, htree, htally⟩ := Run.run_rewritten hstrategy hw (h.scope x.1) true a'.verbose a.paths t
    have hfirst : a.run h x a.dryRun t =
        Run.run ⟨x.2, h.scope x.1, false, a.verbose, h.storage⟩ a.paths { tree := t } := by
      rw [RunArguments.run, Host.runOptions, hwrites]
    have hsecond : a'.run h' x true (a.run h x a.dryRun t).2.tree =
        Run.run ⟨x.2, h.scope x.1, true, a'.verbose, h.storage⟩ a.paths
          { tree := t.rewritten x.2 (Stop.files (h.storage.mark 0 (t.stops (h.scope x.1) a.paths))) } := by
      rw [RunArguments.run, Host.runOptions, ← hpaths, halike.storage, halike.scope, hfirst, hwritten]
    have hsame : (a'.run h' x true (a.run h x a.dryRun t).2.tree).1 = .ok ok := by
      rw [hsecond, hresult, ← hwrite, ← hfirst, hok]
    refine ⟨_, Or.inr ⟨x, ok, hprepare.trans hx, hsame, rfl⟩, ?_, ?_⟩
    · have hnone : (a'.run h' x true (a.run h x a.dryRun t).2.tree).2.tally.changed = 0 := by
        rw [hsecond, htally]
      simp only [Run.performance, hnone]
      simp
    · simp only [Run.performance]
      rw [hsecond, htree, hfirst, hwritten]

namespace Run

/-- **A second run changes nothing.** After a run that writes, a new run with the same normalizer, selection and paths
leaves the tree as it is, if what is written can be written. No file is changed or unsettled, and the result, be it a
truth value or why it breaks off, the count of files and the failures are those of the first run. So `check` exits after
`fix` as `fix` has, if neither writes a report. -/
theorem run_after_run (hn : n.segmenter = .strategy strategy) {storage : Storage} (hw : storage.Writes) (s : Scope)
    (paths : List String) (t : FileTree) (verbose dryRun verbose' : Bool) :
    let first := run ⟨n, s, false, verbose, storage⟩ paths { tree := t }
    let second := run ⟨n, s, dryRun, verbose', storage⟩ paths { tree := first.2.tree }
    second.2.tree = first.2.tree ∧
    second.1 = first.1 ∧
    ((∃ ok, first.1 = .ok ok) ↔ t.Resolves s paths) ∧
    second.2.tally = { processed := first.2.tally.processed, failedFiles := first.2.tally.failedFiles } ∧
    ∀ (h h' : Host) (a a' : RunArguments) (input input' : List Char) (p : Performance), h.storage.Writes →
      h.RunsAlike h' → a.IsSilent → a'.IsSilent → a.dryRun = false → a.paths = a'.paths →
        (Command.fix a).perform h input t = .ok p → a'.prepare h'.toLoader p.tree = a.prepare h.toLoader t →
          ∃ p', (Command.check a').perform h' input' p.tree = .ok p' ∧ p'.exitCode = p.exitCode ∧ p'.tree = p.tree := by
  intro first second
  obtain ⟨hwrite, hwritten, htally⟩ := run_write_eq hn hw s verbose paths t
  obtain ⟨hresult, htree, hsecond⟩ := run_rewritten hn hw s dryRun verbose' paths t
  rw [← hwritten] at hresult htree hsecond
  refine ⟨htree, hresult.trans hwrite.symm, exists_ok_run_iff hn, ?_, ?_⟩
  · rw [hsecond, htally]
    rfl
  · intro h h' a a' input input' p hw' halike ha ha' hwrites hpaths hfix hprepare
    exact Command.check_after_fix hw' halike ha ha' hwrites hpaths hfix hprepare input'

theorem run_after_run_twoFiles :
    ({} : RunOptions).normalizer.segmenter = .strategy .php ∧ posixHost.storage.Writes ∧
    (run ⟨({} : RunOptions).normalizer, {}, true, true, {}⟩ ["./a", "b", "a"]
      { tree := (run ⟨({} : RunOptions).normalizer, {}, false, false, {}⟩ ["./a", "b", "a"]
        { tree := twoFiles }).2.tree }).2.tally = { processed := 3, failedFiles := ["b"] } ∧
    ∃ p p', (Command.fix { paths := ["./a", "b", "a"] }).perform posixHost [] twoFiles = .ok p ∧ p.exitCode = 1 ∧
      (Command.check { paths := ["./a", "b", "a"] }).perform posixHost [] p.tree = .ok p' ∧ p'.exitCode = 1 ∧
      p'.tree = p.tree := by
  have hfirst : (run ⟨({} : RunOptions).normalizer, {}, false, false, {}⟩ ["./a", "b", "a"]
      { tree := twoFiles }).2.tally =
        { processed := 3, changed := 1, changedFiles := ["a"], failedFiles := ["b"] } := by cbv
  have hw : posixHost.storage.Writes := Storage.isSound_default.writes
  obtain ⟨-, -, -, htally, hcommands⟩ :=
    run_after_run (show ({} : RunOptions).normalizer.segmenter = .strategy .php from rfl) Storage.isSound_default.writes
      {} ["./a", "b", "a"] twoFiles false true true
  refine ⟨rfl, hw, htally.trans (by rw [hfirst]), ?_⟩
  -- The tree has no settings file, and none after the run, so both commands have the settings of all defaults.
  have hbefore : twoFiles.holds (.ofString Settings.defaultFile) = false := rfl
  have hprepare : ({ paths := ["./a", "b", "a"] } : RunArguments).prepare posixHost.toLoader twoFiles =
      .ok standardSetup := SettingsArguments.prepare_standard _ rfl rfl hbefore
  have hresult : (({ paths := ["./a", "b", "a"] } : RunArguments).run posixHost standardSetup false twoFiles).1 =
      .ok false := by cbv
  obtain ⟨p, hfix, hcode, htree⟩ := Command.exists_perform_fix (Or.inl rfl) hprepare hresult []
  have hafter : p.tree.holds (.ofString Settings.defaultFile) = false := by
    rw [htree, RunArguments.run, holds_run, hbefore]
  obtain ⟨p', hcheck, hsame, hkept⟩ := hcommands posixHost posixHost _ _ [] [] p hw ⟨rfl, rfl⟩ (Or.inl rfl)
    (Or.inl rfl) rfl rfl hfix ((SettingsArguments.prepare_standard _ rfl rfl hafter).trans hprepare.symm)
  exact ⟨p, p', hfix, hcode, hcheck, hsame.trans hcode, hkept⟩

/-- A file whose name holds brackets, and an empty file for the report. -/
def bracketedName : FileTree :=
  ((FileTree.empty []).addFile ["[1,2]"] (Text.Utf8.encode "[1,2]".toList)).addFile ["r"] []

/-- A report is a file like others: where `fix` writes one to a file that `check` goes to, `check` may find something to
change in it. -/
theorem check_finds_report : ∃ p p',
    (Command.fix { strategy := some .raw, paths := ["[1,2]", "r"], reportFile := some "r" }).perform posixHost []
      bracketedName = .ok p ∧ p.exitCode = 0 ∧
    (Command.check { strategy := some .raw, paths := ["[1,2]", "r"] }).perform posixHost [] p.tree = .ok p' ∧
      p'.exitCode = 1 := by
  have hcodes : ((Command.fix { strategy := some .raw, paths := ["[1,2]", "r"], reportFile := some "r" }).perform
      posixHost [] bracketedName).toOption.map (fun p => (p.exitCode,
        ((Command.check { strategy := some .raw, paths := ["[1,2]", "r"] }).perform posixHost [] p.tree).toOption.map
          Performance.exitCode)) = some (0, some 1) := by decide +kernel
  obtain ⟨p, hfix, hp⟩ := Option.map_eq_some_iff.mp hcodes
  obtain ⟨hcode, hcheck⟩ := Prod.mk.inj hp
  obtain ⟨p', hcheck, hcode'⟩ := Option.map_eq_some_iff.mp hcheck
  exact ⟨p, p', toOption_eq_some_iff.mp hfix, hcode, toOption_eq_some_iff.mp hcheck, hcode'⟩

end Run

end BracketSpacing
