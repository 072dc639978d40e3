import BracketSpacing.Proofs.Commands
import BracketSpacing.Proofs.Effect

/-!
# Runs that check and runs that write

* A run that writes changes the tree exactly if it comes to a file that is another one when it is rewritten
  (`FileTree.rewritten_eq_self_iff`).
* `Command.check_iff_fix`: so `check` succeeds exactly if `fix` succeeds and has nothing to change.
* `Run.dryRun_agrees`: a run that only checks files foretells what a run that writes comes to from the same tree. They
  differ in how often they name a file that they visit more than once, and in nothing if there is none.
-/

namespace BracketSpacing

variable {t : FileTree} {n : Normalizer} {strategy : Strategy} {visits : List Path}

namespace FileTree

theorem mem_changes_iff (hn : n.segmenter = .strategy strategy) {p : Path} :
    p ∈ t.changes n visits ↔ p ∈ visits ∧ ∃ names, t.located? p = some names ∧ t.alters n names = true := by
  rw [changes, List.mem_filter, any_changed_iff hn, Option.any_eq_true]

/-- Visits change the tree exactly if one of them comes to another text. -/
theorem rewritten_eq_self_iff (hn : n.segmenter = .strategy strategy) :
    t.rewritten n visits = t ↔ t.changes n visits = [] := by
  rw [List.eq_nil_iff_forall_not_mem]
  constructor
  · intro hsame p hp
    obtain ⟨hvisit, names, hlocated, halters⟩ := (mem_changes_iff hn).mp hp
    rw [alters, Option.any_eq_true] at halters
    obtain ⟨bytes, hbytes, hne⟩ := halters
    have hseen : t.Seen visits (some names) := ⟨p, hvisit, hlocated⟩
    have hafter : (t.rewritten n visits).bytesAt? names = some (n.rewrite bytes) := by
      rw [bytesAt?_rewritten, hbytes, Option.map_some, if_pos hseen]
    rw [hsame, hbytes] at hafter
    simp [← Option.some.inj hafter] at hne
  · intro hnone
    refine (mapFiles_congr fun names old hold => ?_).trans (mapFiles_id t)
    split
    · rename_i hseen
      obtain ⟨p, hp, hlocated⟩ := hseen
      by_contra hne
      refine hnone p ((mem_changes_iff hn).mpr ⟨hp, names, hlocated, ?_⟩)
      rw [alters, bytesAt?_eq_some_iff.mpr hold, Option.any_some, bne_iff_ne]
      exact hne
    · rfl

/-- Visits to different files are first visits, as far as they lead to a file. -/
theorem filter_firstVisits {test : Path → Bool} (htest : ∀ p, t.located? p = none → test p = false) :
    ∀ {seen visits : List Path}, (visits.filterMap t.located?).Nodup →
      (∀ names ∈ visits.filterMap t.located?, ¬t.Seen seen (some names)) →
        (t.firstVisits seen visits).filter test = visits.filter test
  | _, [], _, _ => rfl
  | seen, p :: visits, hnodup, hseen => by
    rw [firstVisits, List.filter_cons]
    cases hp : t.located? p with
    | none =>
      rw [List.filterMap_cons_none hp] at hnodup hseen
      have ih : (t.firstVisits (seen ++ [p]) visits).filter test = visits.filter test :=
        filter_firstVisits htest hnodup (by simpa [hp] using hseen)
      rw [htest p hp, if_neg Bool.false_ne_true]
      split
      · exact ih
      · rw [List.filter_cons, htest p hp, if_neg Bool.false_ne_true, ih]
    | some names =>
      rw [List.filterMap_cons_some hp] at hnodup hseen
      obtain ⟨hnew, hrest⟩ := List.nodup_cons.mp hnodup
      have ih : (t.firstVisits (seen ++ [p]) visits).filter test = visits.filter test := by
        refine filter_firstVisits htest hrest fun others hothers => ?_
        rw [seen_append_singleton, hp, not_or]
        refine ⟨hseen others (List.mem_cons_of_mem names hothers), ?_⟩
        rintro he
        cases he
        exact hnew hothers
      rw [if_neg (hseen names List.mem_cons_self), List.filter_cons, ih]

/-- What different files come to does not depend on whether they are written. -/
theorem account_firstVisits (n : Normalizer) (stops : List Stop) (hnodup : (visits.filterMap t.located?).Nodup) :
    t.account n stops (t.firstVisits [] visits) = t.account n stops visits := by
  have hfilter : ∀ test : Outcome → Bool,
      (t.firstVisits [] visits).filter (fun p => (t.outcomeAt? n p).any test) =
        visits.filter fun p => (t.outcomeAt? n p).any test := by
    intro test
    refine filter_firstVisits (fun p hp => ?_) hnodup fun names _ => t.not_seen_nil (some names)
    rw [outcomeAt?_of_located?_eq_none hp]
    rfl
  simp only [account, changes, unsettled, hfilter]

end FileTree

/-- `check` succeeds exactly if `fix` succeeds and leaves the tree as it is, if what is written can be written. -/
theorem Command.check_iff_fix {h h' : Host} {a a' : RunArguments} {input input' : List Char}
    (hw : h.storage.Writes) (halike : h.RunsAlike h') (ha : a.IsSilent) (ha' : a'.IsSilent)
    (hwrites : a'.dryRun = false) (hprepare : a.prepare h.toLoader t = a'.prepare h'.toLoader t)
    (hpaths : a.paths = a'.paths) :
    (∃ p, (check a).perform h input t = .ok p ∧ p.exitCode = 0) ↔
      ∃ p, (fix a').perform h' input' t = .ok p ∧ p.exitCode = 0 ∧ p.tree = t := by
  rw [check_succeeds_iff ha, fix_succeeds_iff ha', hprepare]
  refine exists_congr fun x => and_congr_right fun hx => ?_
  obtain ⟨strategy, hstrategy⟩ := SettingsArguments.exists_strategy_of_prepare hx
  obtain ⟨hcheck, -, hchecked⟩ := Run.run_check_eq hstrategy (h.scope x.1) a.verbose h.storage a.paths t
  obtain ⟨hwrite, hwritten, -⟩ := Run.run_write_eq hstrategy hw (h.scope x.1) a'.verbose a.paths t
  simp only [RunArguments.run, Host.runOptions, hwrites, ← hpaths, halike.storage, halike.scope]
  rw [hcheck, hchecked, hwrite, hwritten, FileTree.rewritten_eq_self_iff hstrategy]
  exact and_congr_right fun _ => List.length_eq_zero_iff

namespace Run

/-- **A check foretells the run.** A run that only checks files leaves the tree as it is. If what is written can be
written, its result is that of a run that writes, be it a truth value or why it breaks off; the counts of files and the
failures are the same, and so are the files that are named as changed. The tallies are the same if no file is visited
twice. `check` succeeds exactly if `fix` succeeds and leaves the tree as it is. -/
theorem dryRun_agrees (hn : n.segmenter = .strategy strategy) {storage : Storage} (hw : storage.Writes) (s : Scope)
    (paths : List String) (t : FileTree) (verbose verbose' : Bool) :
    let dry := run ⟨n, s, true, verbose, storage⟩ paths { tree := t }
    let real := run ⟨n, s, false, verbose', storage⟩ paths { tree := t }
    dry.2.tree = t ∧
    dry.1 = real.1 ∧
    ((∃ ok, dry.1 = .ok ok) ↔ t.Resolves s paths) ∧
    dry.2.tally.processed = real.2.tally.processed ∧
    dry.2.tally.failedFiles = real.2.tally.failedFiles ∧
    (∀ file, file ∈ dry.2.tally.changedFiles.map t.named? ↔ file ∈ real.2.tally.changedFiles.map t.named?) ∧
    (((t.visits s paths).filterMap t.located?).Nodup → dry.2.tally = real.2.tally) ∧
    ∀ (h h' : Host) (a a' : RunArguments) (input input' : List Char), h.storage.Writes → h.RunsAlike h' →
      a.IsSilent → a'.IsSilent → a'.dryRun = false → a.prepare h.toLoader t = a'.prepare h'.toLoader t →
        a.paths = a'.paths →
          ((∃ p, (Command.check a).perform h input t = .ok p ∧ p.exitCode = 0) ↔
            ∃ p, (Command.fix a').perform h' input' t = .ok p ∧ p.exitCode = 0 ∧ p.tree = t) := by
  intro dry real
  obtain ⟨hcheck, hkept, hchecked⟩ := run_check_eq hn s verbose storage paths t
  obtain ⟨hwrite, -, hwritten⟩ := run_write_eq hn hw s verbose' paths t
  set stops := storage.mark 0 (t.stops s paths) with hstops
  have hdry : dry.2.tally = t.account n stops (Stop.files stops) := hchecked
  have hreal : real.2.tally = t.account n stops (t.firstVisits [] (Stop.files stops)) := hwritten
  have hvisits : (Stop.files stops).Sublist (t.visits s paths) :=
    storage.files_mark_sublist 0 _ fun m p hp => (FileTree.of_file_mem_stops hp).1
  have hproper : ∀ p ∈ Stop.files stops, p.IsProper := fun p hp =>
    (visitable_of_mem_visits (hvisits.subset hp)).proper
  refine ⟨hkept, hcheck.trans hwrite.symm, exists_ok_run_iff hn, ?_, ?_, fun file => ?_, fun hnodup => ?_, ?_⟩
  · rw [hdry, hreal]
    rfl
  · rw [hdry, hreal]
    rfl
  · have hchecks : (t.account n stops (Stop.files stops)).changedFiles.map t.named? =
        (((Stop.files stops).filterMap t.located?).filter (t.alters n)).map some :=
      FileTree.map_named?_changes hn hproper
    have hwrites : (t.account n stops (t.firstVisits [] (Stop.files stops))).changedFiles.map t.named? =
        (((Stop.files stops).filterMap t.located?).eraseDups.filter (t.alters n)).map some := by
      rw [← FileTree.filterMap_firstVisits_nil]
      exact FileTree.map_named?_changes hn fun p hp => hproper p (FileTree.mem_of_mem_firstVisits hp)
    rw [hdry, hreal, hchecks, hwrites]
    simp only [List.mem_map, List.mem_filter, List.mem_eraseDups]
  · rw [hdry, hreal, FileTree.account_firstVisits n _ (hnodup.sublist (hvisits.filterMap _))]
  · intro h h' a a' input input' hw' halike ha ha' hwrites hprepare hpaths
    exact Command.check_iff_fix hw' halike ha ha' hwrites hprepare hpaths

theorem dryRun_agrees_twoFiles :
    ({} : RunOptions).normalizer.segmenter = .strategy .php ∧ posixHost.storage.Writes ∧
    (run ⟨({} : RunOptions).normalizer, {}, true, false, {}⟩ ["b", "a"] { tree := twoFiles }).1 =
      (run ⟨({} : RunOptions).normalizer, {}, false, true, {}⟩ ["b", "a"] { tree := twoFiles }).1 ∧
    (run ⟨({} : RunOptions).normalizer, {}, true, false, {}⟩ ["b", "a"] { tree := twoFiles }).2.tally =
      (run ⟨({} : RunOptions).normalizer, {}, false, true, {}⟩ ["b", "a"] { tree := twoFiles }).2.tally ∧
    ((∃ p, (Command.check { paths := ["a"] }).perform posixHost [] twoFiles = .ok p ∧ p.exitCode = 0) ↔
      ∃ p, (Command.fix { paths := ["a"] }).perform posixHost [] twoFiles = .ok p ∧ p.exitCode = 0 ∧
        p.tree = twoFiles) := by
  have hnames : (twoFiles.visits {} ["b", "a"]).filterMap twoFiles.located? = [["b"], ["a"]] := by cbv
  have hnodup : ((twoFiles.visits {} ["b", "a"]).filterMap twoFiles.located?).Nodup := by
    rw [hnames]
    decide
  have hw : posixHost.storage.Writes := Storage.isSound_default.writes
  obtain ⟨-, hresult, -, -, -, -, htally, hcommands⟩ :=
    dryRun_agrees (show ({} : RunOptions).normalizer.segmenter = .strategy .php from rfl) Storage.isSound_default.writes
      {} ["b", "a"] twoFiles false true
  exact ⟨rfl, hw, hresult, htally hnodup, hcommands posixHost posixHost _ _ [] [] hw ⟨rfl, rfl⟩ (Or.inl rfl)
    (Or.inl rfl) rfl rfl rfl⟩

/-- Storage in which files can be read but not written, with these bytes in each. -/
def readOnly (bytes : List UInt8) : Storage :=
  ⟨fun _ => some (.unwritable .denied bytes)⟩

/-- A check does not foretell that a file cannot be written, and it breaks off itself where a name is too long. -/
theorem dryRun_disagrees :
    let storage := readOnly (Text.Utf8.encode "<?php $a = [1,2];".toList)
    let dry := run { dryRun := true, storage := storage } ["a"] { tree := twoFiles }
    let real := run { storage := storage } ["a"] { tree := twoFiles }
    (dry.1 = .ok true ∧ dry.2.tally.failedFiles = [] ∧
        real.1 = .ok false ∧ real.2.tally.failedFiles = ["a"]) ∧
      ¬∃ ok, (run { dryRun := true } [String.ofList (List.replicate 256 'n'), "a"] { tree := twoFiles }).1 =
        .ok ok := by
  refine ⟨⟨?_, ?_, ?_, ?_⟩, not_exists_ok_of_long rfl List.mem_cons_self (FileTree.nodeAt?_replicate rfl)⟩ <;> cbv

end Run

end BracketSpacing
