import BracketSpacing.Proofs.Breakdown
import BracketSpacing.Proofs.Endings
import BracketSpacing.Proofs.Formatting
import BracketSpacing.Proofs.Growth

/-!
# What commands leave as it is

* `FileTree.Reports`: what the report of a run makes: itself where its path leads, and the directories that are missing
  on the way to it. The end of a run makes nothing else (`Command.grows_reported`).
* A run changes files that its tally names, and no others, also where it cannot write them (`Run.Names`): every stop
  keeps that (`Run.names_visit`), and so does a run (`Run.names_run`).
* `Command.perform_frame`: so `check` and `fix --dry-run` change nothing but what their report makes, `fix` changes the
  files that it names besides, and a command changes nothing whose settings are refused, or that only formats a text.
-/

namespace BracketSpacing

open Text

variable {h : Host} {l : Loader} {t t' t'' : FileTree} {a : RunArguments} {x : Settings × Normalizer}
  {strategy : Strategy} {p : Path}
  {names : List String} {r : Run} {dryRun : Bool} {o : RunOptions}

/-! ## Reports -/

namespace FileTree

/-- What the report at a path makes at names, in place of nothing or of another file. -/
inductive Reports (t t' : FileTree) (p : Path) (names : List String) : Prop where
  /-- The report is there. -/
  | report (report : Report) (hbefore : t.state? names ≠ some none)
      (hafter : t'.state? names = some (some (Utf8.encode report.text.toList))) (hleads : t'.locate p.route = .ok names)
  /-- A directory is there, on the way to the report, in place of nothing. -/
  | directory {q : Path} (hbefore : t.state? names = none) (hafter : t'.state? names = some none)
      (hway : q.IsOnWayTo p.parent) (hleads : t'.locate q.route = .ok names)

/-- All is there that was there, and all that is new is what a report makes. -/
structure LeavesReport (t t' : FileTree) (p : Path) : Prop where
  grows : t.Grows t'
  reports : ∀ names, t'.state? names ≠ t.state? names → t.Reports t' p names

theorem Paves.leavesReport (h : t.Paves t' p.parent) : t.LeavesReport t' p := by
  refine ⟨h.grows, ?_⟩
  intro names hnames
  obtain ⟨hbefore, hafter, q, hway, hleads⟩ := h.made names hnames
  exact .directory hbefore hafter hway hleads

/-- A report is written in the directories that are made for it. -/
theorem Paves.leavesReport_of_writes {report : Report} (h : t.Paves t' p.parent)
    (hwrites : t'.Writes t'' p.route (Utf8.encode report.text.toList)) : t.LeavesReport t'' p := by
  refine ⟨h.grows.trans hwrites.grows, ?_⟩
  intro names hnames
  by_cases hsame : t''.state? names = t'.state? names
  · rw [hsame] at hnames
    obtain ⟨hbefore, hafter, q, hway, hleads⟩ := h.made names hnames
    exact .directory hbefore (hsame.trans hafter) hway (hwrites.grows.locate hleads)
  · obtain ⟨hbefore, hafter, hleads⟩ := hwrites.written names hsame
    exact .report report (fun hdirectory => hbefore (h.grows.directory names hdirectory)) hafter hleads

theorem leavesReport_writeReport (t : FileTree) (levels : Nat) (p : Path) (report : Report) :
    t.LeavesReport (t.writeReport levels p report).1 p := by
  have hpaves := paves_makeDirectories t p.parent
  rw [writeReport]
  split
  · exact (Paves.refl t _).leavesReport
  · split
    · exact (Paves.refl t _).leavesReport
    · rcases hmake : t.makeDirectories p.parent with ⟨t', e | e⟩
      · rw [hmake] at hpaves
        simp only
        split
        · exact hpaves.leavesReport
        · rcases hwrite : t'.write p.route (Utf8.encode report.text.toList) with e | t''
          · exact hpaves.leavesReport
          · exact hpaves.leavesReport_of_writes (writes_of_write hwrite)
      · rw [hmake] at hpaves
        exact hpaves.leavesReport

end FileTree

/-- Whether a report is asked for, under a name that is not empty, and makes what is at names. -/
def RunArguments.MakesReport (a : RunArguments) (t t' : FileTree) (names : List String) : Prop :=
  ∃ file, a.reportFile = some file ∧ file ≠ "" ∧ t.Reports t' (.ofString file) names

namespace Command

theorem reported_of_isSilent (ha : a.IsSilent) : reported h a dryRun r = r.tree := by
  rcases ha with hfile | hfile
  · simp only [reported, hfile]
  · simp only [reported, hfile]

/-- A report is asked for under a name. -/
theorem reported_of_ne {file : String} (hfile : a.reportFile = some file) (hne : file ≠ "") :
    reported h a dryRun r = (r.tree.writeReport h.reportLevels (.ofString file) ⟨h.time, dryRun, r.tally⟩).1 := by
  rw [reported, hfile]
  split
  · rename_i h
    cases h
  · rename_i h
    exact absurd (Option.some.inj h) hne
  · rename_i h
    cases h
    rfl

/-- What is new after a run has come to its end is what its report makes. -/
theorem grows_reported (h : Host) (a : RunArguments) (dryRun : Bool) (r : Run) :
    r.tree.Grows (reported h a dryRun r) ∧
    ∀ names, (reported h a dryRun r).state? names ≠ r.tree.state? names →
      a.MakesReport r.tree (reported h a dryRun r) names := by
  by_cases ha : a.IsSilent
  · rw [reported_of_isSilent ha]
    exact ⟨.refl r.tree, fun _ hnames => absurd rfl hnames⟩
  · obtain ⟨file, hfile, hne⟩ := RunArguments.exists_reportFile ha
    have hleaves : r.tree.LeavesReport (reported h a dryRun r) (.ofString file) := by
      rw [reported_of_ne hfile hne]
      exact FileTree.leavesReport_writeReport r.tree _ _ _
    exact ⟨hleaves.grows, fun names hnames => ⟨file, hfile, hne, hleaves.reports names hnames⟩⟩

theorem tree_of_finish {conclude : Performance → Performance} (hconclude : ∀ p, (conclude p).tree = p.tree)
    {P : Performance} (hfinish : finish h a dryRun r conclude = .ok P) :
    P.tree = reported h a dryRun r := by
  by_cases ha : a.IsSilent
  · rw [finish_of_isSilent ha] at hfinish
    cases hfinish
    rw [hconclude, reported_of_isSilent ha]
    rfl
  · obtain ⟨file, hfile, hne⟩ := RunArguments.exists_reportFile ha
    rw [finish_of_ne hfile hne] at hfinish
    rw [reported_of_ne hfile hne]
    split at hfinish
    · cases hfinish
    · rename_i after failure hwritten
      cases hfinish
      rw [hwritten]
    · rename_i after hwritten
      cases hfinish
      rw [hconclude, hwritten]

end Command

/-! ## Runs -/

namespace FileTree

theorem state?_mapFiles (f : List String → List UInt8 → List UInt8) (t : FileTree) (names : List String) :
    (t.mapFiles f).state? names = (t.state? names).map (Option.map (f names)) := by
  rw [state?, get?_mapFiles, state?]
  rcases t.get? names with _ | ⟨content⟩ | ⟨entries⟩ <;> simp [Node.mapFiles, Node.content?]

end FileTree

/-- What a report makes in a tree with other bytes in its files, it makes in that tree as it was. -/
theorem RunArguments.MakesReport.of_mapFiles {f : List String → List UInt8 → List UInt8}
    (h : a.MakesReport (t.mapFiles f) t' names) : a.MakesReport t t' names := by
  obtain ⟨file, hfile, hne, hreports⟩ := h
  refine ⟨file, hfile, hne, ?_⟩
  cases hreports with
  | report report hbefore hafter hleads =>
    refine .report report (fun hdirectory => hbefore ?_) hafter hleads
    rw [FileTree.state?_mapFiles, hdirectory]
    rfl
  | directory hbefore hafter hway hleads =>
    rw [FileTree.state?_mapFiles, Option.map_eq_none_iff] at hbefore
    exact .directory hbefore hafter hway hleads

namespace Run

/-- A run whose tree differs from `t` in files that its tally names, and in their bytes at most. -/
structure Names (t : FileTree) (r : Run) : Prop where
  keeps : Keeps t r
  named : ∀ names, r.tree.state? names ≠ t.state? names →
    ∃ path ∈ r.tally.changedFiles, t.named? path = some names

theorem names_self (r : Run) : Names r.tree r :=
  ⟨keeps_of_eq rfl, fun _ h => absurd rfl h⟩

/-- A step keeps the invariant that leaves the tree as it is. -/
theorem Names.of_tree_eq {r' : Run} (h : Names t r) (htree : r'.tree = r.tree)
    (htally : r.tally.changedFiles ⊆ r'.tally.changedFiles) : Names t r' := by
  refine ⟨h.keeps.trans (keeps_of_eq htree), fun names hnames => ?_⟩
  rw [htree] at hnames
  obtain ⟨path, hpath, hnamed⟩ := h.named names hnames
  exact ⟨path, htally hpath, hnamed⟩

/-- So does one that changes the file at a path and names it. -/
theorem Names.of_setFile {r' : Run} {bytes new : List UInt8} (h : Names t r) (hproper : p.IsProper)
    (hfound : r.tree.found? p = some (names, bytes)) (htree : r'.tree = r.tree.setFile names new)
    (htally : r'.tally.changedFiles = r.tally.changedFiles ++ [p.text]) : Names t r' := by
  have hkeeps : Keeps r.tree r' := ⟨_, htree.trans (FileTree.setFile_eq_mapFiles r.tree names new)⟩
  refine ⟨h.keeps.trans hkeeps, fun other hother => ?_⟩
  rw [htree, FileTree.state?_setFile (FileTree.get?_of_found? hfound)] at hother
  by_cases he : other = names
  · refine ⟨p.text, by simp [htally], ?_⟩
    obtain ⟨f, hf⟩ := h.keeps
    rw [FileTree.named?_text hproper, ← FileTree.located?_mapFiles f, ← hf, FileTree.located?_of_found? hfound, he]
  · rw [if_neg he] at hother
    obtain ⟨path, hpath, hnamed⟩ := h.named other hother
    exact ⟨path, htally ▸ List.mem_append_left _ hpath, hnamed⟩

theorem names_processFileAmid {mishap : Option Mishap} (hproper : p.IsProper) (h : Names t r) :
    Names t (r.processFileAmid o mishap p).2 := by
  have hending := ending_processFileAmid o mishap p r
  generalize r.processFileAmid o mishap p = x at hending
  cases hending with
  | brokenOff a => exact h.of_tree_eq rfl (List.Subset.refl _)
  | unread failure => exact h.of_tree_eq rfl (List.Subset.refl _)
  | @done names outcome r' hexamine htree htally _ =>
    obtain ⟨⟨bytes, hfound⟩, -⟩ := exists_of_examine hexamine
    have hchanged : r'.tally.changedFiles = r.tally.changedFiles ++ if outcome.changed then [p.text] else [] := by
      rw [htally]
      rfl
    by_cases hwrites : outcome.changed = true ∧ o.dryRun = false
    · rw [if_pos hwrites] at htree
      rw [if_pos hwrites.1] at hchanged
      exact h.of_setFile hproper hfound htree hchanged
    · rw [if_neg hwrites] at htree
      exact h.of_tree_eq htree (hchanged ▸ List.subset_append_left _ _)
  | @unwritten names outcome e left r' hmishap hexamine hwrites htree htally _ =>
    obtain ⟨⟨bytes, hfound⟩, -⟩ := exists_of_examine hexamine
    refine h.of_setFile hproper hfound htree ?_
    rw [htally]
    simp [Tally.plus, Tally.ofFile, hwrites.1]

/-- Every stop keeps the invariant. -/
theorem names_visit {stop : Stop} (hproper : ∀ m p, stop = .file m p → p.IsProper) (h : Names t r) :
    Names t (visit o stop r).2 := by
  cases stop with
  | file mishap p =>
    have hstart : Names t (r.startOn p) := h.of_tree_eq rfl (List.Subset.refl _)
    exact names_processFileAmid (hproper mishap p rfl) hstart
  | absent path => exact h.of_tree_eq rfl (List.Subset.refl _)
  | missing path => exact h.of_tree_eq rfl (List.Subset.refl _)
  | unlisted shown e q => exact h.of_tree_eq rfl (List.Subset.refl _)
  | barred a => exact h

theorem names_processAll_visit : ∀ {stops : List Stop} {r : Run}, (∀ m p, .file m p ∈ stops → p.IsProper) →
    Names t r → Names t (processAll (visit o) stops r).2
  | [], _, _, h => h
  | stop :: stops, r, hproper, h => by
    have hfirst := names_visit (o := o) (fun m p he => hproper m p (he ▸ List.mem_cons_self)) h
    rw [processAll_cons]
    rcases hvisit : visit o stop r with ⟨e | ok, r'⟩
    · rwa [hvisit] at hfirst
    · rw [hvisit] at hfirst
      exact names_processAll_visit (fun m p hp => hproper m p (List.mem_cons_of_mem stop hp)) hfirst

/-- A run changes files that its tally names, and no others. -/
theorem names_run (o : RunOptions) (paths : List String) (r : Run) : Names r.tree (run o paths r).2 := by
  have hproper : ∀ m p, .file m p ∈ r.itinerary o paths → p.IsProper := by
    intro m p hp
    obtain ⟨-, -, m', hm⟩ := Storage.exists_of_file_mem_mark hp
    exact (FileTree.of_file_mem_stops hm).2.proper
  have hall : Names r.tree (visitAll o (r.tree.stops o.scope paths) (r.say .started)).2 :=
    names_processAll_visit hproper (names_self (r.say .started))
  rw [run_eq_visitAll]
  rcases h : visitAll o (r.tree.stops o.scope paths) (r.say .started) with ⟨e | ok, r'⟩
  · rwa [h] at hall
  · rw [h] at hall
    exact hall.of_tree_eq rfl (List.Subset.refl _)

/-- Where they differ from those at the start, there are other bytes in a file. -/
theorem Keeps.exists_bytes (h : Keeps t r) (hne : r.tree.state? names ≠ t.state? names) :
    ∃ old new, t.state? names = some (some old) ∧ r.tree.state? names = some (some new) := by
  obtain ⟨f, hf⟩ := h
  rw [hf, FileTree.state?_mapFiles] at hne ⊢
  rcases hstate : t.state? names with _ | _ | old
  · rw [hstate] at hne
    exact absurd rfl hne
  · rw [hstate] at hne
    exact absurd rfl hne
  · exact ⟨old, _, rfl, rfl⟩

end Run

/-! ## Commands -/

namespace Command

variable {c : Command}

/-- A run that breaks off makes no report. -/
theorem treeAfterRun_of_prepare (hprepare : a.prepare h.toLoader t = .ok x) (dryRun : Bool) :
    treeAfterRun h a dryRun t =
      match a.run h x dryRun t with
      | (.error _, r) => r.tree
      | (.ok _, r) => reported h a dryRun r := by
  rw [treeAfterRun, hprepare]
  rfl

/-- What is new after a run is what its report makes. -/
theorem grows_treeAfterRun (hprepare : a.prepare h.toLoader t = .ok x) (dryRun : Bool) :
    (a.run h x dryRun t).2.tree.Grows (treeAfterRun h a dryRun t) ∧
    ∀ names, (treeAfterRun h a dryRun t).state? names ≠ (a.run h x dryRun t).2.tree.state? names →
      a.MakesReport (a.run h x dryRun t).2.tree (treeAfterRun h a dryRun t) names := by
  rw [treeAfterRun_of_prepare hprepare]
  rcases a.run h x dryRun t with ⟨abort | ok, r⟩
  · exact ⟨.refl r.tree, fun _ hnames => absurd rfl hnames⟩
  · exact grows_reported h a dryRun r

theorem treeAfterRun_of_isSilent (ha : a.IsSilent) (hprepare : a.prepare h.toLoader t = .ok x) :
    treeAfterRun h a dryRun t = (a.run h x dryRun t).2.tree := by
  rw [treeAfterRun_of_prepare hprepare]
  rcases a.run h x dryRun t with ⟨abort | ok, r⟩
  · rfl
  · exact reported_of_isSilent ha

theorem treeAfter_of_error {e : Fault ⊕ Failure} (he : c.settingsArguments.prepare h.toLoader t = .error e) :
    c.treeAfter h t = t := by
  cases c <;> rw [settingsArguments] at he <;> simp only [treeAfter, treeAfterRun, he]

theorem treeAfter_of_run?_eq_none (hrun : c.run? = none) : c.treeAfter h t = t := by
  cases c with
  | fix a => cases hrun
  | check a => cases hrun
  | format a => rfl

theorem treeAfter_of_run? (hrun : c.run? = some (a, dryRun)) (h : Host) (t : FileTree) :
    c.treeAfter h t = treeAfterRun h a dryRun t ∧ c.settingsArguments = a.toSettingsArguments := by
  cases c <;> cases hrun <;> exact ⟨rfl, rfl⟩

theorem tree_of_performRun {conclude : Bool → Run → Performance → Performance}
    (hconclude : ∀ ok r p, (conclude ok r p).tree = p.tree) {P : Performance}
    (hperform : performRun h a dryRun t conclude = .ok P) : P.tree = treeAfterRun h a dryRun t := by
  rw [performRun] at hperform
  rw [treeAfterRun]
  rcases hprepare : a.prepare h.toLoader t with (fault | failure) | x
  · simp only [hprepare, settled] at hperform
    cases hperform
  · simp only [hprepare, settled] at hperform
    cases hperform
    rfl
  · simp only [hprepare, settled] at hperform
    simp only
    split at hperform
    · cases hperform
    · rename_i ok r _
      exact tree_of_finish (hconclude ok r) hperform

/-- The files after a command are those that it comes to, if it comes to something. -/
theorem tree_of_perform {input : List Char} {P : Performance} (hperform : c.perform h input t = .ok P) :
    P.tree = c.treeAfter h t := by
  cases c with
  | fix a =>
    rw [perform] at hperform
    refine tree_of_performRun ?_ hperform
    intro ok r p
    rfl
  | check a =>
    rw [perform] at hperform
    refine tree_of_performRun ?_ hperform
    intro ok r p
    rfl
  | format a =>
    rw [treeAfter]
    rcases hprepare : a.prepare h.toLoader t with (fault | failure) | x
    · simp only [perform, hprepare, settled] at hperform
      cases hperform
    · simp only [perform, hprepare, settled] at hperform
      cases hperform
      rfl
    · simp only [perform, hprepare, settled] at hperform
      split at hperform
      · cases hperform
        rfl
      · cases hperform

/-- A run that only checks files changes nothing but what its report makes. -/
theorem treeAfterRun_check (hprepare : a.prepare h.toLoader t = .ok x) :
    (treeAfterRun h a true t).here = t.here ∧
    (a.IsSilent → treeAfterRun h a true t = t) ∧
    ∀ names, (treeAfterRun h a true t).state? names ≠ t.state? names →
      a.MakesReport t (treeAfterRun h a true t) names := by
  obtain ⟨strategy, hx⟩ := SettingsArguments.exists_strategy_of_prepare hprepare
  have hcheck : (a.run h x true t).2.tree = t :=
    (Run.run_check_eq hx (h.scope x.1) a.verbose h.storage a.paths t).2.1
  obtain ⟨hgrows, hreports⟩ := grows_treeAfterRun hprepare true
  rw [hcheck] at hgrows hreports
  exact ⟨hgrows.here_eq, fun ha => (treeAfterRun_of_isSilent ha hprepare).trans hcheck, hreports⟩

/-- A run that writes files changes those that it names, and nothing else but what its report makes. -/
theorem treeAfterRun_fix (hprepare : a.prepare h.toLoader t = .ok x) :
    (treeAfterRun h a false t).here = t.here ∧
    ∀ names, (treeAfterRun h a false t).state? names ≠ t.state? names →
      ((∃ old new, t.state? names = some (some old) ∧
          (treeAfterRun h a false t).state? names = some (some new)) ∧
        ∃ path ∈ (a.run h x false t).2.tally.changedFiles, t.named? path = some names) ∨
      a.MakesReport t (treeAfterRun h a false t) names := by
  have hnames : Run.Names t (a.run h x false t).2 :=
    Run.names_run (h.runOptions a false x.1 x.2) a.paths { tree := t }
  obtain ⟨hgrows, hreports⟩ := grows_treeAfterRun hprepare false
  obtain ⟨f, hf⟩ := hnames.keeps
  refine ⟨?_, ?_⟩
  · rw [hgrows.here_eq, hf, FileTree.here_mapFiles]
  · intro names hne
    by_cases hsame : (treeAfterRun h a false t).state? names = (a.run h x false t).2.tree.state? names
    · rw [hsame] at hne ⊢
      exact Or.inl ⟨hnames.keeps.exists_bytes hne, hnames.named names hne⟩
    · have hmade := hreports names hsame
      rw [hf] at hmade
      exact Or.inr hmade.of_mapFiles

theorem here_treeAfter : (c.treeAfter h t).here = t.here := by
  rcases hprepare : c.settingsArguments.prepare h.toLoader t with e | x
  · rw [treeAfter_of_error hprepare]
  · cases hrun : c.run? with
    | none => rw [treeAfter_of_run?_eq_none hrun]
    | some arguments =>
      obtain ⟨a, dryRun⟩ := arguments
      obtain ⟨htree, hsettings⟩ := treeAfter_of_run? hrun h t
      rw [hsettings] at hprepare
      rw [htree]
      cases dryRun with
      | true => exact (treeAfterRun_check hprepare).1
      | false => exact (treeAfterRun_fix hprepare).1

/-- **What commands leave as it is.** Let a command come to something or break down, whatever goes wrong with files. It
leaves all as it was if there are no settings for it or if it formats a text. If it only checks files, it changes
nothing but what its report makes, and nothing at all without a report. If it writes files, it changes files that its
run names as changed, and besides them nothing but what its report makes. A report makes itself and the directories that
are missing on the way to it. -/
theorem perform_frame (h : Host) (c : Command) (input : List Char) (t : FileTree) :
    (∀ P, c.perform h input t = .ok P → P.tree = c.treeAfter h t) ∧
    (c.treeAfter h t).here = t.here ∧
    (∀ e, c.settingsArguments.prepare h.toLoader t = .error e → c.treeAfter h t = t) ∧
    (c.run? = none → c.treeAfter h t = t) ∧
    (∀ a, c.run? = some (a, true) →
      (a.IsSilent → c.treeAfter h t = t) ∧
      ∀ names, (c.treeAfter h t).state? names ≠ t.state? names → a.MakesReport t (c.treeAfter h t) names) ∧
    ∀ a x, c.run? = some (a, false) → a.prepare h.toLoader t = .ok x →
      ∀ names, (c.treeAfter h t).state? names ≠ t.state? names →
        ((∃ old new, t.state? names = some (some old) ∧ (c.treeAfter h t).state? names = some (some new)) ∧
          ∃ path ∈ (a.run h x false t).2.tally.changedFiles, t.named? path = some names) ∨
        a.MakesReport t (c.treeAfter h t) names := by
  refine ⟨fun P hP => tree_of_perform hP, here_treeAfter, fun e he => treeAfter_of_error he, treeAfter_of_run?_eq_none,
    ?_, ?_⟩
  · intro a hrun
    obtain ⟨htree, hsettings⟩ := treeAfter_of_run? hrun h t
    rcases hprepare : a.prepare h.toLoader t with e | x
    · rw [← hsettings] at hprepare
      rw [treeAfter_of_error hprepare]
      exact ⟨fun _ => rfl, fun _ hnames => absurd rfl hnames⟩
    · rw [htree]
      exact (treeAfterRun_check hprepare).2
  · intro a x hrun hprepare
    rw [(treeAfter_of_run? hrun h t).1]
    exact (treeAfterRun_fix hprepare).2

theorem perform_frame_oneFile :
    ∃ P, (fix { paths := ["a.php"] }).perform posixHost [] (oneFile "$a = [1,2];") = .ok P ∧
      P.tree.state? ["a.php"] = some (some (Utf8.encode "$a = [ 1,2 ];".toList)) ∧
      ∃ path ∈ (({ paths := ["a.php"] } : RunArguments).run posixHost standardSetup false
        (oneFile "$a = [1,2];")).2.tally.changedFiles, (oneFile "$a = [1,2];").named? path = some ["a.php"] := by
  have hprepare : ({ paths := ["a.php"] } : RunArguments).prepare posixHost.toLoader (oneFile "$a = [1,2];") =
      .ok standardSetup := prepare_oneFile _ _ rfl rfl
  have hfixed : (normalizeWith .php true 20 "$a = [1,2];".toList).text = "$a = [ 1,2 ];".toList := by cbv
  obtain ⟨P, hperform, htree⟩ := exists_perform_fix_of_resolves (h := posixHost) (a := { paths := ["a.php"] })
    (Or.inl rfl) hprepare (resolves_oneFile _ _) []
  have hafter : P.tree.state? ["a.php"] = some (some (Utf8.encode "$a = [ 1,2 ];".toList)) := by
    have hbytes := RunArguments.bytesAt?_run (h := posixHost) (a := { paths := ["a.php"] }) (x := standardSetup) rfl
      Storage.isSound_default (mem_visits_oneFile _ _) (found?_oneFile "$a = [1,2];")
    rw [htree, FileTree.state?_eq_file_iff, ← FileTree.bytesAt?_eq_some_iff, hbytes]
    exact congrArg (some ∘ Utf8.encode) hfixed
  have hbefore : (oneFile "$a = [1,2];").state? ["a.php"] = some (some (Utf8.encode "$a = [1,2];".toList)) := rfl
  obtain ⟨hleaves, -, -, -, -, hwrites⟩ :=
    perform_frame posixHost (fix { paths := ["a.php"] }) [] (oneFile "$a = [1,2];")
  have hchanged : ((fix { paths := ["a.php"] }).treeAfter posixHost (oneFile "$a = [1,2];")).state? ["a.php"] ≠
      (oneFile "$a = [1,2];").state? ["a.php"] := by
    rw [← hleaves P hperform, hafter, hbefore]
    decide
  obtain ⟨-, hnamed⟩ | ⟨file, hfile, -⟩ := hwrites _ _ rfl hprepare _ hchanged
  · exact ⟨P, hperform, hafter, hnamed⟩
  · cases hfile

end Command

end BracketSpacing
