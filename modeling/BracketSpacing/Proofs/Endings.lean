import BracketSpacing.Proofs.Complaints

/-!
# How a runner ends with a file

* `Run.Ending`: the ways in which a runner ends with a file, whatever goes wrong with it. It always ends in one of them
  (`Run.ending_processFileAmid`), so that the laws of runs on storage that may fail are told from this list.
* `Run.processFile_leaves`: a file that cannot be read is counted and failed, and nothing else has changed. One that
  could be read and cannot be written has been booked as a changed file before it fails, and what is left of it is in
  its place.
-/

namespace BracketSpacing

variable {t : FileTree} {o : RunOptions} {p : Path} {r r' : Run} {mishap : Option Mishap} {names : List String}
  {outcome : Outcome}

namespace Run

/-- A file that is opened is found. -/
theorem found?_of_openFile {bytes : List UInt8} (h : t.openFile p.route = .ok (names, bytes)) :
    t.found? p = some (names, bytes) := by
  rw [FileTree.openFile] at h
  split at h
  · cases h
  · rw [FileTree.found?]
    rcases hfile : t.fileAt p.route with e | x
    · rw [hfile] at h
      cases h
    · rw [hfile] at h
      cases h
      rfl

/-- A file that has an outcome is found, and the outcome is that for a text. -/
theorem exists_of_examine (h : examine o mishap t p = .ok (.ok (names, outcome))) :
    (∃ bytes, t.found? p = some (names, bytes)) ∧ ∃ text, o.normalizer.normalize? text = some outcome := by
  unfold examine at h
  split at h
  · cases h
  · cases h
  · cases h
  · rename_i bytes hopen _
    split at h
    · cases h
    · split at h
      · cases h
      · rename_i hnormalize
        cases h
        exact ⟨⟨bytes, found?_of_openFile hopen⟩, _, hnormalize⟩

/-- How a runner ends with the file at a path, where something may go wrong with it. -/
inductive Ending (o : RunOptions) (mishap : Option Mishap) (p : Path) (r : Run) : Except Abort Bool × Run → Prop where
  /-- The runner breaks off. -/
  | brokenOff (a : Abort) : Ending o mishap p r (.error a, r.startFile)
  /-- The file has no outcome. -/
  | unread (failure : FileFailure) :
      Ending o mishap p r (.ok false, r.startFile.fail p.text (.fileFailed p.text failure))
  /-- The file is normalized. -/
  | done {names : List String} {outcome : Outcome} {r' : Run}
      (h : examine o mishap r.tree p = .ok (.ok (names, outcome)))
      (htree : r'.tree = if outcome.changed = true ∧ o.dryRun = false
        then r.tree.setFile names (Text.Utf8.encode outcome.text) else r.tree)
      (htally : r'.tally = r.tally.plus (.ofFile p (some outcome))) (hcomplaints : r'.complaints = r.complaints) :
      Ending o mishap p r (.ok true, r')
  /-- The file is changed, but cannot be written. -/
  | unwritten {names : List String} {outcome : Outcome} {e : FileError} {left : List UInt8} {r' : Run}
      (hmishap : mishap = some (.unwritable e left)) (h : examine o mishap r.tree p = .ok (.ok (names, outcome)))
      (hwrites : outcome.changed = true ∧ o.dryRun = false) (htree : r'.tree = r.tree.setFile names left)
      (htally : r'.tally = (r.tally.plus (.ofFile p (some outcome))).plus { failedFiles := [p.text] })
      (hcomplaints : r'.complaints = r.complaints ++ [.fileFailed p.text (.unreachable e)]) :
      Ending o mishap p r (.ok false, r')

/-- An outcome that cannot be written fails after it has been counted. -/
theorem conclude_of_unwritable (e : FileError) (left : List UInt8) (p : Path) (names : List String) (r : Run)
    (hchanged : outcome.changed = true) (hd : o.dryRun = false) :
    (r.conclude o (some (.unwritable e left)) p names outcome).1 = false ∧
    (r.conclude o (some (.unwritable e left)) p names outcome).2.tree = r.tree.setFile names left ∧
    (r.startFile.conclude o (some (.unwritable e left)) p names outcome).2.tally =
      (r.tally.plus (.ofFile p (some outcome))).plus { failedFiles := [p.text] } ∧
    (r.conclude o (some (.unwritable e left)) p names outcome).2.complaints =
      r.complaints ++ [.fileFailed p.text (.unreachable e)] := by
  have hsettled := complaints_settled outcome p r
  obtain ⟨text, changed, passes, converged⟩ := outcome
  cases hchanged
  refine ⟨?_, ?_, ?_, ?_⟩
  case refine_4 =>
    simp only [conclude, hd, rewriteFile] at hsettled ⊢
    exact (complaints_fail _ p.text rfl).trans (congrArg (· ++ _) hsettled)
  all_goals
    cases converged <;>
      simp [conclude, hd, rewriteFile, fail, startFile, noteUnsettled, noteChanged, say, Tally.ofFile, Tally.plus]

theorem ending_conclude (h : examine o mishap r.tree p = .ok (.ok (names, outcome))) :
    Ending o mishap p r (.ok (r.startFile.conclude o mishap p names outcome).1,
      (r.startFile.conclude o mishap p names outcome).2) := by
  by_cases hwrites : outcome.changed = true ∧ o.dryRun = false
  · by_cases hmishap : ∃ e left, mishap = some (.unwritable e left)
    · obtain ⟨e, left, rfl⟩ := hmishap
      obtain ⟨hfails, htree, -, hcomplaints⟩ := conclude_of_unwritable e left p names r.startFile hwrites.1 hwrites.2
      obtain ⟨-, -, htally, -⟩ := conclude_of_unwritable e left p names r hwrites.1 hwrites.2
      rw [hfails]
      exact .unwritten rfl h hwrites htree htally hcomplaints
    · have hspares : o.Spares mishap := fun _ e left he => hmishap ⟨e, left, he⟩
      obtain ⟨hwell, htree, -⟩ := conclude_eq hspares p names outcome r.startFile
      obtain ⟨-, -, htally⟩ := conclude_eq hspares p names outcome r
      rw [hwell]
      exact .done h htree htally (complaints_conclude hspares p names outcome r.startFile)
  · -- Nothing is to be written, so that it makes no difference what would go wrong then.
    have hsame : ∀ r : Run, r.conclude o mishap p names outcome = r.conclude o none p names outcome := by
      intro r
      obtain ⟨text, changed, passes, converged⟩ := outcome
      cases changed <;> cases hd : o.dryRun <;> simp_all [conclude]
    have hspares : o.Spares none := fun _ e left he => by cases he
    obtain ⟨hwell, htree, -⟩ := conclude_eq hspares p names outcome r.startFile
    obtain ⟨-, -, htally⟩ := conclude_eq hspares p names outcome r
    rw [hsame, hwell]
    exact .done h htree htally (complaints_conclude hspares p names outcome r.startFile)

theorem ending_processFileAmid (o : RunOptions) (mishap : Option Mishap) (p : Path) (r : Run) :
    Ending o mishap p r (r.processFileAmid o mishap p) := by
  rw [processFileAmid, show r.startFile.tree = r.tree from rfl]
  rcases hexamine : examine o mishap r.tree p with a | failure | ⟨names, outcome⟩
  · exact .brokenOff a
  · exact .unread failure
  · exact ending_conclude hexamine

/-- **What a failure leaves behind.** Where a runner breaks off at a file, the file is counted. Where the file fails, it
is counted and failed, and nothing else has changed, unless it has been read, is to be written and cannot be. Then it is
booked like a file that was written, and then as one that failed. -/
theorem processFile_leaves (o : RunOptions) (p : Path) (r : Run) :
    let x := processFile o p r
    (∀ a, x.1 = .error a → x.2 = (r.startOn p).startFile) ∧
    (x.1 = .ok false →
      (x.2.tree = r.tree ∧ x.2.tally = r.tally.plus (.ofFile p none)) ∨
      ∃ names outcome e left, r.mishap? o = some (.unwritable e left) ∧
        examine o (r.mishap? o) r.tree p = .ok (.ok (names, outcome)) ∧ outcome.changed = true ∧ o.dryRun = false ∧
        x.2.tree = r.tree.setFile names left ∧
        x.2.tally = (r.tally.plus (.ofFile p (some outcome))).plus { failedFiles := [p.text] }) := by
  have hending := ending_processFileAmid o (r.mishap? o) p (r.startOn p)
  simp only [processFile]
  generalize (r.startOn p).processFileAmid o (r.mishap? o) p = x at hending
  constructor
  · intro a hbroken
    cases hending <;> cases hbroken
    rfl
  · intro hfailed
    cases hending with
    | brokenOff a => cases hfailed
    | unread failure =>
      refine Or.inl ⟨rfl, ?_⟩
      simp [startOn, startFile, fail, say, Tally.ofFile, Tally.plus]
    | done h => cases hfailed
    | unwritten hmishap h hwrites htree htally =>
      exact Or.inr ⟨_, _, _, _, hmishap, h, hwrites.1, hwrites.2, htree, htally⟩

end Run

end BracketSpacing
