import BracketSpacing.Proofs.Rewriting

/-!
# What a run comes to

* `Run.visit_eq`: the result of one stop, the tree after it, and what it adds to the tally, if files that are to be
  written can be written (`RunOptions.Spares`).
* `FileTree.verdict` and `FileTree.account`: the result and the tally of the stops of a run, told from the tree at its
  start. Files that are visited again after they have been rewritten are not counted as changed or unsettled again
  (`FileTree.firstVisits`).
* `Run.processAll_visit`: stops come to that, by induction over them; the invariant is that the tree is the one at the
  start with the files rewritten that have been seen. `Run.run_eq` says so of a whole run.
-/

namespace BracketSpacing

variable {t : FileTree} {n : Normalizer} {strategy : Strategy} {o : RunOptions} {p : Path} {outcome : Outcome}
  {mishap : Option Mishap} {stop : Stop} {stops : List Stop}

/-! ## Tallies -/

namespace Tally

/-- The tally of two parts of a run. -/
def plus (a b : Tally) : Tally where
  processed := a.processed + b.processed
  changed := a.changed + b.changed
  changedFiles := a.changedFiles ++ b.changedFiles
  failedFiles := a.failedFiles ++ b.failedFiles
  unsettledFiles := a.unsettledFiles ++ b.unsettledFiles

theorem plus_assoc (a b c : Tally) : (a.plus b).plus c = a.plus (b.plus c) := by
  simp only [plus, Nat.add_assoc, List.append_assoc]

@[simp] theorem plus_empty (a : Tally) : a.plus {} = a := by
  simp [plus]

@[simp] theorem empty_plus (a : Tally) : plus {} a = a := by
  simp [plus]

/-- What a visit to a file adds, by the outcome for the file. -/
def ofFile (p : Path) : Option Outcome → Tally
  | none => { processed := 1, failedFiles := [p.text] }
  | some outcome =>
    { processed := 1
      changed := if outcome.changed then 1 else 0
      changedFiles := if outcome.changed then [p.text] else []
      unsettledFiles := if outcome.converged then [] else [p.text] }

end Tally

/-! ## One stop -/

namespace FileTree

/-- What normalizing the file at a path comes to, if it can be read. -/
def outcomeAmid? (t : FileTree) (n : Normalizer) (mishap : Option Mishap) (p : Path) : Option Outcome :=
  match mishap with
  | some (.unreadable _) => none
  | _ => t.outcomeAt? n p

/-- Whether all goes well at a stop. -/
def goesWell (t : FileTree) (n : Normalizer) : Stop → Bool
  | .file mishap p => (t.outcomeAmid? n mishap p).isSome
  | .absent _ => true
  | _ => false

/-- What a stop adds to a tally. -/
def entry (t : FileTree) (n : Normalizer) : Stop → Tally
  | .file mishap p => .ofFile p (t.outcomeAmid? n mishap p)
  | .missing path => { failedFiles := [path] }
  | _ => {}

/-- The tree after the files that are read at a stop have been rewritten. -/
def rewriteStop (n : Normalizer) (stop : Stop) (t : FileTree) : FileTree :=
  stop.read.foldl (fun t p => t.rewriteAt n p) t

theorem outcomeAmid?_of_readable (h : ∀ e, mishap ≠ some (.unreadable e)) :
    t.outcomeAmid? n mishap p = t.outcomeAt? n p := by
  rcases mishap with _ | ⟨e⟩ | ⟨e, left⟩
  · rfl
  · exact absurd rfl (h e)
  · rfl

/-- Where no file is read the tree makes no difference. -/
theorem goesWell_of_read (h : stop.read = []) (t' : FileTree) : t.goesWell n stop = t'.goesWell n stop := by
  rcases stop with ⟨_ | ⟨e⟩ | ⟨e, left⟩, q⟩ | _ | _ | _ | _ <;> first | rfl | cases h

theorem entry_of_read (h : stop.read = []) (t' : FileTree) : t.entry n stop = t'.entry n stop := by
  rcases stop with ⟨_ | ⟨e⟩ | ⟨e, left⟩, q⟩ | _ | _ | _ | _ <;> first | rfl | cases h

/-- Else the stop is a file. -/
theorem of_mem_read (h : p ∈ stop.read) (t : FileTree) (n : Normalizer) : stop.read = [p] ∧ stop.begun = [p] ∧
    t.goesWell n stop = (t.outcomeAt? n p).isSome ∧ t.entry n stop = .ofFile p (t.outcomeAt? n p) := by
  rcases stop with ⟨_ | ⟨e⟩ | ⟨e, left⟩, q⟩ | _ | _ | _ | _ <;>
    first
    | cases List.mem_singleton.mp h; exact ⟨rfl, rfl, rfl, rfl⟩
    | cases h

end FileTree

/-- Whether a file that is to be written can be written. -/
def RunOptions.Spares (o : RunOptions) (mishap : Option Mishap) : Prop :=
  o.dryRun = false → ∀ e left, mishap ≠ some (.unwritable e left)

namespace Run

variable {r : Run}

theorem examine_of_readable (h : ∀ e, mishap ≠ some (.unreadable e)) : examine o mishap t p = examine o none t p := by
  rcases mishap with _ | ⟨e⟩ | ⟨e, left⟩
  · rfl
  · exact absurd rfl (h e)
  · unfold examine
    rcases t.openFile p.route with (_ | e) | x <;> rfl

theorem examine_of_unreadable (hnul : p.route.hasNul = false) (e : FileError) :
    ∃ failure, examine o (some (.unreadable e)) t p = .ok (.error failure) := by
  rcases hfile : t.fileAt p.route with e' | x
  · exact ⟨.unreachable e', by simp [examine, FileTree.openFile, hnul, hfile, Except.mapError]⟩
  · exact ⟨.unreachable e, by simp [examine, FileTree.openFile, hnul, hfile, Except.mapError]⟩

theorem examine_of_none (hn : o.normalizer.segmenter = .strategy strategy) (hnul : p.route.hasNul = false)
    (h : t.outcomeAmid? o.normalizer mishap p = none) : ∃ failure, examine o mishap t p = .ok (.error failure) := by
  by_cases hmishap : ∃ e, mishap = some (.unreadable e)
  · obtain ⟨e, rfl⟩ := hmishap
    exact examine_of_unreadable hnul e
  · rw [not_exists] at hmishap
    rw [FileTree.outcomeAmid?_of_readable hmishap, FileTree.outcomeAt?, FileTree.found?] at h
    rw [examine_of_readable hmishap]
    rcases hfile : t.fileAt p.route with e | ⟨names, bytes⟩
    · exact ⟨.unreachable e, by simp [examine, FileTree.openFile, hnul, hfile, Except.mapError]⟩
    · rw [hfile] at h
      cases hd : Text.Utf8.decode bytes with
      | error e => exact ⟨.undecodable e, by simp [examine, FileTree.openFile, hnul, hfile, Except.mapError, hd]⟩
      | ok text => simp [Except.toOption, Normalizer.outcome?, hd, Normalizer.normalize?, hn] at h

theorem examine_of_some (hnul : p.route.hasNul = false) (h : t.outcomeAmid? o.normalizer mishap p = some outcome) :
    ∃ names bytes, t.found? p = some (names, bytes) ∧ o.normalizer.outcome? bytes = some outcome ∧
      examine o mishap t p = .ok (.ok (names, outcome)) ∧ ∀ e, mishap ≠ some (.unreadable e) := by
  have hmishap : ∀ e, mishap ≠ some (.unreadable e) := by
    rintro e rfl
    cases h
  rw [FileTree.outcomeAmid?_of_readable hmishap, FileTree.outcomeAt?, Option.bind_eq_some_iff] at h
  obtain ⟨⟨names, bytes⟩, hfound, hbytes⟩ := h
  refine ⟨names, bytes, hfound, hbytes, ?_, hmishap⟩
  rw [examine_of_readable hmishap]
  rw [FileTree.found?] at hfound
  rcases hfile : t.fileAt p.route with e | x
  · rw [hfile] at hfound
    cases hfound
  · rw [hfile] at hfound
    cases hfound
    simp only at hbytes
    cases hd : Text.Utf8.decode bytes with
    | error e =>
      rw [Normalizer.outcome?, hd] at hbytes
      cases hbytes
    | ok text =>
      rw [Normalizer.outcome?, hd] at hbytes
      have hnormalize : o.normalizer.normalize? text = some outcome := hbytes
      simp [examine, FileTree.openFile, hnul, hfile, Except.mapError, hd, hnormalize]

theorem tally_report (r : Run) (o : RunOptions) (notice : Notice) : (r.report o notice).tally = r.tally := by
  unfold report
  split <;> rfl

/-- A file does not make a run break off. -/
theorem exists_ok_processFileAmid (hn : o.normalizer.segmenter = .strategy strategy) (hnul : p.route.hasNul = false)
    (mishap : Option Mishap) (r : Run) : ∃ ok, (r.processFileAmid o mishap p).1 = .ok ok := by
  rw [processFileAmid, show r.startFile.tree = r.tree from rfl]
  cases houtcome : r.tree.outcomeAmid? o.normalizer mishap p with
  | none =>
    obtain ⟨failure, hexamine⟩ := examine_of_none hn hnul houtcome
    exact ⟨false, by rw [hexamine]⟩
  | some outcome =>
    obtain ⟨names, bytes, -, -, hexamine, -⟩ := examine_of_some hnul houtcome
    exact ⟨_, by rw [hexamine]⟩

theorem visit_eq_error_iff (hn : o.normalizer.segmenter = .strategy strategy)
    (hnul : ∀ m p, stop = .file m p → p.route.hasNul = false) {a : Abort} (r : Run) :
    (visit o stop r).1 = .error a ↔ stop.abort? = some a := by
  cases stop with
  | file mishap p =>
    obtain ⟨ok, hok⟩ := exists_ok_processFileAmid hn (hnul mishap p rfl) mishap (r.startOn p)
    simp [visit, hok, Stop.abort?]
  | absent path => simp [visit, Stop.abort?]
  | missing path => simp [visit, Stop.abort?]
  | unlisted shown e q => simp [visit, Stop.abort?]
  | barred b => simp [visit, Stop.abort?]

/-- Stops make a run break off at the first one where there is a reason to, whatever goes wrong with files. -/
theorem processAll_visit_eq_error_iff (hn : o.normalizer.segmenter = .strategy strategy) {a : Abort} :
    ∀ {stops : List Stop} (r : Run), (∀ m p, .file m p ∈ stops → p.route.hasNul = false) →
      ((processAll (visit o) stops r).1 = .error a ↔ stops.findSome? Stop.abort? = some a)
  | [], r, _ => by simp [processAll]
  | stop :: stops, r, hnul => by
    have hvisit : ∀ {a}, (visit o stop r).1 = .error a ↔ stop.abort? = some a :=
      visit_eq_error_iff hn (fun m p he => hnul m p (he ▸ List.mem_cons_self)) r
    rw [processAll_cons, List.findSome?_cons]
    rcases hfirst : visit o stop r with ⟨e | ok, r'⟩
    · rw [hvisit.mp (congrArg Prod.fst hfirst), andThen_error]
      simp
    · have hnone : stop.abort? = none := by
        by_contra habort
        obtain ⟨b, hb⟩ := Option.ne_none_iff_exists'.mp habort
        rw [← hvisit, hfirst] at hb
        cases hb
      have ih := processAll_visit_eq_error_iff hn (a := a) r' fun m p hp => hnul m p (List.mem_cons_of_mem stop hp)
      rw [hnone, andThen_ok, ← ih]
      cases (processAll (visit o) stops r').1 <;> simp [Except.map]

/-- The text is written unless something goes wrong. -/
theorem rewriteFile_of_ne (h : ∀ e left, mishap ≠ some (.unwritable e left)) (p : Path) (names : List String)
    (text : List Char) (r : Run) :
    r.rewriteFile o mishap p names text = (true, (r.writeFile names text).report o (.changed p.text)) := by
  rcases mishap with _ | ⟨e⟩ | ⟨e, left⟩
  · rfl
  · rfl
  · exact absurd rfl (h e left)

/-- An outcome that can be written goes well and is counted. -/
theorem conclude_eq (h : o.Spares mishap) (p : Path) (names : List String) (outcome : Outcome) (r : Run) :
    (r.conclude o mishap p names outcome).1 = true ∧
    (r.conclude o mishap p names outcome).2.tree =
      (if outcome.changed = true ∧ o.dryRun = false then r.tree.setFile names (Text.Utf8.encode outcome.text)
      else r.tree) ∧
    (r.startFile.conclude o mishap p names outcome).2.tally = r.tally.plus (.ofFile p (some outcome)) := by
  obtain ⟨text, changed, passes, converged⟩ := outcome
  cases hd : o.dryRun with
  | true =>
    cases changed <;> cases converged <;>
      simp [conclude, hd, tree_report, tally_report, startFile, noteUnsettled, noteChanged, say, Tally.ofFile,
        Tally.plus]
  | false =>
    cases changed <;> cases converged <;>
      simp [conclude, hd, rewriteFile_of_ne (h hd), tree_report, tally_report, startFile, noteUnsettled, noteChanged,
        writeFile, say, Tally.ofFile, Tally.plus]

/-- A visit to a file goes well if the file can be read and is a text. The file is rewritten unless it is only
checked. -/
theorem processFileAmid_eq (hn : o.normalizer.segmenter = .strategy strategy) (hnul : p.route.hasNul = false)
    (h : o.Spares mishap) (r : Run) :
    (r.processFileAmid o mishap p).1 = .ok (r.tree.goesWell o.normalizer (.file mishap p)) ∧
    (r.processFileAmid o mishap p).2.tree =
      (if o.dryRun then r.tree else r.tree.rewriteStop o.normalizer (.file mishap p)) ∧
    (r.processFileAmid o mishap p).2.tally = r.tally.plus (r.tree.entry o.normalizer (.file mishap p)) := by
  rw [FileTree.goesWell, FileTree.entry]
  cases houtcome : r.tree.outcomeAmid? o.normalizer mishap p with
  | none =>
    obtain ⟨failure, hexamine⟩ := examine_of_none hn hnul houtcome
    have hprocess : r.processFileAmid o mishap p =
        (.ok false, r.startFile.fail p.text (.fileFailed p.text failure)) := by
      rw [processFileAmid, show r.startFile.tree = r.tree from rfl, hexamine]
    have hkept : r.tree.rewriteStop o.normalizer (.file mishap p) = r.tree := by
      rcases mishap with _ | ⟨e⟩ | ⟨e, left⟩
      · exact FileTree.rewriteAt_of_none houtcome
      · rfl
      · exact FileTree.rewriteAt_of_none houtcome
    rw [hprocess, hkept, ite_self]
    exact ⟨rfl, rfl, by simp [fail, say, startFile, Tally.ofFile, Tally.plus]⟩
  | some outcome =>
    obtain ⟨names, bytes, hfound, hbytes, hexamine, hreadable⟩ := examine_of_some hnul houtcome
    have hprocess : r.processFileAmid o mishap p = (.ok (r.startFile.conclude o mishap p names outcome).1,
        (r.startFile.conclude o mishap p names outcome).2) := by
      rw [processFileAmid, show r.startFile.tree = r.tree from rfl, hexamine]
    have hread : r.tree.rewriteStop o.normalizer (.file mishap p) = r.tree.rewriteAt o.normalizer p := by
      rcases mishap with _ | ⟨e⟩ | ⟨e, left⟩
      · rfl
      · exact absurd rfl (hreadable e)
      · rfl
    obtain ⟨hresult, htree, -⟩ := conclude_eq h p names outcome r.startFile
    obtain ⟨-, -, htally⟩ := conclude_eq h p names outcome r
    rw [hprocess, hresult, htree, htally, hread, FileTree.rewriteAt_of_some hn hfound hbytes,
      show r.startFile.tree = r.tree from rfl]
    refine ⟨rfl, ?_, rfl⟩
    cases o.dryRun with
    | true => simp
    | false => simp

/-- What a stop comes to at which a run does not break off. -/
theorem visit_eq (hn : o.normalizer.segmenter = .strategy strategy)
    (hfile : ∀ m p, stop = .file m p → p.route.hasNul = false ∧ o.Spares m) (hstop : stop.abort? = none) (r : Run) :
    (visit o stop r).1 = .ok (r.tree.goesWell o.normalizer stop) ∧
    (visit o stop r).2.tree = (if o.dryRun then r.tree else r.tree.rewriteStop o.normalizer stop) ∧
    (visit o stop r).2.tally = r.tally.plus (r.tree.entry o.normalizer stop) := by
  cases stop with
  | file mishap p =>
    obtain ⟨hnul, hspares⟩ := hfile mishap p rfl
    exact processFileAmid_eq hn hnul hspares (r.startOn p)
  | absent path => exact ⟨rfl, (ite_self r.tree).symm, r.tally.plus_empty.symm⟩
  | missing path => exact ⟨rfl, (ite_self r.tree).symm, by simp [visit, fail, say, FileTree.entry, Tally.plus]⟩
  | unlisted shown e q => exact ⟨rfl, (ite_self r.tree).symm, r.tally.plus_empty.symm⟩
  | barred a => cases hstop

end Run

/-! ## All stops -/

namespace FileTree

/-- Whether all goes well at the stops, or why a run breaks off at one of them. -/
def verdict (t : FileTree) (n : Normalizer) (stops : List Stop) : Except Abort Bool :=
  match stops.findSome? Stop.abort? with
  | some a => .error a
  | none => .ok (stops.all (t.goesWell n))

/-- The paths at the stops that fail, as far as a run gets. -/
def failures (t : FileTree) (n : Normalizer) (stops : List Stop) : List String :=
  (Stop.reached stops).flatMap fun stop => (t.entry n stop).failedFiles

theorem verdict_cons_of_isNone (h : stop.abort? = none) (stops : List Stop) :
    t.verdict n (stop :: stops) = (t.verdict n stops).map (t.goesWell n stop && ·) := by
  rw [verdict, List.findSome?_cons, h, verdict]
  cases stops.findSome? Stop.abort? <;> rfl

/-- Those of the visits that come to another text. -/
def changes (t : FileTree) (n : Normalizer) (visits : List Path) : List Path :=
  visits.filter fun p => (t.outcomeAt? n p).any Outcome.changed

/-- Those of the visits whose last pass still changes something. -/
def unsettled (t : FileTree) (n : Normalizer) (visits : List Path) : List Path :=
  visits.filter fun p => (t.outcomeAt? n p).any fun outcome => !outcome.converged

/-- The tally of the stops if the given visits to files find them as they are in the tree, and the others find them
normalized. -/
def account (t : FileTree) (n : Normalizer) (stops : List Stop) (counted : List Path) : Tally where
  processed := ((Stop.reached stops).flatMap Stop.begun).length
  changed := (t.changes n counted).length
  changedFiles := (t.changes n counted).map Path.text
  failedFiles := t.failures n stops
  unsettledFiles := (t.unsettled n counted).map Path.text

/-- Those of the visits that lead to a file to which no path has led before. -/
def firstVisits (t : FileTree) : (seen : List Path) → List Path → List Path
  | _, [] => []
  | seen, p :: visits =>
    if t.Seen seen (t.located? p) then t.firstVisits (seen ++ [p]) visits
    else p :: t.firstVisits (seen ++ [p]) visits

theorem account_cons (h : stop.abort? = none) (stops : List Stop) (counted : List Path) :
    t.account n (stop :: stops) counted = {
      t.account n stops counted with
      processed := stop.begun.length + (t.account n stops counted).processed
      failedFiles := (t.entry n stop).failedFiles ++ (t.account n stops counted).failedFiles } := by
  simp only [account, failures, Stop.reached_cons_of_isNone h, List.flatMap_cons, List.length_append]

/-- A stop that reads nothing is counted in any case. -/
theorem entry_plus_account (hstop : stop.abort? = none) (h : stop.read = []) (t : FileTree) (n : Normalizer)
    (stops : List Stop) (counted : List Path) :
    (t.entry n stop).plus (t.account n stops counted) = t.account n (stop :: stops) counted := by
  rw [account_cons hstop]
  rcases stop with ⟨_ | ⟨e⟩ | ⟨e, left⟩, q⟩ | _ | _ | _ | _
  case file.none | file.some.unwritable => cases h
  all_goals simp [entry, outcomeAmid?, Tally.ofFile, Tally.plus, Stop.begun]

/-- A visit that finds a file as it is in the tree is counted. -/
theorem ofFile_plus_account (hstop : stop.abort? = none) (h : p ∈ stop.read) (t : FileTree) (n : Normalizer)
    (stops : List Stop) (counted : List Path) :
    (Tally.ofFile p (t.outcomeAt? n p)).plus (t.account n stops counted) =
      t.account n (stop :: stops) (p :: counted) := by
  obtain ⟨-, hbegun, -, hentry⟩ := of_mem_read h t n
  rw [account_cons hstop, hbegun, hentry]
  rcases houtcome : t.outcomeAt? n p with _ | ⟨text, changed, passes, converged⟩
  · simp [account, Tally.ofFile, Tally.plus, changes, unsettled, houtcome]
  · cases changed <;> cases converged <;>
      simp [account, Tally.ofFile, Tally.plus, changes, unsettled, houtcome, Nat.add_comm]

/-- A visit that finds a file normalized is not. -/
theorem ofFile_settled_plus_account (hstop : stop.abort? = none) (h : p ∈ stop.read) (t : FileTree) (n : Normalizer)
    (k : Nat) (stops : List Stop) (counted : List Path) :
    (Tally.ofFile p ((t.outcomeAt? n p).map fun outcome => ⟨outcome.text, false, k, true⟩)).plus
      (t.account n stops counted) = t.account n (stop :: stops) counted := by
  obtain ⟨-, hbegun, -, hentry⟩ := of_mem_read h t n
  rw [account_cons hstop, hbegun, hentry]
  rcases houtcome : t.outcomeAt? n p with _ | outcome <;> simp [account, Tally.ofFile, Tally.plus]

end FileTree

namespace RunOptions

/-- The tree that a run has after visits to the given paths. -/
def treeAfter (o : RunOptions) (t : FileTree) (seen : List Path) : FileTree :=
  if o.dryRun then t else t.rewritten o.normalizer seen

@[simp] theorem treeAfter_nil (o : RunOptions) (t : FileTree) : o.treeAfter t [] = t := by
  rw [treeAfter, FileTree.rewritten_nil, ite_self]

/-- Those of the visits that find a file as it is at the start: all if nothing is written, and else the first one to
each file. -/
def counted (o : RunOptions) (t : FileTree) (seen visits : List Path) : List Path :=
  if o.dryRun then visits else t.firstVisits seen visits

@[simp] theorem counted_nil (o : RunOptions) (t : FileTree) (seen : List Path) : o.counted t seen [] = [] := by
  rw [counted, FileTree.firstVisits, ite_self]

end RunOptions

namespace Run

variable {r : Run} {seen : List Path}

/-- A stop keeps the invariant, and adds to the tally of the later stops what it is to add. -/
theorem visit_treeAfter (hn : o.normalizer.segmenter = .strategy strategy)
    (hfile : ∀ m p, stop = .file m p → p.route.hasNul = false ∧ o.Spares m) (hstop : stop.abort? = none)
    (hr : r.tree = o.treeAfter t seen) :
    (visit o stop r).1 = .ok (t.goesWell o.normalizer stop) ∧
    (visit o stop r).2.tree = o.treeAfter t (seen ++ stop.read) ∧
    ∀ stops, (visit o stop r).2.tally.plus
        (t.account o.normalizer stops (o.counted t (seen ++ stop.read) (Stop.files stops))) =
      r.tally.plus (t.account o.normalizer (stop :: stops) (o.counted t seen (Stop.files (stop :: stops)))) := by
  obtain ⟨hresult, htree, htally⟩ := visit_eq hn hfile hstop r
  rw [hresult, htree, htally]
  simp only [Stop.files_cons_of_isNone hstop, Tally.plus_assoc]
  rcases List.eq_nil_or_concat' stop.read with hnone | ⟨front, p, hread⟩
  · -- Nothing is read: the tree stays, and what is counted does not depend on it.
    have hkept : r.tree.rewriteStop o.normalizer stop = r.tree := by rw [FileTree.rewriteStop, hnone, List.foldl_nil]
    simp only [hnone, List.append_nil, List.nil_append]
    rw [hkept, ite_self, FileTree.goesWell_of_read hnone t, FileTree.entry_of_read hnone t]
    exact ⟨rfl, hr, fun stops => congrArg r.tally.plus (FileTree.entry_plus_account hstop hnone t _ stops _)⟩
  · have hp : p ∈ stop.read := by simp [hread]
    obtain ⟨hone, -, hwell, hentry⟩ := FileTree.of_mem_read hp r.tree o.normalizer
    obtain ⟨-, -, hwell', -⟩ := FileTree.of_mem_read hp t o.normalizer
    have hrewrite : r.tree.rewriteStop o.normalizer stop = r.tree.rewriteAt o.normalizer p := by
      rw [FileTree.rewriteStop, hone, List.foldl_cons, List.foldl_nil]
    rw [hrewrite, hone, hwell, hwell', hentry, hr]
    simp only [RunOptions.treeAfter, RunOptions.counted, List.singleton_append]
    cases o.dryRun with
    | true => exact ⟨rfl, rfl, fun stops => congrArg r.tally.plus (FileTree.ofFile_plus_account hstop hp t _ stops _)⟩
    | false =>
      refine ⟨congrArg _ (FileTree.isSome_outcomeAt?_rewritten hn seen t p), FileTree.rewriteAt_rewritten hn seen t p,
        fun stops => congrArg r.tally.plus ?_⟩
      simp only [Bool.false_eq_true, if_false, FileTree.firstVisits]
      -- A file that has been seen is rewritten by now: the visit finds it normalized and is not counted.
      by_cases hseen : t.Seen seen (t.located? p)
      · obtain ⟨k, hk⟩ := FileTree.outcomeAt?_rewritten_of_seen hn hseen
        rw [if_pos hseen, hk]
        exact FileTree.ofFile_settled_plus_account hstop hp t o.normalizer k stops _
      · rw [if_neg hseen, FileTree.outcomeAt?_rewritten_of_not_seen hseen]
        exact FileTree.ofFile_plus_account hstop hp t o.normalizer stops _

/-- All stops, after files have been seen: the result and the tally are told by the tree at the start, and the files
seen by then are rewritten. -/
theorem processAll_visit (hn : o.normalizer.segmenter = .strategy strategy) : ∀ (stops : List Stop) (seen : List Path)
    (r : Run), (∀ m p, .file m p ∈ stops → p.route.hasNul = false ∧ o.Spares m) → r.tree = o.treeAfter t seen →
      (processAll (visit o) stops r).1 = t.verdict o.normalizer stops ∧
      (processAll (visit o) stops r).2.tree = o.treeAfter t (seen ++ Stop.files stops) ∧
      (processAll (visit o) stops r).2.tally =
        r.tally.plus (t.account o.normalizer stops (o.counted t seen (Stop.files stops)))
  | [], seen, r, _, hr => by
    have hfiles : Stop.files [] = [] := rfl
    refine ⟨rfl, by simpa [hfiles, processAll] using hr, ?_⟩
    rw [hfiles, RunOptions.counted_nil]
    exact r.tally.plus_empty.symm
  | stop :: stops, seen, r, hfile, hr => by
    rw [processAll_cons]
    cases hstop : stop.abort? with
    | none =>
      -- The later stops are those of a run that has seen what is read here, too.
      obtain ⟨hresult, htree, htally⟩ :=
        visit_treeAfter hn (fun m p he => hfile m p (he ▸ List.mem_cons_self)) hstop hr
      obtain ⟨ihresult, ihtree, ihtally⟩ := processAll_visit hn stops (seen ++ stop.read) (visit o stop r).2
        (fun m p hp => hfile m p (List.mem_cons_of_mem _ hp)) htree
      rw [andThen, hresult]
      refine ⟨?_, ?_, ihtally.trans (htally stops)⟩
      · rw [FileTree.verdict_cons_of_isNone hstop, ← ihresult]
      · rw [Stop.files_cons_of_isNone hstop, ← List.append_assoc, ← ihtree]
    | some a =>
      cases stop with
      | barred b =>
        have hfiles : Stop.files (.barred b :: stops) = [] := rfl
        refine ⟨rfl, by simpa [hfiles, visit, andThen_error] using hr, ?_⟩
        rw [hfiles, RunOptions.counted_nil]
        exact r.tally.plus_empty.symm
      | _ => cases hstop

/-- The stops of a run, with what goes wrong with their files. -/
def itinerary (o : RunOptions) (paths : List String) (r : Run) : List Stop :=
  o.storage.mark r.begun.length (r.tree.stops o.scope paths)

theorem of_file_mem_itinerary {m : Option Mishap} {paths : List String} (h : .file m p ∈ r.itinerary o paths) :
    p.route.hasNul = false ∧ ∃ k, m = o.storage.mishap? k := by
  obtain ⟨k, hk, m, hm⟩ := Storage.exists_of_file_mem_mark h
  exact ⟨(FileTree.of_file_mem_stops hm).2.not_hasNul, k, hk⟩

/-- A run breaks off at the first of its targets where there is a reason to, whatever goes wrong with files. -/
theorem run_eq_error_iff (hn : o.normalizer.segmenter = .strategy strategy) {paths : List String} {a : Abort} :
    (run o paths r).1 = .error a ↔ (o.scope.targets paths).findSome? (r.tree.barrier? o.scope) = some a := by
  have hstops := processAll_visit_eq_error_iff hn (a := a) (r.say .started)
    fun m p (hp : .file m p ∈ r.itinerary o paths) => (of_file_mem_itinerary hp).1
  rw [itinerary, Storage.findSome?_abort?_mark, FileTree.findSome?_stops] at hstops
  rw [← hstops, run_eq_visitAll, visitAll, show (r.say .started).begun = r.begun from rfl]
  generalize processAll (visit o) _ (r.say .started) = x
  rcases x with ⟨e | ok, r'⟩ <;> simp

/-- A run comes to its end exactly if it can be told of each of its targets whether it is there, and none leads too
deep. -/
theorem exists_ok_run_iff (hn : o.normalizer.segmenter = .strategy strategy) {paths : List String} :
    (∃ ok, (run o paths r).1 = .ok ok) ↔ r.tree.Resolves o.scope paths := by
  have herror : ∀ a, (run o paths r).1 = .error a ↔ _ := fun a => run_eq_error_iff hn
  rw [FileTree.resolves_iff, FileTree.findSome?_stops]
  cases hresult : (run o paths r).1 with
  | error a => simp [(herror a).mp hresult]
  | ok ok =>
    simp only [Except.ok.injEq, exists_eq', true_iff]
    by_contra hsome
    obtain ⟨a, ha⟩ := Option.ne_none_iff_exists'.mp hsome
    rw [← herror, hresult] at ha
    cases ha

theorem spares_of_writes (hw : o.dryRun = false → o.storage.Writes) {m : Option Mishap} {paths : List String}
    (h : .file m p ∈ r.itinerary o paths) : o.Spares m := by
  obtain ⟨-, k, rfl⟩ := of_file_mem_itinerary h
  exact fun hd => hw hd k

/-- What a run comes to if what it writes can be written. -/
theorem run_eq (hn : o.normalizer.segmenter = .strategy strategy) (hw : o.dryRun = false → o.storage.Writes)
    (paths : List String) (r : Run) :
    (run o paths r).1 = r.tree.verdict o.normalizer (r.itinerary o paths) ∧
    (run o paths r).2.tree = o.treeAfter r.tree (Stop.files (r.itinerary o paths)) ∧
    (run o paths r).2.tally = r.tally.plus (r.tree.account o.normalizer (r.itinerary o paths)
      (o.counted r.tree [] (Stop.files (r.itinerary o paths)))) := by
  have hstart : (r.say .started).tree = o.treeAfter r.tree [] := (o.treeAfter_nil r.tree).symm
  have hvisits := processAll_visit hn (r.itinerary o paths) [] (r.say .started)
    (fun m p hp => ⟨(of_file_mem_itinerary hp).1, spares_of_writes hw hp⟩) hstart
  have hall : visitAll o (r.tree.stops o.scope paths) (r.say .started) =
      processAll (visit o) (r.itinerary o paths) (r.say .started) := rfl
  rw [run_eq_visitAll, hall]
  rcases h : processAll (visit o) (r.itinerary o paths) (r.say .started) with ⟨e | ok, r'⟩
  · rwa [h] at hvisits
  · rwa [h] at hvisits

/-- What a new run comes to that only checks files. -/
theorem run_check_eq (hn : n.segmenter = .strategy strategy) (s : Scope) (verbose : Bool) (storage : Storage)
    (paths : List String) (t : FileTree) :
    (run ⟨n, s, true, verbose, storage⟩ paths { tree := t }).1 = t.verdict n (storage.mark 0 (t.stops s paths)) ∧
    (run ⟨n, s, true, verbose, storage⟩ paths { tree := t }).2.tree = t ∧
    (run ⟨n, s, true, verbose, storage⟩ paths { tree := t }).2.tally =
      t.account n (storage.mark 0 (t.stops s paths)) (Stop.files (storage.mark 0 (t.stops s paths))) := by
  obtain ⟨hresult, htree, htally⟩ := run_eq (o := ⟨n, s, true, verbose, storage⟩) hn nofun paths { tree := t }
  exact ⟨hresult, htree, htally.trans (Tally.empty_plus _)⟩

/-- What a new run comes to that writes. -/
theorem run_write_eq (hn : n.segmenter = .strategy strategy) {storage : Storage} (hw : storage.Writes) (s : Scope)
    (verbose : Bool) (paths : List String) (t : FileTree) :
    (run ⟨n, s, false, verbose, storage⟩ paths { tree := t }).1 = t.verdict n (storage.mark 0 (t.stops s paths)) ∧
    (run ⟨n, s, false, verbose, storage⟩ paths { tree := t }).2.tree =
      t.rewritten n (Stop.files (storage.mark 0 (t.stops s paths))) ∧
    (run ⟨n, s, false, verbose, storage⟩ paths { tree := t }).2.tally =
      t.account n (storage.mark 0 (t.stops s paths))
        (t.firstVisits [] (Stop.files (storage.mark 0 (t.stops s paths)))) := by
  obtain ⟨hresult, htree, htally⟩ :=
    run_eq (o := ⟨n, s, false, verbose, storage⟩) hn (fun _ => hw) paths { tree := t }
  exact ⟨hresult, htree, htally.trans (Tally.empty_plus _)⟩

end Run

/-! ## The files that a tally names -/

namespace FileTree

variable {seen visits : List Path}

/-- The names of the file that a path names as text, if it leads to one. -/
def named? (t : FileTree) (path : String) : Option (List String) :=
  t.located? (.ofString path)

/-- Whether the file at the given names is another one when it is rewritten. -/
def alters (t : FileTree) (n : Normalizer) (names : List String) : Bool :=
  (t.bytesAt? names).any fun bytes => n.rewrite bytes != bytes

theorem named?_text (h : p.IsProper) : t.named? p.text = t.located? p := by
  rw [named?, Path.ofString_text h]

theorem mem_of_mem_firstVisits : ∀ {seen visits : List Path}, p ∈ t.firstVisits seen visits → p ∈ visits
  | _, [], h => by cases h
  | seen, q :: visits, h => by
    rw [firstVisits] at h
    split at h
    · exact List.mem_cons_of_mem q (mem_of_mem_firstVisits h)
    · rcases List.mem_cons.mp h with rfl | h
      · exact List.mem_cons_self
      · exact List.mem_cons_of_mem q (mem_of_mem_firstVisits h)

/-- First visits are to each file that has not been seen, once and in the order of the visits. -/
theorem filterMap_firstVisits (t : FileTree) : ∀ seen visits : List Path,
    (t.firstVisits seen visits).filterMap t.located? =
      ((visits.filterMap t.located?).filter fun names => decide (¬t.Seen seen (some names))).eraseDups
  | _, [] => rfl
  | seen, p :: visits => by
    have ih := filterMap_firstVisits t (seen ++ [p]) visits
    simp only [seen_append_singleton] at ih
    rw [firstVisits]
    cases hp : t.located? p with
    | none =>
      simp only [hp, reduceCtorEq, or_false] at ih
      split <;> simp [hp, ih]
    | some names =>
      -- Either the file has been seen and is left out on both sides, or it comes first and is left out from here on.
      rw [List.filterMap_cons_some hp, List.filter_cons]
      by_cases hseen : t.Seen seen (some names)
      · have hfilter : ∀ others, (t.Seen seen (some others) ∨ t.located? p = some others) ↔ t.Seen seen (some others) :=
          fun others => or_iff_left_of_imp fun he => (hp.symm.trans he) ▸ hseen
        rw [if_pos hseen, if_neg (by simpa using hseen), ih]
        simp only [hfilter]
      · rw [if_neg hseen, if_pos (by simpa using hseen), List.filterMap_cons_some hp, List.eraseDups_cons,
          List.filter_filter, ih]
        refine congrArg (fun l => names :: l.eraseDups) (congrArg (List.filter · _) ?_)
        funext others
        by_cases he : others = names
        · simp [he, hp]
        · simp [he, hp, Ne.symm he]

theorem filterMap_firstVisits_nil (t : FileTree) (visits : List Path) :
    (t.firstVisits [] visits).filterMap t.located? = (visits.filterMap t.located?).eraseDups := by
  rw [filterMap_firstVisits]
  simp

/-- A file comes to another text exactly if it is another one when it is rewritten. -/
theorem any_changed_iff (hn : n.segmenter = .strategy strategy) (t : FileTree) (p : Path) :
    (t.outcomeAt? n p).any Outcome.changed = (t.located? p).any (t.alters n) := by
  rcases hfound : t.found? p with _ | ⟨names, bytes⟩
  · rw [outcomeAt?, located?, hfound]
    rfl
  · have hbytes : t.bytesAt? names = some bytes := bytesAt?_eq_some_iff.mpr (get?_of_found? hfound)
    rw [outcomeAt?, located?, hfound, Option.bind_some, Option.map_some, Option.any_some, alters, hbytes,
      Option.any_some]
    cases houtcome : n.outcome? bytes with
    | none => simp [Normalizer.rewrite_of_none houtcome]
    | some outcome =>
      rw [Option.any_some, Bool.eq_iff_iff, Normalizer.changed_iff hn houtcome, bne_iff_ne]

/-- The files that are named as changed. -/
theorem map_named?_changes (hn : n.segmenter = .strategy strategy) : ∀ {visits : List Path},
    (∀ p ∈ visits, p.IsProper) → ((t.changes n visits).map Path.text).map t.named? =
      ((visits.filterMap t.located?).filter (t.alters n)).map some
  | [], _ => rfl
  | p :: visits, h => by
    have ih : ((t.changes n visits).map Path.text).map t.named? =
        ((visits.filterMap t.located?).filter (t.alters n)).map some :=
      map_named?_changes hn fun q hq => h q (List.mem_cons_of_mem p hq)
    rw [changes, List.filter_cons, any_changed_iff hn, ← changes]
    cases hp : t.located? p with
    | none => simpa [hp] using ih
    | some names =>
      rw [Option.any_some, List.filterMap_cons_some hp, List.filter_cons]
      split
      · rw [List.map_cons, List.map_cons, List.map_cons, ih, named?_text (h p List.mem_cons_self), hp]
      · exact ih

end FileTree

end BracketSpacing
