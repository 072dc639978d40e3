import BracketSpacing.Proofs.Effect
import BracketSpacing.Proofs.Endings
import BracketSpacing.Run.Session

/-!
# What a runner books

* `Booking`: all that a step of a runner can add to its tally and to its complaints, with how the step ends and the
  files that it has started on. Every stop books something of the kind (`Run.books_visit`), and so do runs and their
  parts.
* From this one list of cases follow the laws of tallies: files are counted when they are started on, each that is
  changed is named (`Booking.isBalanced`), a step goes well exactly if it adds no failure and walks all its directories
  (`Booking.goesWell_iff`), and which files are unsettled depends on the pass limit (`Booking.unsettledFiles_eq`).
* `Session.tally_after` and `Session.unsettledFiles_after` are the laws for all that can be asked of a runner, by
  induction over the requests.
-/

namespace BracketSpacing

variable {n : Normalizer} {strategy : Strategy} {o : RunOptions} {p : Path} {r : Run} {s : Session}

/-! ## Bookings -/

/-- What a step adds to the tally and to the complaints of a runner: how it ends, the files that it has started on, and
what is booked. -/
inductive Booking (n : Normalizer) : Except Abort Bool → List Path → Tally → List Notice → Prop where
  /-- Nothing is to be done, or a directory is missing. -/
  | nothing : Booking n (.ok true) [] {} []
  /-- A path is missing that must be there. -/
  | missing (path : String) : Booking n (.ok false) [] { failedFiles := [path] } [.pathNotFound path]
  /-- A directory cannot be walked. -/
  | unlisted (shown : String) (e : FileError) (path : String) :
      Booking n (.ok false) [] {} [.directoryFailed shown e path]
  /-- The step breaks off before it comes to a file. -/
  | barred (a : Abort) : Booking n (.error a) [] {} []
  /-- The step breaks off at a file. -/
  | brokenOff (a : Abort) (p : Path) : Booking n (.error a) [p] { processed := 1 } []
  /-- A file has no outcome. -/
  | unread (p : Path) (failure : FileFailure) :
      Booking n (.ok false) [p] (.ofFile p none) [.fileFailed p.text failure]
  /-- A file is normalized. -/
  | done (p : Path) {text : List Char} {outcome : Outcome} (h : n.normalize? text = some outcome) :
      Booking n (.ok true) [p] (.ofFile p (some outcome)) []
  /-- A file is changed, but cannot be written. -/
  | unwritten (p : Path) (e : FileError) {text : List Char} {outcome : Outcome}
      (h : n.normalize? text = some outcome) (hchanged : outcome.changed = true) :
      Booking n (.ok false) [p] ((Tally.ofFile p (some outcome)).plus { failedFiles := [p.text] })
        [.fileFailed p.text (.unreachable e)]
  /-- Two steps are made, one after the other. -/
  | andThen {ok : Bool} {result : Except Abort Bool} {begun begun' : List Path} {d d' : Tally}
      {complaints complaints' : List Notice} (first : Booking n (.ok ok) begun d complaints)
      (next : Booking n result begun' d' complaints') :
      Booking n (result.map (ok && ·)) (begun ++ begun') (d.plus d') (complaints ++ complaints')

namespace Booking

variable {result : Except Abort Bool} {begun : List Path} {d : Tally} {complaints : List Notice}

/-- Files are counted when they are started on, and those that are changed are counted and named. -/
theorem isBalanced (h : Booking n result begun d complaints) :
    d.changed = d.changedFiles.length ∧ d.changed ≤ d.processed ∧ d.processed = begun.length := by
  induction h with
  | nothing => exact ⟨rfl, Nat.le_refl 0, rfl⟩
  | missing path => exact ⟨rfl, Nat.le_refl 0, rfl⟩
  | unlisted shown e path => exact ⟨rfl, Nat.le_refl 0, rfl⟩
  | barred a => exact ⟨rfl, Nat.le_refl 0, rfl⟩
  | brokenOff a p => exact ⟨rfl, Nat.zero_le 1, rfl⟩
  | unread p failure => exact ⟨rfl, Nat.zero_le 1, rfl⟩
  | @done p text outcome h => cases hchanged : outcome.changed <;> simp [Tally.ofFile, hchanged]
  | unwritten p e h hchanged => simp [Tally.ofFile, Tally.plus, hchanged]
  | andThen first next ih ih' =>
    simp only [Tally.plus, List.length_append]
    omega

/-- A step that comes to its end goes well exactly if it adds no failure and could walk all directories. -/
theorem goesWell_iff (h : Booking n result begun d complaints) : ∀ {ok : Bool}, result = .ok ok →
    (ok = true ↔ d.failedFiles = [] ∧ ∀ shown e path, .directoryFailed shown e path ∉ complaints) := by
  induction h with
  | nothing => rintro ok ⟨⟩; simp
  | missing path => rintro ok ⟨⟩; simp
  | unlisted shown e path => rintro ok ⟨⟩; simp
  | barred a => rintro ok ⟨⟩
  | brokenOff a p => rintro ok ⟨⟩
  | unread p failure => rintro ok ⟨⟩; simp [Tally.ofFile]
  | done p h => rintro ok ⟨⟩; simp [Tally.ofFile]
  | unwritten p e h hchanged => rintro ok ⟨⟩; simp [Tally.plus]
  | @andThen first result _ _ _ _ _ _ _ _ ih ih' =>
    intro ok hok
    cases result with
    | error a => cases hok
    | ok others =>
      cases hok
      simp only [Bool.and_eq_true, ih rfl, ih' rfl, Tally.plus, List.append_eq_nil_iff, List.mem_append, not_or,
        forall_and, and_and_and_comm]

/-- The outcome for a text has converged unless there is but one pass and it changes the text. -/
theorem converged_eq (hn : n.segmenter = .strategy strategy) {text : List Char} {outcome : Outcome}
    (h : n.normalize? text = some outcome) :
    outcome.converged = (decide (2 ≤ n.passLimit) || !outcome.changed) := by
  rw [Normalizer.normalize?, hn] at h
  cases h
  rw [Bool.eq_iff_iff, Bool.or_eq_true, decide_eq_true_iff]
  have hconverged : (normalizeWith strategy n.guard n.passLimit text).converged = true ↔ _ :=
    converged_settleText n.passLimit_pos n.guard (strategy.segments text) text
  rw [hconverged, ← text_normalizeWith_eq_self_iff n.passLimit_pos]
  simp [normalizeWith]

/-- With one pass the files that are changed are unsettled, and with more passes none is. -/
theorem unsettledFiles_eq (hn : n.segmenter = .strategy strategy) (h : Booking n result begun d complaints) :
    d.unsettledFiles = if n.passLimit = 1 then d.changedFiles else [] := by
  have hpos := n.passLimit_pos
  have hfile : ∀ (p : Path) {text : List Char} {outcome : Outcome}, n.normalize? text = some outcome →
      (Tally.ofFile p (some outcome)).unsettledFiles =
        if n.passLimit = 1 then (Tally.ofFile p (some outcome)).changedFiles else [] := by
    intro p text outcome houtcome
    have hconverged := converged_eq hn houtcome
    by_cases hone : n.passLimit = 1
    · cases hchanged : outcome.changed <;> simp [Tally.ofFile, hconverged, hchanged, hone]
    · have htwo : 2 ≤ n.passLimit := by omega
      simp [Tally.ofFile, hconverged, hone, htwo]
  induction h with
  | nothing => exact (ite_self []).symm
  | missing path => exact (ite_self []).symm
  | unlisted shown e path => exact (ite_self []).symm
  | barred a => exact (ite_self []).symm
  | brokenOff a p => exact (ite_self []).symm
  | unread p failure => exact (ite_self []).symm
  | done p h => exact hfile p h
  | unwritten p e h hchanged =>
    simp only [Tally.plus, List.append_nil]
    exact hfile p h
  | andThen first next ih ih' =>
    simp only [Tally.plus, ih, ih']
    split <;> rfl

end Booking

/-! ## Steps of a runner -/

namespace Run

/-- A step has booked what it has done. -/
def Books (o : RunOptions) (r : Run) (x : Except Abort Bool × Run) : Prop :=
  ∃ begun d complaints, Booking o.normalizer x.1 begun d complaints ∧ x.2.begun = r.begun ++ begun ∧
    x.2.tally = r.tally.plus d ∧ x.2.complaints = r.complaints ++ complaints

theorem books_nothing (o : RunOptions) (r : Run) : Books o r (.ok true, r) :=
  ⟨_, _, _, .nothing, (List.append_nil _).symm, r.tally.plus_empty.symm, (List.append_nil _).symm⟩

/-- However a runner ends with a file, it books it. -/
theorem books_file (o : RunOptions) (mishap : Option Mishap) (p : Path) (r : Run) :
    Books o r ((r.startOn p).processFileAmid o mishap p) := by
  have hbegun := begun_processFileAmid o mishap p (r.startOn p)
  have hending := ending_processFileAmid o mishap p (r.startOn p)
  generalize (r.startOn p).processFileAmid o mishap p = x at hbegun hending
  cases hending with
  | brokenOff a =>
    exact ⟨_, _, _, .brokenOff a p, hbegun, by simp [startOn, startFile, Tally.plus], (List.append_nil _).symm⟩
  | unread failure =>
    exact ⟨_, _, _, .unread p failure, hbegun, by simp [startOn, startFile, fail, say, Tally.ofFile, Tally.plus],
      complaints_fail (r.startOn p).startFile p.text rfl⟩
  | done hexamine _ htally hcomplaints =>
    obtain ⟨-, text, htext⟩ := exists_of_examine hexamine
    exact ⟨_, _, _, .done p htext, hbegun, htally, hcomplaints.trans (List.append_nil _).symm⟩
  | unwritten _ hexamine hwrites _ htally hcomplaints =>
    obtain ⟨-, text, htext⟩ := exists_of_examine hexamine
    exact ⟨_, _, _, .unwritten p _ htext hwrites.1, hbegun, htally.trans (Tally.plus_assoc _ _ _), hcomplaints⟩

theorem books_visit (o : RunOptions) (stop : Stop) (r : Run) : Books o r (visit o stop r) := by
  cases stop with
  | file mishap p => exact books_file o mishap p r
  | absent path => exact ⟨_, _, _, .nothing, (List.append_nil _).symm, r.tally.plus_empty.symm, complaints_say r _⟩
  | missing path =>
    exact ⟨_, _, _, .missing path, (List.append_nil _).symm, by simp [visit, fail, say, Tally.plus],
      complaints_fail r path rfl⟩
  | unlisted shown e q =>
    exact ⟨_, _, _, .unlisted shown e q.text, (List.append_nil _).symm, r.tally.plus_empty.symm, complaints_say r _⟩
  | barred a => exact ⟨_, _, _, .barred a, (List.append_nil _).symm, r.tally.plus_empty.symm, (List.append_nil _).symm⟩

theorem books_processAll_visit (o : RunOptions) : ∀ (stops : List Stop) (r : Run),
    Books o r (processAll (visit o) stops r)
  | [], r => books_nothing o r
  | stop :: stops, r => by
    obtain ⟨begun, d, complaints, hd, hbegun, htally, hcomplaints⟩ := books_visit o stop r
    rw [processAll_cons]
    rcases hfirst : visit o stop r with ⟨e | ok, r'⟩
    · rw [hfirst] at hd hbegun htally hcomplaints
      exact ⟨begun, d, complaints, hd, hbegun, htally, hcomplaints⟩
    · rw [hfirst] at hd hbegun htally hcomplaints
      obtain ⟨begun', d', complaints', hd', hbegun', htally', hcomplaints'⟩ := books_processAll_visit o stops r'
      refine ⟨begun ++ begun', d.plus d', complaints ++ complaints', .andThen hd hd', ?_, ?_, ?_⟩
      · rw [andThen_ok, hbegun', hbegun, List.append_assoc]
      · rw [andThen_ok, htally', htally, Tally.plus_assoc]
      · rw [andThen_ok, hcomplaints', hcomplaints, List.append_assoc]

theorem books_visitAll (o : RunOptions) (stops : List Stop) (r : Run) : Books o r (visitAll o stops r) :=
  books_processAll_visit o _ r

theorem books_run (o : RunOptions) (paths : List String) (r : Run) : Books o r (run o paths r) := by
  obtain ⟨begun, d, complaints, hd, hbegun, htally, hcomplaints⟩ :=
    books_visitAll o (r.tree.stops o.scope paths) (r.say .started)
  have hstarted : (r.say .started).complaints = r.complaints := (complaints_say r _).trans (List.append_nil _)
  rw [hstarted] at hcomplaints
  rw [run_eq_visitAll]
  rcases hall : visitAll o (r.tree.stops o.scope paths) (r.say .started) with ⟨e | ok, r'⟩
  · rw [hall] at hd hbegun htally hcomplaints
    exact ⟨begun, d, complaints, hd, hbegun, htally, hcomplaints⟩
  · rw [hall] at hd hbegun htally hcomplaints
    have hfinished : (r'.say (.finished o.dryRun r'.tally)).complaints = r'.complaints :=
      (complaints_say r' _).trans (List.append_nil _)
    exact ⟨begun, d, complaints, hd, hbegun, htally, hfinished.trans hcomplaints⟩

end Run

/-! ## All that can be asked of a runner -/

namespace Session

/-- What is asked of a runner is booked, however it ends. Nothing but files and options changes in between. -/
theorem exists_books_ask (s : Session) (q : Request) : (s.ask q).options.normalizer = s.options.normalizer ∧
    ∃ result r, s.current.Books s.options (result, r) ∧ (s.ask q).current.begun = r.begun ∧
      (s.ask q).current.tally = r.tally := by
  have hnothing := Run.books_nothing s.options s.current
  cases q with
  | run paths => exact ⟨rfl, _, _, Run.books_run s.options paths s.current, rfl, rfl⟩
  | processPath path =>
    have hbooks := Run.books_visitAll s.options (s.current.tree.stopsNamed s.options.scope path) s.current
    rw [← Run.processPath_eq] at hbooks
    exact ⟨rfl, _, _, hbooks, rfl, rfl⟩
  | processFile path => exact ⟨rfl, _, _, Run.books_file s.options _ (.ofString path) s.current, rfl, rfl⟩
  | processDirectory path =>
    have hbooks := Run.books_visitAll s.options (s.current.tree.stopsBelow s.options.scope path) s.current
    rw [← Run.processDirectoryNamed_eq] at hbooks
    exact ⟨rfl, _, _, hbooks, rfl, rfl⟩
  | setDryRun dryRun => exact ⟨rfl, _, _, hnothing, rfl, rfl⟩
  | setVerbose verbose => exact ⟨rfl, _, _, hnothing, rfl, rfl⟩
  | outside t => exact ⟨rfl, _, _, hnothing, rfl, rfl⟩

/-- What every request keeps holds after all of them. -/
theorem after_keeps {P : Session → Prop} (hask : ∀ s q, P s → P (s.ask q)) :
    ∀ (requests : List Request) (s : Session), P s → P (s.after requests)
  | [], _, h => h
  | q :: requests, s, h => after_keeps hask requests (s.ask q) (hask s q h)

/-- Every file is counted that the runner has started on, and those that are changed are counted and named. -/
structure IsBalanced (s : Session) : Prop where
  changed_eq : s.current.tally.changed = s.current.tally.changedFiles.length
  changed_le : s.current.tally.changed ≤ s.current.tally.processed
  processed_eq : s.current.tally.processed = s.current.begun.length

theorem isBalanced_ask (s : Session) (q : Request) (h : s.IsBalanced) : (s.ask q).IsBalanced := by
  obtain ⟨-, result, r, ⟨begun, d, complaints, hd, hbegun, htally, -⟩, hbegunAsk, htallyAsk⟩ := exists_books_ask s q
  obtain ⟨hchanged, hle, hprocessed⟩ := hd.isBalanced
  obtain ⟨hchanged', hle', hprocessed'⟩ := h
  rw [← htallyAsk] at htally
  rw [← hbegunAsk] at hbegun
  constructor
  · rw [htally, Tally.plus, List.length_append, hchanged, hchanged']
  · rw [htally]
    exact Nat.add_le_add hle' hle
  · rw [htally, hbegun, Tally.plus, List.length_append, hprocessed, hprocessed']

/-- **The tally of a runner.** Whatever is asked of a runner, files that cannot be read or written, steps that break off
and changes by others included: it counts as many changed files as it names, no more than it counts in all, and in all
those that it has started on. A run that comes to its end goes well exactly if it adds no failure, where all directories
can be walked; a directory that cannot be is complained of, and makes the run fail as well. -/
theorem tally_after (o : RunOptions) (t : FileTree) (requests : List Request) :
    let s := after (start o t) requests
    s.current.tally.changed = s.current.tally.changedFiles.length ∧
    s.current.tally.changed ≤ s.current.tally.processed ∧
    s.current.tally.processed = s.current.begun.length ∧
    ∀ paths, ∃ failed complaints,
      (Run.run s.options paths s.current).2.tally.failedFiles = s.current.tally.failedFiles ++ failed ∧
      (Run.run s.options paths s.current).2.complaints = s.current.complaints ++ complaints ∧
      ∀ ok, (Run.run s.options paths s.current).1 = .ok ok →
        (ok = true ↔ failed = [] ∧ ∀ shown e path, .directoryFailed shown e path ∉ complaints) := by
  intro s
  have hstart : (start o t).IsBalanced := ⟨rfl, Nat.le_refl 0, rfl⟩
  obtain ⟨hchanged, hle, hprocessed⟩ := after_keeps isBalanced_ask requests (start o t) hstart
  refine ⟨hchanged, hle, hprocessed, fun paths => ?_⟩
  obtain ⟨begun, d, complaints, hd, -, htally, hcomplaints⟩ := Run.books_run s.options paths s.current
  exact ⟨d.failedFiles, complaints, congrArg Tally.failedFiles htally, hcomplaints, fun ok hok => hd.goesWell_iff hok⟩

/-- **Unsettled files.** Whatever is asked of a runner whose normalizer follows a strategy: with one pass its unsettled
files are the changed ones, entry by entry, and with more passes there are none. -/
theorem unsettledFiles_after (hn : o.normalizer.segmenter = .strategy strategy) (t : FileTree)
    (requests : List Request) :
    let tally := (after (start o t) requests).current.tally
    (o.normalizer.passLimit = 1 → tally.unsettledFiles = tally.changedFiles) ∧
    (2 ≤ o.normalizer.passLimit → tally.unsettledFiles = []) := by
  intro tally
  have hask : ∀ (s : Session) (q : Request), (s.options.normalizer = o.normalizer ∧ s.current.tally.unsettledFiles =
      if o.normalizer.passLimit = 1 then s.current.tally.changedFiles else []) →
      (s.ask q).options.normalizer = o.normalizer ∧ (s.ask q).current.tally.unsettledFiles =
        if o.normalizer.passLimit = 1 then (s.ask q).current.tally.changedFiles else [] := by
    rintro s q ⟨hnormalizer, hunsettled⟩
    obtain ⟨hsame, result, r, ⟨begun, d, complaints, hd, -, htally, -⟩, -, htallyAsk⟩ := exists_books_ask s q
    rw [hnormalizer] at hd
    rw [← htallyAsk] at htally
    refine ⟨hsame.trans hnormalizer, ?_⟩
    simp only [htally, Tally.plus, hunsettled, hd.unsettledFiles_eq hn]
    split <;> rfl
  have hafter : tally.unsettledFiles = if o.normalizer.passLimit = 1 then tally.changedFiles else [] :=
    (after_keeps hask requests (start o t) ⟨rfl, (ite_self []).symm⟩).2
  constructor
  · intro hone
    rw [hafter, if_pos hone]
  · intro htwo
    rw [hafter, if_neg (by omega)]

/-- One pass over each file, of which the first cannot be written. -/
def onePass : RunOptions where
  normalizer := { passLimit := 1 }
  storage := ⟨fun k => if k = 0 then some (.unwritable .isDirectory []) else none⟩

theorem unsettledFiles_after_twoFiles :
    onePass.normalizer.segmenter = .strategy .php ∧
    (after (start onePass twoFiles)
      [.run ["a", "b"], .outside twoFiles, .setDryRun true, .processFile "./a"]).current.tally.unsettledFiles =
        ["a", "a"] := by
  have hchanged : (after (start onePass twoFiles)
      [.run ["a", "b"], .outside twoFiles, .setDryRun true, .processFile "./a"]).current.tally.changedFiles =
        ["a", "a"] := by cbv
  have hphp : onePass.normalizer.segmenter = .strategy .php := rfl
  obtain ⟨hone, -⟩ := unsettledFiles_after hphp twoFiles
    [.run ["a", "b"], .outside twoFiles, .setDryRun true, .processFile "./a"]
  exact ⟨hphp, (hone rfl).trans hchanged⟩

end Session

end BracketSpacing
