import BracketSpacing.Proofs.Account

/-!
# What a run makes of the files

* `FileTree.Normalized`: a tree after files of it have been visited. Those that are texts are normalized, and nothing
  else is different.
* `Run.run_effect`: a run that writes comes to its end if all its targets resolve. It makes such a tree, names each
  file once that it has changed, and the order and the repetition of its paths do not matter.
* A target with a name that is too long breaks a run off (`run_breaks_off`).
-/

namespace BracketSpacing

open Text

variable {t : FileTree} {n : Normalizer} {strategy : Strategy} {o : RunOptions}

/-- What a run that writes makes of a tree, by the files that it visits. -/
structure FileTree.Normalized (n : Normalizer) (visits : List Path) (t after : FileTree) : Prop where
  /-- A file that is visited and holds a text holds the normalized text. -/
  texts : ∀ p ∈ visits, ∀ names text, t.found? p = some (names, Utf8.encode text) →
    ∃ outcome, n.normalize? text = some outcome ∧ after.bytesAt? names = some (Utf8.encode outcome.text)
  /-- A file that is not visited or holds no text stays as it is. -/
  others : ∀ names bytes, t.bytesAt? names = some bytes →
    (∀ p ∈ visits, t.located? p ≠ some names) ∨ (∃ e, Utf8.decode bytes = .error e) →
      after.bytesAt? names = some bytes
  /-- No file or directory appears or disappears. -/
  kinds : ∀ names, (after.get? names).map Node.isDirectory = (t.get? names).map Node.isDirectory
  here : after.here = t.here

namespace FileTree

theorem normalized_rewritten (hn : n.segmenter = .strategy strategy) (visits : List Path) (t : FileTree) :
    t.Normalized n visits (t.rewritten n visits) where
  texts := by
    intro p hp names text hfound
    have hbytes : t.bytesAt? names = some (Utf8.encode text) := bytesAt?_eq_some_iff.mpr (get?_of_found? hfound)
    have hseen : t.Seen visits (some names) := ⟨p, hp, located?_of_found? hfound⟩
    refine ⟨_, by rw [Normalizer.normalize?, hn], ?_⟩
    rw [bytesAt?_rewritten, hbytes, Option.map_some, if_pos hseen,
      Normalizer.rewrite_of_some (Normalizer.outcome?_encode hn text)]
  others := by
    intro names bytes hbytes h
    rw [bytesAt?_rewritten, hbytes, Option.map_some]
    split
    · rename_i hseen
      obtain ⟨p, hp, hlocated⟩ := hseen
      rcases h with hnot | ⟨e, he⟩
      · exact absurd hlocated (hnot p hp)
      · have hnone : n.outcome? bytes = none := by
          rw [Normalizer.outcome?, he]
          rfl
        rw [Normalizer.rewrite_of_none hnone]
    · rfl
  kinds := isDirectory_rewritten n visits t
  here := rfl

/-- The bytes of a file differ after visits to it exactly if it is another one when it is rewritten. -/
theorem bytesAt?_rewritten_bne (n : Normalizer) {visits : List Path} {names : List String}
    (h : names ∈ visits.filterMap t.located?) :
    ((t.rewritten n visits).bytesAt? names != t.bytesAt? names) = t.alters n names := by
  have hseen : t.Seen visits (some names) := List.mem_filterMap.mp h
  rw [bytesAt?_rewritten, alters]
  cases t.bytesAt? names with
  | none => rfl
  | some bytes =>
    rw [Option.map_some, if_pos hseen]
    rfl

end FileTree

/-- A tree with two files, one of which holds no text. -/
def twoFiles : FileTree :=
  ((FileTree.empty []).addFile ["a"] (Utf8.encode "<?php $a = [1,2];".toList)).addFile ["b"] [0xFF]

namespace Run

/-- **What a run does to files.** A run that writes comes to its end exactly if it can be told of each of its targets
whether it is there, and none leads too deep. Then it visits the files that it reaches. If nothing goes wrong with
files, visited files that are texts are normalized, and everything else stays as it is. The files whose bytes have
changed are named once each, in the order of the first visits. The order and the repetition of the paths do not matter
for the files. -/
theorem run_effect (hn : o.normalizer.segmenter = .strategy strategy) (hwrite : o.dryRun = false)
    (hsound : o.storage.IsSound) (paths : List String) (r : Run) :
    let visits := r.tree.visits o.scope paths
    let after := run o paths r
    ((∃ ok, after.1 = .ok ok) ↔ r.tree.Resolves o.scope paths) ∧
    (r.tree.Resolves o.scope paths → ∀ p, p ∈ visits ↔ r.tree.Reaches o.scope paths p) ∧
    (∀ p ∈ visits, ∃ names, r.tree.located? p = some names) ∧
    r.tree.Normalized o.normalizer visits after.2.tree ∧
    (∃ added, after.2.tally.changedFiles = r.tally.changedFiles ++ added ∧
      added.map r.tree.named? = ((visits.filterMap r.tree.located?).eraseDups.filter fun names =>
        after.2.tree.bytesAt? names != r.tree.bytesAt? names).map some) ∧
    (r.tree.Resolves o.scope paths → ∀ others : List String, (∀ path, path ∈ others ↔ path ∈ paths) →
      (run o others r).2.tree = after.2.tree) := by
  intro visits after
  have hstops : ∀ paths, r.itinerary o paths = r.tree.stops o.scope paths := fun paths => hsound.mark_stops _ paths
  have heq := fun paths => run_eq hn (fun _ => hsound.writes) paths r
  simp only [hstops] at heq
  have htree : ∀ paths, (run o paths r).2.tree = r.tree.rewritten o.normalizer (r.tree.visits o.scope paths) := by
    intro paths
    rw [(heq paths).2.1, RunOptions.treeAfter, hwrite]
    rfl
  have hafter : after.2.tree = r.tree.rewritten o.normalizer visits := htree paths
  refine ⟨exists_ok_run_iff hn, fun h p => FileTree.mem_visits_iff h, ?_, ?_, ?_, ?_⟩
  · intro p hp
    obtain ⟨names, content, hfile⟩ := (visitable_of_mem_visits hp).leads
    exact ⟨names, FileTree.located?_of_found? (by rw [FileTree.found?, hfile]; rfl)⟩
  · rw [hafter]
    exact FileTree.normalized_rewritten hn visits r.tree
  · have htally : after.2.tally.changedFiles = r.tally.changedFiles ++
        (r.tree.changes o.normalizer (r.tree.firstVisits [] visits)).map Path.text := by
      have h : after.2.tally = r.tally.plus (r.tree.account o.normalizer (r.tree.stops o.scope paths)
          (o.counted r.tree [] visits)) := (heq paths).2.2
      rw [h, RunOptions.counted, hwrite]
      rfl
    have hproper : ∀ p ∈ r.tree.firstVisits [] visits, p.IsProper := fun p hp =>
      (visitable_of_mem_visits (FileTree.mem_of_mem_firstVisits hp)).proper
    refine ⟨_, htally, ?_⟩
    rw [FileTree.map_named?_changes hn hproper, FileTree.filterMap_firstVisits_nil, hafter]
    refine congrArg (List.map some) (List.filter_congr fun names hnames => ?_)
    exact (FileTree.bytesAt?_rewritten_bne o.normalizer (List.mem_eraseDups.mp hnames)).symm
  · intro h others hothers
    rw [hafter, htree]
    refine FileTree.rewritten_congr fun names => ?_
    have hmem : ∀ p, p ∈ r.tree.visits o.scope others ↔ p ∈ visits := fun p => by
      rw [FileTree.mem_visits_iff ((FileTree.resolves_congr hothers).mpr h), FileTree.mem_visits_iff h,
        FileTree.reaches_congr hothers]
    simp only [FileTree.Seen, hmem]

theorem run_effect_twoFiles :
    ({} : RunOptions).normalizer.segmenter = .strategy .php ∧ ({} : RunOptions).dryRun = false ∧
    ({} : RunOptions).storage.IsSound ∧
    (run {} ["./a", "b", "a"] { tree := twoFiles }).2.tree.bytesAt? ["a"] =
      some (Utf8.encode "<?php $a = [ 1,2 ];".toList) ∧
    (run {} ["./a", "b", "a"] { tree := twoFiles }).2.tree.bytesAt? ["b"] = some [0xFF] ∧
    ∃ added, (run {} ["./a", "b", "a"] { tree := twoFiles }).2.tally.changedFiles = [] ++ added ∧
      added.map twoFiles.named? = [some ["a"]] := by
  have hvisits : twoFiles.visits {} ["./a", "b", "a"] =
      [⟨.relative, ["a"]⟩, ⟨.relative, ["b"]⟩, ⟨.relative, ["a"]⟩] := by cbv
  have hfound : twoFiles.found? ⟨.relative, ["a"]⟩ =
      some (["a"], Utf8.encode "<?php $a = [1,2];".toList) := by cbv
  have hnormalized : ({} : Normalizer).normalize? "<?php $a = [1,2];".toList =
      some ⟨"<?php $a = [ 1,2 ];".toList, true, 2, true⟩ := by cbv
  have hbytes : twoFiles.bytesAt? ["b"] = some [0xFF] := by cbv
  have hnames : ((twoFiles.visits {} ["./a", "b", "a"]).filterMap twoFiles.located?).eraseDups =
      [["a"], ["b"]] := by cbv
  have hdiffers : Utf8.encode "<?php $a = [ 1,2 ];".toList ≠ Utf8.encode "<?php $a = [1,2];".toList := by decide
  have hdecode : Utf8.decode [0xFF] = .error ⟨0, [0xFF], .invalidStart⟩ := by cbv
  obtain ⟨-, -, -, hfiles, ⟨added, hadded, hnamed⟩, -⟩ :=
    run_effect (show ({} : RunOptions).normalizer.segmenter = .strategy .php from rfl) rfl Storage.isSound_default
      ["./a", "b", "a"] { tree := twoFiles }
  have hsecond := hfiles.others ["b"] [0xFF] hbytes (Or.inr ⟨_, hdecode⟩)
  obtain ⟨outcome, houtcome, hfirst⟩ := hfiles.texts _ (hvisits ▸ List.mem_cons_self) _ _ hfound
  cases hnormalized.symm.trans houtcome
  refine ⟨rfl, rfl, Storage.isSound_default, hfirst, hsecond, added, hadded, hnamed.trans ?_⟩
  have hold : twoFiles.bytesAt? ["a"] = some (Utf8.encode "<?php $a = [1,2];".toList) :=
    FileTree.bytesAt?_eq_some_iff.mpr (FileTree.get?_of_found? hfound)
  have ha : ((run {} ["./a", "b", "a"] { tree := twoFiles }).2.tree.bytesAt? ["a"] !=
      twoFiles.bytesAt? ["a"]) = true := by
    rw [hold, hfirst, bne_iff_ne]
    exact fun h => hdiffers (Option.some.inj h)
  have hb : ((run {} ["./a", "b", "a"] { tree := twoFiles }).2.tree.bytesAt? ["b"] !=
      twoFiles.bytesAt? ["b"]) = false := by
    rw [hbytes, hsecond, bne_self_eq_false]
  rw [hnames, List.filter_cons, ha, if_pos rfl, List.filter_cons, hb, if_neg Bool.false_ne_true]
  rfl

end Run

/-! ## Names that are too long -/

/-- Of a name that is too long for an entry of the current directory cannot be told whether it is there. -/
theorem FileTree.nodeAt?_of_long {name : String} {entries : List (String × Node)}
    (hhere : t.get? t.here = some (.directory entries)) (hname : Path.IsComponent name) (hup : name ≠ "..")
    (hnul : '\x00' ∉ name.toList) (hlong : nameLimit < name.utf8ByteSize)
    (hshort : name.utf8ByteSize < Route.sizeLimit) :
    t.nodeAt? (Path.ofString name).route = .error .nameTooLong := by
  have htext : (⟨.relative, [name]⟩ : Path).text = name := String.empty_append
  have hproper : (⟨.relative, [name]⟩ : Path).IsProper := fun part hpart => by
    rw [List.mem_singleton.mp hpart]
    exact hname
  have hpath : Path.ofString name = ⟨.relative, [name]⟩ := by
    rw [← Path.ofString_text hproper, htext]
  have hstep : Step.ofComponent name = .into name := by
    rw [Step.ofComponent, if_neg (by simp [hname.1, hname.2.1]), if_neg hup]
  have hroute : (Path.ofString name).route = ⟨false, [.into name], name.utf8ByteSize⟩ := by
    rw [hpath, Path.route, htext, List.map_singleton, hstep]
    rfl
  have hmissing : findEntry name entries = none := by
    by_contra hfound
    obtain ⟨node, hfound⟩ := Option.ne_none_iff_exists'.mp hfound
    have hvalid : validEntries entries = true := Node.valid_of_get? t.valid_root hhere
    have hsize := (isEntryName_iff.mp (Node.valid_of_findEntry hvalid hfound).1).2.2.2.1
    omega
  have hlocate : t.locate ⟨false, [.into name], name.utf8ByteSize⟩ = .error .nameTooLong := by
    rw [locate, if_neg (Nat.not_le.mpr hshort)]
    simp [follow, hhere, hmissing, hlong]
  have hnone : (⟨false, [.into name], name.utf8ByteSize⟩ : Route).hasNul = false := by
    simp [Route.hasNul, hnul]
  rw [hroute, nodeAt?, hnone, hlocate]
  rfl

/-- A run does not come to its end if there is such a name among its targets. -/
theorem Run.not_exists_ok_of_long (hn : o.normalizer.segmenter = .strategy strategy) {r : Run} {paths : List String}
    {name : String} (hmem : pointsOf name ∈ o.scope.targets paths)
    (hlong : r.tree.nodeAt? (Path.ofString name).route = .error .nameTooLong) : ¬∃ ok, (run o paths r).1 = .ok ok := by
  rw [exists_ok_run_iff hn]
  intro hresolves
  obtain ⟨path, found, hpath, hfound, -⟩ := hresolves _ hmem
  rw [pointsOf_inj.mp hpath, hlong] at hfound
  cases hfound

theorem utf8ByteSize_replicate (c : Char) (k : Nat) :
    (String.ofList (List.replicate k c)).utf8ByteSize = k * c.utf8Size := by
  induction k with
  | zero => rw [Nat.zero_mul]; rfl
  | succ k ih =>
    rw [List.replicate_succ, String.ofList_cons, String.utf8ByteSize_append, ih, String.utf8ByteSize_singleton,
      Nat.succ_mul, Nat.add_comm]

theorem FileTree.nodeAt?_replicate {entries : List (String × Node)}
    (hhere : t.get? t.here = some (.directory entries)) :
    t.nodeAt? (Path.ofString (String.ofList (List.replicate 256 'n'))).route = .error .nameTooLong := by
  have hchars : (String.ofList (List.replicate 256 'n')).toList = List.replicate 256 'n' := String.toList_ofList
  have hsize : (String.ofList (List.replicate 256 'n')).utf8ByteSize = 256 := utf8ByteSize_replicate 'n' 256
  have hne : ∀ s : String, s.utf8ByteSize ≠ 256 → String.ofList (List.replicate 256 'n') ≠ s := by
    rintro s hs rfl
    exact hs hsize
  have hmem : ∀ c ∈ (String.ofList (List.replicate 256 'n')).toList, c = 'n' := by
    rw [hchars]
    exact fun c => List.eq_of_mem_replicate
  have hname : Path.IsComponent (String.ofList (List.replicate 256 'n')) :=
    ⟨hne "" (by decide), hne "." (by decide), fun h => absurd (hmem _ h) (by decide)⟩
  refine nodeAt?_of_long hhere hname (hne ".." (by decide)) (fun h => absurd (hmem _ h) (by decide)) ?_ ?_
  · rw [hsize]
    decide
  · rw [hsize]
    decide

theorem Run.run_breaks_off : ¬∃ ok, (run {} [String.ofList (List.replicate 256 'n'), "a.php"]
    { tree := (FileTree.empty []).addFile ["a.php"] (Utf8.encode "<?php $a = [1,2];".toList) }).1 = .ok ok :=
  not_exists_ok_of_long rfl List.mem_cons_self (FileTree.nodeAt?_replicate rfl)

end BracketSpacing
