import BracketSpacing.Proofs.Commands
import BracketSpacing.Proofs.Conservation
import BracketSpacing.Proofs.Effect

/-!
# What is printed for a text and what is left of a file

* Where `format` reads its text with every line break written as a line feed, no carriage return is left
  (`not_mem_unifyLineBreaks`); `fix` reads a file as it is.
* `format` prints the normalized text (`Command.perform_format`), and `fix` leaves it in a file that it visits
  (`RunArguments.bytesAt?_run`).
* `Command.format_agrees_iff`: so they agree on all texts where line breaks are kept, and else on texts with unified
  line breaks, and on no other.
* `Command.format_drops_carriageReturn`: there, a carriage return in a string is kept by `fix` and not by `format`.
-/

namespace BracketSpacing

open Text

variable {h : Host} {a : RunArguments} {b : SettingsArguments} {t t' : FileTree} {x y : Settings × Normalizer}
  {p : Path}
  {names : List String} {text : List Char} {strategy : Strategy}

/-! ## Unified line breaks -/

theorem not_mem_unifyLineBreaks (s : List Char) : '\r' ∉ unifyLineBreaks s := by
  fun_induction unifyLineBreaks s with
  | case1 => exact List.not_mem_nil
  | case2 s ih => simpa using ih
  | case3 c s _ ih =>
    rw [List.mem_cons, not_or]
    refine ⟨?_, ih⟩
    split
    · decide
    · rename_i hc
      exact fun he => hc he.symm

theorem unifyLineBreaks_of_not_mem {s : List Char} (h : '\r' ∉ s) : unifyLineBreaks s = s := by
  fun_induction unifyLineBreaks s with
  | case1 => rfl
  | case2 s _ => exact absurd List.mem_cons_self h
  | case3 c s _ ih =>
    rw [List.mem_cons, not_or] at h
    rw [ih h.2, if_neg (Ne.symm h.1)]

/-- Unifying line breaks makes another normalized text exactly of the texts that it changes. -/
theorem text_normalizeWith_unifyLineBreaks_iff {limit : Nat} (h : 1 ≤ limit) (strategy : Strategy) (guard : Bool)
    (text : List Char) : (normalizeWith strategy guard limit (unifyLineBreaks text)).text =
      (normalizeWith strategy guard limit text).text ↔ '\r' ∉ text := by
  constructor
  · intro hsame hmem
    -- Normalizing keeps the number of carriage returns, and only one of the texts has any.
    have hcount : ∀ s, (normalizeWith strategy guard limit s).text.count '\r' = s.count '\r' := fun s =>
      count_eq_of_withoutSlack (withoutSlack_text_normalizeWith h strategy guard s) rfl
    have hnone : text.count '\r' = 0 := by
      rw [← hcount text, ← hsame, hcount, List.count_eq_zero]
      exact not_mem_unifyLineBreaks text
    exact List.count_eq_zero.mp hnone hmem
  · intro hnone
    rw [unifyLineBreaks_of_not_mem hnone]

/-- Reading a text makes another normalized text exactly where its line breaks are unified and it has a carriage
return. -/
theorem text_normalizeWith_read_iff {limit : Nat} (h : 1 ≤ limit) (mode : LineMode) (strategy : Strategy)
    (guard : Bool) (text : List Char) : (normalizeWith strategy guard limit (mode.read text)).text =
      (normalizeWith strategy guard limit text).text ↔ mode = .kept ∨ '\r' ∉ text := by
  cases mode with
  | kept => simp [LineMode.read]
  | unified => simpa [LineMode.read] using text_normalizeWith_unifyLineBreaks_iff h strategy guard text

/-! ## The two commands -/

/-- A run that writes leaves the normalized text in a file that it visits. -/
theorem RunArguments.bytesAt?_run (hx : x.2.segmenter = .strategy strategy) (hsound : h.storage.IsSound)
    (hp : p ∈ t.visits (h.scope x.1) a.paths) (hfound : t.found? p = some (names, Utf8.encode text)) :
    (a.run h x false t).2.tree.bytesAt? names =
      some (Utf8.encode (normalizeWith strategy x.2.guard x.2.passLimit text).text) := by
  obtain ⟨-, htree, -⟩ := Run.run_write_eq hx hsound.writes (h.scope x.1) a.verbose a.paths t
  rw [hsound.mark_stops] at htree
  have hnormalized := FileTree.normalized_rewritten hx (t.visits (h.scope x.1) a.paths) t
  obtain ⟨outcome, houtcome, hbytes⟩ := hnormalized.texts p hp names text hfound
  rw [Normalizer.normalize?, hx] at houtcome
  cases houtcome
  exact (congrArg (FileTree.bytesAt? · names) htree).trans hbytes

/-- `fix` leaves the tree that its run leaves, if it writes no report. -/
theorem Command.exists_perform_fix_of_resolves (ha : a.IsSilent) (hprepare : a.prepare h.toLoader t = .ok x)
    (hresolves : t.Resolves (h.scope x.1) a.paths) (input : List Char) :
    ∃ P, (fix a).perform h input t = .ok P ∧ P.tree = (a.run h x a.dryRun t).2.tree := by
  obtain ⟨strategy, hx⟩ := SettingsArguments.exists_strategy_of_prepare hprepare
  have hends : ∃ ok, (a.run h x a.dryRun t).1 = .ok ok := (Run.exists_ok_run_iff hx).mpr hresolves
  obtain ⟨ok, hok⟩ := hends
  obtain ⟨P, hperform, -, htree⟩ := exists_perform_fix ha hprepare hok input
  exact ⟨P, hperform, htree⟩

/-- A tree with one file. -/
def oneFile (text : String) : FileTree :=
  (FileTree.empty []).addFile ["a.php"] (Utf8.encode text.toList)

section

variable (l : Loader) (text : String)

theorem prepare_oneFile {a : SettingsArguments} (hconfig : a.config = .standard) (hstrategy : a.strategy = none) :
    a.prepare l (oneFile text) = .ok standardSetup :=
  SettingsArguments.prepare_standard l hconfig hstrategy rfl

theorem nodeAt?_oneFile :
    (oneFile text).nodeAt? (Path.ofString "a.php").route = .ok (some (.file (Utf8.encode text.toList))) :=
  rfl

theorem found?_oneFile : (oneFile text).found? (.ofString "a.php") = some (["a.php"], Utf8.encode text.toList) :=
  rfl

theorem resolves_oneFile (s : Scope) : (oneFile text).Resolves s ["a.php"] := by
  intro target htarget
  rw [List.mem_singleton.mp htarget]
  exact ⟨_, _, rfl, nodeAt?_oneFile text, FileTree.isTooDeep_of_nodeAt? (nodeAt?_oneFile text) (by simp)⟩

theorem mem_visits_oneFile (s : Scope) : Path.ofString "a.php" ∈ (oneFile text).visits s ["a.php"] := by
  rw [FileTree.mem_visits_iff (resolves_oneFile text s)]
  exact Or.inl ⟨"a.php", List.mem_singleton_self _, rfl, _, nodeAt?_oneFile text⟩

end

namespace Command

/-- **`format` agrees with `fix` up to line breaks.** Let the run of `fix` visit a file that holds a text, and nothing
go wrong with files. `fix` leaves the tree of its run, if that does not break off and no report is written. For every
input that is read as the text, `format` with the same normalizer prints what the run has left in the file. For the text
itself it does so exactly if line breaks are kept or the text has no carriage return. -/
theorem format_agrees_iff (hwrites : a.dryRun = false) (hsound : h.storage.IsSound)
    (hprepare : a.prepare h.toLoader t = .ok x) (hprepare' : b.prepare h.toLoader t' = .ok y) (hsame : y.2 = x.2)
    (hp : p ∈ t.visits (h.scope x.1) a.paths) (hfound : t.found? p = some (names, Utf8.encode text))
    (input : List Char) :
    (a.IsSilent → t.Resolves (h.scope x.1) a.paths → ∃ P, (fix a).perform h input t = .ok P ∧
      P.tree = (a.run h x false t).2.tree) ∧
    (∀ s, h.lineMode.read s = text → ∃ F, (format b).perform h s t' = .ok F ∧ F.exitCode = 0 ∧ F.tree = t' ∧
      (a.run h x false t).2.tree.bytesAt? names = some (Utf8.encode F.out.toList)) ∧
    ∃ F, (format b).perform h text t' = .ok F ∧ F.exitCode = 0 ∧ F.tree = t' ∧
      ((a.run h x false t).2.tree.bytesAt? names = some (Utf8.encode F.out.toList) ↔
        h.lineMode = .kept ∨ '\r' ∉ text) := by
  obtain ⟨strategy, hx⟩ := SettingsArguments.exists_strategy_of_prepare hprepare
  have hy : y.2.segmenter = .strategy strategy := by rw [hsame, hx]
  have hbytes := RunArguments.bytesAt?_run hx hsound hp hfound
  rw [hbytes]
  refine ⟨fun ha hresolves => ?_, fun s hs => ?_, ?_⟩
  · simpa only [hwrites] using exists_perform_fix_of_resolves ha hprepare hresolves input
  · refine ⟨_, perform_format hprepare' hy, rfl, rfl, ?_⟩
    rw [String.toList_ofList, hs, hsame]
  · refine ⟨_, perform_format hprepare' hy, rfl, rfl, ?_⟩
    rw [String.toList_ofList, hsame, Option.some_inj, Utf8.encode_inj, eq_comm]
    exact text_normalizeWith_read_iff x.2.passLimit_pos h.lineMode strategy x.2.guard text

/-- A host on which line breaks are unified. -/
def unifyingHost : Host :=
  { posixHost with lineMode := .unified }

theorem format_agrees_iff_lineFeed :
    ∃ F, (format {}).perform unifyingHost "$t = [1,2];\r\n".toList (oneFile "") = .ok F ∧ F.exitCode = 0 ∧
      F.tree = oneFile "" ∧ (({ paths := ["a.php"] } : RunArguments).run unifyingHost standardSetup false
        (oneFile "$t = [1,2];\n")).2.tree.bytesAt? ["a.php"] = some (Utf8.encode F.out.toList) := by
  have hunified : unifyLineBreaks "$t = [1,2];\r\n".toList = "$t = [1,2];\n".toList := by decide
  obtain ⟨-, hagrees, -⟩ := format_agrees_iff (h := unifyingHost) (a := { paths := ["a.php"] }) (b := {})
    (x := standardSetup) rfl Storage.isSound_default (prepare_oneFile _ _ rfl rfl) (prepare_oneFile _ "" rfl rfl) rfl
    (mem_visits_oneFile _ _) (found?_oneFile _) []
  exact hagrees "$t = [1,2];\r\n".toList hunified

/-- A carriage return in a string is kept by `fix` and not by `format`. -/
theorem format_drops_carriageReturn :
    ∃ P F, (fix { paths := ["a.php"] }).perform unifyingHost [] (oneFile "$s = 'a\r\nb'; $t = [1,2];") = .ok P ∧
      (format {}).perform unifyingHost "$s = 'a\r\nb'; $t = [1,2];".toList (oneFile "") = .ok F ∧
      P.tree.bytesAt? ["a.php"] = some (Utf8.encode "$s = 'a\r\nb'; $t = [ 1,2 ];".toList) ∧
      F.out = "$s = 'a\nb'; $t = [ 1,2 ];" ∧ P.tree.bytesAt? ["a.php"] ≠ some (Utf8.encode F.out.toList) := by
  have hkept : (normalizeWith .php true 20 "$s = 'a\r\nb'; $t = [1,2];".toList).text =
      "$s = 'a\r\nb'; $t = [ 1,2 ];".toList := by cbv
  have hdropped : (normalizeWith .php true 20 (unifyLineBreaks "$s = 'a\r\nb'; $t = [1,2];".toList)).text =
      "$s = 'a\nb'; $t = [ 1,2 ];".toList := by cbv
  obtain ⟨P, hperform, htree⟩ := exists_perform_fix_of_resolves (h := unifyingHost) (a := { paths := ["a.php"] })
    (Or.inl rfl) (prepare_oneFile _ _ rfl rfl) (resolves_oneFile _ _) []
  have hbytes := RunArguments.bytesAt?_run (h := unifyingHost) (a := { paths := ["a.php"] }) (x := standardSetup) rfl
    Storage.isSound_default (mem_visits_oneFile _ _) (found?_oneFile "$s = 'a\r\nb'; $t = [1,2];")
  have hfile : P.tree.bytesAt? ["a.php"] = some (Utf8.encode "$s = 'a\r\nb'; $t = [ 1,2 ];".toList) := by
    rw [htree, hbytes]
    exact congrArg (some ∘ Utf8.encode) hkept
  have hprinted := congrArg String.ofList hdropped
  refine ⟨P, _, hperform, perform_format (prepare_oneFile _ _ rfl rfl) rfl, hfile, hprinted, fun hsame => ?_⟩
  have hbytesSame := hfile.symm.trans (hsame.trans (congrArg (fun out => some (Utf8.encode out.toList)) hprinted))
  exact absurd (Utf8.encode_inj.mp (Option.some.inj hbytesSame)) (by decide)

end Command

end BracketSpacing
