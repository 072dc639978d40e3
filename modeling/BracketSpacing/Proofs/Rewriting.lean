import BracketSpacing.Proofs.Encoding
import BracketSpacing.Proofs.Passes
import BracketSpacing.Proofs.Visits

/-!
# Rewritten files

* `Normalizer.outcome?` and `Normalizer.rewrite`: what the bytes of a file are normalized to. Rewriting twice is
  rewriting once (`rewrite_rewrite`), and a rewritten file is found unchanged and converged (`outcome?_rewrite`).
* `FileTree.rewritten n seen`: the tree after visits to the paths `seen`, each of which rewrites the file that it leads
  to. A path finds there what it finds in the tree itself, unless a path to the same file has been seen
  (`outcomeAt?_rewritten_of_not_seen`, `outcomeAt?_rewritten_of_seen`).
-/

namespace BracketSpacing

open Text

/-! ## Bytes -/

/-- A normalized text is normalized to itself. -/
theorem normalizeWith_of_normalized {limit : Nat} (h : 1 ≤ limit) (strategy : Strategy) (guard : Bool)
    (text : List Char) : ∃ k, normalizeWith strategy guard limit (normalizeWith strategy guard limit text).text =
      ⟨(normalizeWith strategy guard limit text).text, false, k, true⟩ := by
  cases strategy with
  | php =>
    obtain ⟨k, -, hs⟩ := settleText_swept h guard text
    rw [text_normalizeWith_php h]
    exact ⟨k, normalizeWith_of_settled hs⟩
  | raw =>
    rw [text_normalizeWith_raw h]
    refine ⟨1, normalizeWith_of_settled ?_⟩
    rw [settleText, if_pos (all_isCode_segments_raw _), settleCode_of_fixed h (Bracket.padAll_padAll guard text)]

namespace Normalizer

variable {n : Normalizer} {strategy : Strategy} {bytes : List UInt8} {outcome : Outcome}

/-- What normalizing the bytes of a file comes to, if they are those of a text. -/
def outcome? (n : Normalizer) (bytes : List UInt8) : Option Outcome :=
  (Utf8.decode bytes).toOption.bind n.normalize?

/-- The bytes of a file after a run that has visited it. -/
def rewrite (n : Normalizer) (bytes : List UInt8) : List UInt8 :=
  match n.outcome? bytes with
  | some outcome => Utf8.encode outcome.text
  | none => bytes

theorem rewrite_of_some (h : n.outcome? bytes = some outcome) : n.rewrite bytes = Utf8.encode outcome.text := by
  rw [rewrite, h]

theorem rewrite_of_none (h : n.outcome? bytes = none) : n.rewrite bytes = bytes := by
  rw [rewrite, h]

theorem outcome?_encode (hn : n.segmenter = .strategy strategy) (text : List Char) :
    n.outcome? (Utf8.encode text) = some (normalizeWith strategy n.guard n.passLimit text) := by
  rw [outcome?, Text.Utf8.decode_eq_ok_iff.mpr rfl]
  simp [Except.toOption, normalize?, hn]

/-- Only texts are normalized. -/
theorem exists_text (hn : n.segmenter = .strategy strategy) (h : n.outcome? bytes = some outcome) :
    ∃ text, bytes = Utf8.encode text ∧ outcome = normalizeWith strategy n.guard n.passLimit text := by
  rw [outcome?] at h
  cases hd : Utf8.decode bytes with
  | error e =>
    rw [hd] at h
    cases h
  | ok text =>
    obtain rfl := Text.Utf8.decode_eq_ok_iff.mp hd
    refine ⟨text, rfl, ?_⟩
    simpa [hd, Except.toOption, normalize?, hn, eq_comm] using h

/-- The outcome for rewritten bytes: they stay as they are, and the last pass shows it. -/
theorem outcome?_rewrite (hn : n.segmenter = .strategy strategy) (bytes : List UInt8) :
    ∃ k, n.outcome? (n.rewrite bytes) = (n.outcome? bytes).map fun outcome => ⟨outcome.text, false, k, true⟩ := by
  cases h : n.outcome? bytes with
  | none => exact ⟨0, by rw [rewrite_of_none h, h]; rfl⟩
  | some outcome =>
    obtain ⟨text, rfl, rfl⟩ := exists_text hn h
    obtain ⟨k, hk⟩ := normalizeWith_of_normalized n.passLimit_pos strategy n.guard text
    exact ⟨k, by rw [rewrite_of_some h, outcome?_encode hn, hk]; rfl⟩

theorem rewrite_rewrite (hn : n.segmenter = .strategy strategy) (bytes : List UInt8) :
    n.rewrite (n.rewrite bytes) = n.rewrite bytes := by
  obtain ⟨k, hk⟩ := outcome?_rewrite hn bytes
  cases h : n.outcome? bytes with
  | none => rw [rewrite_of_none h, rewrite_of_none h]
  | some outcome =>
    rw [h] at hk
    rw [rewrite_of_some hk, rewrite_of_some h]

/-- An outcome tells whether the bytes change. -/
theorem changed_iff (hn : n.segmenter = .strategy strategy) (h : n.outcome? bytes = some outcome) :
    outcome.changed = true ↔ n.rewrite bytes ≠ bytes := by
  have hrewrite := rewrite_of_some h
  obtain ⟨text, rfl, rfl⟩ := exists_text hn h
  rw [hrewrite, ne_eq, Utf8.encode_inj]
  simp [normalizeWith]

end Normalizer

/-! ## Trees -/

namespace FileTree

variable {t : FileTree} {n : Normalizer} {strategy : Strategy} {seen : List Path} {p q : Path}
  {names : List String} {bytes : List UInt8}

/-- The names and the bytes of the file at a path, if the path leads to one. -/
def found? (t : FileTree) (p : Path) : Option (List String × List UInt8) :=
  (t.fileAt p.route).toOption

/-- The names of the file at a path, if the path leads to one. -/
def located? (t : FileTree) (p : Path) : Option (List String) :=
  (t.found? p).map Prod.fst

/-- What normalizing the file at a path comes to, if the path leads to one that is a text. -/
def outcomeAt? (t : FileTree) (n : Normalizer) (p : Path) : Option Outcome :=
  (t.found? p).bind fun x => n.outcome? x.2

/-- The bytes of the file at the given names, if there is one. -/
def bytesAt? (t : FileTree) (names : List String) : Option (List UInt8) :=
  (t.get? names).bind fun node => match node with
    | .file bytes => some bytes
    | .directory _ => none

/-- The tree after the file at a path has been rewritten. -/
def rewriteAt (n : Normalizer) (p : Path) (t : FileTree) : FileTree :=
  match t.found? p with
  | some (names, bytes) => t.setFile names (n.rewrite bytes)
  | none => t

/-- Whether a path that leads to the file has been seen. -/
def Seen (t : FileTree) (seen : List Path) (file : Option (List String)) : Prop :=
  ∃ p ∈ seen, t.located? p = file

instance (t : FileTree) (seen : List Path) (file : Option (List String)) : Decidable (t.Seen seen file) :=
  inferInstanceAs (Decidable (∃ p ∈ seen, t.located? p = file))

/-- The tree after the files at all paths that were seen have been rewritten. -/
def rewritten (n : Normalizer) (seen : List Path) (t : FileTree) : FileTree :=
  t.mapFiles fun names old => if t.Seen seen (some names) then n.rewrite old else old

/-! ### The files that paths lead to -/

theorem bytesAt?_eq_some_iff : t.bytesAt? names = some bytes ↔ t.get? names = some (.file bytes) := by
  rw [bytesAt?]
  rcases t.get? names with _ | ⟨content⟩ | ⟨entries⟩ <;> simp

theorem get?_of_found? (h : t.found? p = some (names, bytes)) : t.get? names = some (.file bytes) := by
  cases hlocate : t.locate p.route with
  | error e =>
    simp only [found?, fileAt, hlocate] at h
    cases h
  | ok others =>
    simp only [found?, fileAt, hlocate] at h
    split at h
    · rename_i content hget
      cases h
      exact hget
    · cases h
    · cases h

theorem found?_mapFiles (f : List String → List UInt8 → List UInt8) (t : FileTree) (p : Path) :
    (t.mapFiles f).found? p = (t.found? p).map fun (names, bytes) => (names, f names bytes) := by
  rw [found?, found?, fileAt_mapFiles]
  cases t.fileAt p.route <;> rfl

@[simp] theorem located?_mapFiles (f : List String → List UInt8 → List UInt8) (t : FileTree) (p : Path) :
    (t.mapFiles f).located? p = t.located? p := by
  rw [located?, located?, found?_mapFiles, Option.map_map]
  rfl

theorem located?_of_found? (h : t.found? p = some (names, bytes)) : t.located? p = some names := by
  rw [located?, h]
  rfl

@[simp] theorem not_seen_nil (t : FileTree) (file : Option (List String)) : ¬t.Seen [] file := by
  simp [Seen]

@[simp] theorem seen_append_singleton {file : Option (List String)} :
    t.Seen (seen ++ [p]) file ↔ t.Seen seen file ∨ t.located? p = file := by
  simp [Seen, or_and_right, exists_or]

theorem outcomeAt?_of_located?_eq_none (h : t.located? p = none) (n : Normalizer) : t.outcomeAt? n p = none := by
  rw [outcomeAt?, Option.map_eq_none_iff.mp h]
  rfl

/-! ### Rewriting one file after the other -/

theorem setFile_self (h : t.get? names = some (.file bytes)) : t.setFile names bytes = t := by
  rw [setFile_eq_mapFiles]
  refine (mapFiles_congr fun other old hold => ?_).trans (mapFiles_id t)
  split
  · rename_i he
    rw [he, h] at hold
    cases hold
    rfl
  · rfl

/-- A path that leads to no text leaves the tree as it is. -/
theorem rewriteAt_of_none (h : t.outcomeAt? n p = none) : t.rewriteAt n p = t := by
  rw [rewriteAt]
  split
  · rename_i names bytes hfound
    have hbytes : n.outcome? bytes = none := by
      rw [outcomeAt?, hfound] at h
      exact h
    rw [Normalizer.rewrite_of_none hbytes, setFile_self (get?_of_found? hfound)]
  · rfl

theorem rewriteAt_of_some (hn : n.segmenter = .strategy strategy) {outcome : Outcome}
    (hfound : t.found? p = some (names, bytes)) (hbytes : n.outcome? bytes = some outcome) : t.rewriteAt n p =
      if outcome.changed = true then t.setFile names (Utf8.encode outcome.text) else t := by
  have hrewrite : t.rewriteAt n p = t.setFile names (n.rewrite bytes) := by rw [rewriteAt, hfound]
  rw [hrewrite]
  split
  · rw [Normalizer.rewrite_of_some hbytes]
  · rename_i hchanged
    have hsame : n.rewrite bytes = bytes := not_not.mp (mt (Normalizer.changed_iff hn hbytes).mpr hchanged)
    rw [hsame, setFile_self (get?_of_found? hfound)]

@[simp] theorem rewritten_nil (n : Normalizer) (t : FileTree) : t.rewritten n [] = t := by
  simp only [rewritten, not_seen_nil, if_false]
  exact mapFiles_id t

@[simp] theorem located?_rewritten (n : Normalizer) (seen : List Path) (t : FileTree) (p : Path) :
    (t.rewritten n seen).located? p = t.located? p :=
  located?_mapFiles _ t p

/-- Only which files have been seen matters. -/
theorem rewritten_congr {seen₁ seen₂ : List Path}
    (h : ∀ names, t.Seen seen₁ (some names) ↔ t.Seen seen₂ (some names)) :
    t.rewritten n seen₁ = t.rewritten n seen₂ :=
  mapFiles_congr fun names old _ => by rw [if_congr (h names) rfl rfl]

theorem found?_rewritten (h : t.found? p = some (names, bytes)) : (t.rewritten n seen).found? p =
    some (names, if t.Seen seen (t.located? p) then n.rewrite bytes else bytes) := by
  rw [rewritten, found?_mapFiles, h, located?_of_found? h]
  rfl

/-- A file is rewritten exactly if a path that leads to it has been seen. -/
theorem bytesAt?_rewritten (n : Normalizer) (seen : List Path) (t : FileTree) (names : List String) :
    (t.rewritten n seen).bytesAt? names =
      (t.bytesAt? names).map fun old => if t.Seen seen (some names) then n.rewrite old else old := by
  rw [rewritten, bytesAt?, get?_mapFiles, bytesAt?]
  rcases t.get? names with _ | ⟨content⟩ | ⟨entries⟩
  · rfl
  · simp [Node.mapFiles]
  · rfl

theorem isDirectory_rewritten (n : Normalizer) (seen : List Path) (t : FileTree) (names : List String) :
    ((t.rewritten n seen).get? names).map Node.isDirectory = (t.get? names).map Node.isDirectory := by
  rw [rewritten, get?_mapFiles, Option.map_map]
  rcases t.get? names with _ | ⟨content⟩ | ⟨entries⟩ <;> rfl

/-- One more path that is seen rewrites one more file, if it has not been rewritten before. -/
theorem rewriteAt_rewritten (hn : n.segmenter = .strategy strategy) (seen : List Path) (t : FileTree) (p : Path) :
    (t.rewritten n seen).rewriteAt n p = t.rewritten n (seen ++ [p]) := by
  rcases h : t.found? p with _ | ⟨names, bytes⟩
  · have hnone : t.located? p = none := by rw [located?, h]; rfl
    have hfound : (t.rewritten n seen).found? p = none := by rw [rewritten, found?_mapFiles, h]; rfl
    rw [rewriteAt, hfound]
    exact rewritten_congr fun other => by simp [hnone]
  · have hsome : t.located? p = some names := located?_of_found? h
    have hbytes : n.rewrite (if t.Seen seen (t.located? p) then n.rewrite bytes else bytes) =
        n.rewrite bytes := by
      split
      · exact Normalizer.rewrite_rewrite hn bytes
      · rfl
    simp only [rewriteAt, found?_rewritten h, hbytes]
    rw [rewritten, setFile_mapFiles, rewritten]
    refine mapFiles_congr fun other old hold => ?_
    by_cases ho : names = other
    · subst ho
      rw [get?_of_found? h] at hold
      cases hold
      simp [hsome]
    · simp [hsome, ho, Ne.symm ho]

/-! ### What is found in a rewritten tree -/

theorem outcomeAt?_rewritten_of_not_seen (h : ¬t.Seen seen (t.located? p)) :
    (t.rewritten n seen).outcomeAt? n p = t.outcomeAt? n p := by
  rcases hp : t.found? p with _ | ⟨names, bytes⟩
  · rw [outcomeAt?, outcomeAt?, rewritten, found?_mapFiles, hp]
    rfl
  · rw [outcomeAt?, outcomeAt?, found?_rewritten hp, if_neg h, hp]

/-- A file that has been rewritten stays as it is. -/
theorem outcomeAt?_rewritten_of_seen (hn : n.segmenter = .strategy strategy) (h : t.Seen seen (t.located? p)) :
    ∃ k, (t.rewritten n seen).outcomeAt? n p =
      (t.outcomeAt? n p).map fun outcome => ⟨outcome.text, false, k, true⟩ := by
  rcases hp : t.found? p with _ | ⟨names, bytes⟩
  · rw [outcomeAt?, outcomeAt?, rewritten, found?_mapFiles, hp]
    exact ⟨0, rfl⟩
  · rw [outcomeAt?, outcomeAt?, found?_rewritten hp, if_pos h, hp]
    exact n.outcome?_rewrite hn bytes

/-- Whether a path leads to a text does not depend on what has been rewritten. -/
theorem isSome_outcomeAt?_rewritten (hn : n.segmenter = .strategy strategy) (seen : List Path) (t : FileTree)
    (p : Path) : ((t.rewritten n seen).outcomeAt? n p).isSome = (t.outcomeAt? n p).isSome := by
  by_cases h : t.Seen seen (t.located? p)
  · obtain ⟨k, hk⟩ := outcomeAt?_rewritten_of_seen hn h
    rw [hk, Option.isSome_map]
  · rw [outcomeAt?_rewritten_of_not_seen h]

/-- All files that have been seen stay as they are when they are seen again. -/
theorem rewritten_rewritten (hn : n.segmenter = .strategy strategy) (seen : List Path) (t : FileTree) :
    (t.rewritten n seen).rewritten n seen = t.rewritten n seen := by
  have hseen : ∀ names, (t.rewritten n seen).Seen seen (some names) ↔ t.Seen seen (some names) := fun names => by
    simp only [Seen, located?_rewritten]
  rw [rewritten]
  simp only [hseen]
  rw [rewritten, mapFiles_mapFiles]
  refine mapFiles_congr fun names old _ => ?_
  split
  · exact Normalizer.rewrite_rewrite hn old
  · rfl

end FileTree

end BracketSpacing
