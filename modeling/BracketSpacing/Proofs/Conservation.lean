import Mathlib
import BracketSpacing.Proofs.Passes

/-!
# Nothing but slack is lost or invented

* A sweep over characters leaves all but slack as it is (`withoutSlack_padAll`), and so does normalizing, whichever way
  a text is normalized (`withoutSlack_text_normalizeWith`).
* `normalizeWith_conserves`: hence the characters that are no slack keep their order and their number, and every line
  keeps those of its own.
-/

namespace BracketSpacing

open Piece

variable {limit : Nat}

/-! ## Slack and line breaks -/

/-- A line feed or a carriage return. -/
def isLineBreak (c : Char) : Bool :=
  c == '\n' || c == '\r'

theorem isSlack_of_isLineBreak {c : Char} (hc : isLineBreak c = true) : isSlack c = false := by
  simp only [isLineBreak, Bool.or_eq_true, beq_iff_eq] at hc
  rcases hc with rfl | rfl <;> rfl

/-- A list without some elements is split at the others as the list is. -/
theorem splitOnP_filter {α : Type} {p q : α → Bool} (hpq : ∀ x, p x = true → q x = true) (l : List α) :
    (l.filter q).splitOnP p = (l.splitOnP p).map (List.filter q) := by
  induction l with
  | nil => rfl
  | cons x l ih =>
    obtain ⟨part, parts, hparts⟩ := List.exists_cons_of_ne_nil (List.splitOnP_ne_nil p l)
    rw [hparts] at ih
    cases hp : p x with
    | true => simp [List.splitOnP_cons_eq_if_modifyHead, hp, hpq x hp, ih, hparts]
    | false => cases hq : q x <;> simp [List.splitOnP_cons_eq_if_modifyHead, hp, hq, ih, hparts]

/-- Texts that are equal without their slack have the same lines without slack. -/
theorem map_withoutSlack_lines {s t : List Char} (h : withoutSlack s = withoutSlack t) :
    (s.splitOnP isLineBreak).map withoutSlack = (t.splitOnP isLineBreak).map withoutSlack := by
  have hkept : ∀ c, isLineBreak c = true → (!isSlack c) = true := fun c hc => by rw [isSlack_of_isLineBreak hc]; rfl
  have hs : (withoutSlack s).splitOnP isLineBreak = (s.splitOnP isLineBreak).map withoutSlack :=
    splitOnP_filter hkept s
  have ht : (withoutSlack t).splitOnP isLineBreak = (t.splitOnP isLineBreak).map withoutSlack :=
    splitOnP_filter hkept t
  rw [← hs, ← ht, h]

/-- Texts that are equal without their slack hold every other character as often. -/
theorem count_eq_of_withoutSlack {s t : List Char} (h : withoutSlack s = withoutSlack t) {c : Char}
    (hc : isSlack c = false) : s.count c = t.count c := by
  have hcount : ∀ u : List Char, (withoutSlack u).count c = u.count c := fun u =>
    List.count_filter (by rw [hc]; rfl)
  rw [← hcount s, ← hcount t, h]

/-! ## Normalizing -/

/-- A sweep over characters only exchanges slack. -/
theorem withoutSlack_padAll (guard : Bool) (s : List Char) :
    withoutSlack (Bracket.padAll guard s) = withoutSlack s := by
  have h := (respaced_padAll guard true (codes s)).withoutSlack_joined
  rwa [padAll_codes, joined_codes, joined_codes] at h

theorem withoutSlack_text_normalizeWith (h : 1 ≤ limit) (strategy : Strategy) (guard : Bool) (text : List Char) :
    withoutSlack (normalizeWith strategy guard limit text).text = withoutSlack text := by
  cases strategy with
  | php =>
    have hswept := (respaced_swept guard (!text.any Placeholder.isDelimiter) text).withoutSlack_joined
    rw [joined_ofSegments, Strategy.joined_segments] at hswept
    rw [text_normalizeWith_php h]
    exact hswept
  | raw => rw [text_normalizeWith_raw h, withoutSlack_padAll]

/-- **Nothing but slack is lost or invented.** A text and the normalized text are equal without their slack. So every
other character is in both equally often, and their lines are equal one by one without slack. -/
theorem normalizeWith_conserves (h : 1 ≤ limit) (strategy : Strategy) (guard : Bool) (text : List Char) :
    withoutSlack (normalizeWith strategy guard limit text).text = withoutSlack text ∧
    (∀ c, isSlack c = false → (normalizeWith strategy guard limit text).text.count c = text.count c) ∧
    (normalizeWith strategy guard limit text).text.filter isLineBreak = text.filter isLineBreak ∧
    ((normalizeWith strategy guard limit text).text.splitOnP isLineBreak).map withoutSlack =
      (text.splitOnP isLineBreak).map withoutSlack := by
  have hsame := withoutSlack_text_normalizeWith h strategy guard text
  refine ⟨hsame, fun c hc => count_eq_of_withoutSlack hsame hc, ?_, map_withoutSlack_lines hsame⟩
  have hbreaks : ∀ s : List Char, (withoutSlack s).filter isLineBreak = s.filter isLineBreak := fun s => by
    rw [withoutSlack, List.filter_filter]
    refine List.filter_congr fun c _ => ?_
    cases hc : isLineBreak c with
    | true => simp [isSlack_of_isLineBreak hc]
    | false => rfl
  rw [← hbreaks, hsame, hbreaks]

theorem normalizeWith_conserves_marks : 1 ≤ 1 ∧
    (normalizeWith .php true 1 "[\uE0000\uE001 ,'[ 1]']\r\n[\x00$c]".toList).text =
      "[\uE0000\uE001 ,'[ 1]']\r\n[ $c ]".toList ∧
    withoutSlack "[\uE0000\uE001 ,'[ 1]']\r\n[ $c ]".toList =
      withoutSlack "[\uE0000\uE001 ,'[ 1]']\r\n[\x00$c]".toList ∧
    isSlack '\uE000' = false ∧
    "[\uE0000\uE001 ,'[ 1]']\r\n[ $c ]".toList.count '\uE000' =
      "[\uE0000\uE001 ,'[ 1]']\r\n[\x00$c]".toList.count '\uE000' := by
  have ht : (normalizeWith .php true 1 "[\uE0000\uE001 ,'[ 1]']\r\n[\x00$c]".toList).text =
      "[\uE0000\uE001 ,'[ 1]']\r\n[ $c ]".toList := by cbv
  obtain ⟨hsame, hcount, -, -⟩ :=
    normalizeWith_conserves (Nat.le_refl 1) .php true "[\uE0000\uE001 ,'[ 1]']\r\n[\x00$c]".toList
  rw [ht] at hsame hcount
  exact ⟨Nat.le_refl 1, ht, hsame, rfl, hcount '\uE000' rfl⟩

end BracketSpacing
