import Mathlib
import BracketSpacing.Normalizer
import BracketSpacing.Proofs.Masking

/-!
# Normalizing keeps literals and is idempotent

* Whichever way a text is normalized, the result is one sweep over its pieces (`text_normalizeWith_php`): through
  literals on one line, or in each code segment by itself if the text holds mark characters.
* The result has the segments of the text up to slack (`segments_normalizeWith_php`).
* Normalizing a result changes nothing and takes one pass at most (`normalizeWith_normalizeWith`).
-/

namespace BracketSpacing

open Piece Placeholder

variable {guard : Bool} {limit : Nat} {text : List Char} {segments : List Segment}

/-! ## Code and nothing else -/

theorem settleCode_text (h : 1 ≤ limit) (guard : Bool) (text : List Char) :
    (settleCode guard limit text).text = Bracket.padAll guard text :=
  settle_text_of_idempotent (Bracket.padAll_padAll guard text) h

theorem settleCode_of_fixed (h : 1 ≤ limit) (hf : Bracket.padAll guard text = text) :
    settleCode guard limit text = ⟨text, 1, true⟩ :=
  settle_of_fixed hf h

/-- Where all is code, the pieces are the characters. -/
theorem ofSegments_of_all_isCode : ∀ {segments : List Segment}, segments.all Segment.isCode = true →
    ofSegments segments = codes (Segment.joined segments)
  | [], _ => rfl
  | ⟨.code, s⟩ :: segments, h => by
    rw [List.all_cons, Bool.and_eq_true] at h
    rw [ofSegments, ofSegments_of_all_isCode h.2, Segment.joined_cons, codes, codes, codes, List.map_append]
  | ⟨.literal, s⟩ :: segments, h => by
    rw [List.all_cons, Bool.and_eq_true] at h
    cases h.1

/-! ## Each code segment by itself -/

/-- The segments with all spans padded that lie within one code segment. -/
def padSegments (guard : Bool) : List Segment → List Segment
  | [] => []
  | ⟨.code, s⟩ :: segments => Segment.code (Bracket.padAll guard s) :: padSegments guard segments
  | ⟨.literal, s⟩ :: segments => Segment.literal s :: padSegments guard segments

theorem settleSegments_text (h : 1 ≤ limit) : ∀ segments : List Segment,
    (settleSegments guard limit segments).text = Segment.joined (padSegments guard segments)
  | [] => rfl
  | ⟨.code, s⟩ :: segments => by
    rw [settleSegments, padSegments, Segment.joined_cons, settleCode_text h, settleSegments_text h segments]
  | ⟨.literal, s⟩ :: segments => by
    rw [settleSegments, padSegments, Segment.joined_cons, settleSegments_text h segments]

/-- Padded segments settle in one pass, or in none if there is no code. -/
theorem settleSegments_padSegments (h : 1 ≤ limit) (guard : Bool) : ∀ segments : List Segment, ∃ n, n ≤ 1 ∧
    settleSegments guard limit (padSegments guard segments) = ⟨Segment.joined (padSegments guard segments), n, true⟩
  | [] => ⟨0, Nat.zero_le _, rfl⟩
  | ⟨.code, s⟩ :: segments => by
    obtain ⟨n, hn, ih⟩ := settleSegments_padSegments h guard segments
    refine ⟨max 1 n, by omega, ?_⟩
    rw [padSegments, settleSegments, ih, settleCode_of_fixed h (Bracket.padAll_padAll guard s)]
    rfl
  | ⟨.literal, s⟩ :: segments => by
    obtain ⟨n, hn, ih⟩ := settleSegments_padSegments h guard segments
    refine ⟨n, hn, ?_⟩
    rw [padSegments, settleSegments, ih]
    rfl

theorem padAll_ne_nil {s : List Char} (hs : s ≠ []) : Bracket.padAll guard s ≠ [] := by
  obtain ⟨c, s, rfl⟩ := List.exists_cons_of_ne_nil hs
  rw [Bracket.padAll]
  split
  · split
    · rw [Bracket.padded_eq]
      simp
    · simp
  · simp

theorem head?_kind_padSegments (h : ∀ t ∈ segments.head?, t.kind = .literal) :
    ∀ t ∈ (padSegments guard segments).head?, t.kind = .literal := by
  rcases segments with _ | ⟨⟨_ | _, s⟩, segments⟩
  · exact h
  · exact absurd (h _ rfl) (by simp)
  · rintro t ⟨⟩
    rfl

theorem isMerged_padSegments : ∀ {segments : List Segment}, IsMerged segments → IsMerged (padSegments guard segments)
  | [], _ => trivial
  | ⟨.code, _⟩ :: _, ⟨hs, hn, h⟩ => ⟨padAll_ne_nil hs, head?_kind_padSegments hn, isMerged_padSegments h⟩
  | ⟨.literal, _⟩ :: segments, h => by
    have hs : IsMerged (padSegments guard segments) := isMerged_padSegments h
    exact hs

/-- Padding each code segment is the sweep that goes through no literal. -/
theorem ofSegments_padSegments : ∀ {segments : List Segment}, IsMerged segments →
    ofSegments (padSegments guard segments) = (alphabet false).padAll guard (ofSegments segments)
  | [], _ => by rw [padSegments, ofSegments, Alphabet.padAll]
  | ⟨.code, s⟩ :: segments, ⟨_, hn, h⟩ => by
    have hrest : ∀ x ∈ (ofSegments segments).head?, x.isFence false = true ∧ x ≠ code ']' := by
      rcases segments with _ | ⟨⟨_ | _, t⟩, segments⟩
      · intro x hx
        cases hx
      · exact absurd (hn _ rfl) (by simp)
      · rintro x ⟨⟩
        simp [isFence]
    rw [padSegments, ofSegments, ofSegments, padAll_codes_append hrest, ofSegments_padSegments h]
  | ⟨.literal, s⟩ :: segments, h => by
    have hs : IsMerged segments := h
    rw [padSegments, ofSegments, ofSegments, Alphabet.padAll_cons_of_ne (by simp), ofSegments_padSegments hs]

/-! ## Marks for literals -/

theorem any_isDelimiter_joined {p q : List Piece} (h : Respaced p q) :
    (joined q).any isDelimiter = (joined p).any isDelimiter := by
  refine h.any_joined fun c hc => ?_
  cases hd : isDelimiter c with
  | false => rfl
  | true =>
    simp only [isDelimiter, Bool.or_eq_true, beq_iff_eq] at hd
    rcases hd with rfl | rfl <;> revert hc <;> decide

theorem mem_joined_of_mem {c : Char} : ∀ {p : List Piece}, code c ∈ p → c ∈ joined p
  | x :: p, h => by
    show c ∈ x.text ++ joined p
    rcases List.mem_cons.mp h with rfl | h
    · exact List.mem_append_left _ (List.mem_singleton.mpr rfl)
    · exact List.mem_append_right _ (mem_joined_of_mem h)

/-- Putting literals back into a masked part of the pieces gives the text of the part, if the pieces hold no mark
characters. -/
theorem restore_part {p a q b : List Piece} {k : Nat} (h : (joined p).any isDelimiter = false)
    (hp : p = a ++ (q ++ b)) (hk : k = (Piece.literals a).length) :
    restore (Piece.literals p).toArray (masked k q) = joined q := by
  subst hp hk
  refine restore_masked _ q _ (fun c hc he => ?_) fun i s hs => ?_
  · subst he
    have hmem : opening ∈ joined (a ++ (q ++ b)) := mem_joined_of_mem (by simp [hc])
    rw [List.any_eq_false] at h
    exact h _ hmem (by decide)
  · have hi : i < (Piece.literals q).length := (List.getElem?_eq_some_iff.mp hs).1
    rw [List.getElem?_toArray, literals_append, literals_append, List.getElem?_append_right (Nat.le_add_right _ _),
      Nat.add_sub_cancel_left, List.getElem?_append_left hi, hs]

theorem restore_literals {p : List Piece} (h : (joined p).any isDelimiter = false) :
    restore (Piece.literals p).toArray (masked 0 p) = joined p :=
  restore_part (a := []) (b := []) h (by simp) rfl

/-- Masking, sweeping and restoring is a sweep over the pieces. -/
theorem settleMasked_text (h : 1 ≤ limit) (hd : (Segment.joined segments).any isDelimiter = false) :
    (settleMasked guard limit segments).text = joined ((alphabet true).padAll guard (ofSegments segments)) := by
  have hq : (joined ((alphabet true).padAll guard (ofSegments segments))).any isDelimiter = false := by
    rw [any_isDelimiter_joined (respaced_padAll guard true _), joined_ofSegments, hd]
  simp only [settleMasked, mask]
  rw [settleCode_text h, maskFrom_eq_masked, padAll_masked, ← literals_ofSegments,
    ← literals_padAll guard true (ofSegments segments), restore_literals hq]

/-- Once the segments are those of a swept text, the masked text is settled. -/
theorem settleMasked_of_swept (h : 1 ≤ limit) {p : List Piece}
    (hs : ofSegments segments = (alphabet true).padAll guard p)
    (hd : (joined ((alphabet true).padAll guard p)).any isDelimiter = false) :
    settleMasked guard limit segments = ⟨joined ((alphabet true).padAll guard p), 1, true⟩ := by
  have hmask : mask segments = masked 0 ((alphabet true).padAll guard p) := by rw [mask, maskFrom_eq_masked, hs]
  have hfixed : Bracket.padAll guard (mask segments) = mask segments := by
    rw [hmask, ← padAll_masked, Bracket.padAll_padAll]
  simp only [settleMasked]
  rw [settleCode_of_fixed h hfixed, hmask, ← literals_ofSegments, hs, restore_literals hd]

/-! ## The normalized text -/

/-- The text with the spans of its pieces padded in one sweep that goes through literals on one line or through none. -/
def swept (guard through : Bool) (text : List Char) : List Char :=
  joined ((alphabet through).padAll guard (ofSegments (Strategy.php.segments text)))

theorem respaced_swept (guard through : Bool) (text : List Char) :
    Respaced (ofSegments (Strategy.php.segments text))
      ((alphabet through).padAll guard (ofSegments (Strategy.php.segments text))) :=
  respaced_padAll guard through _

/-- Where all is code, the sweep is that over the characters. -/
theorem swept_of_all_isCode (h : (Strategy.php.segments text).all Segment.isCode = true) (guard through : Bool) :
    swept guard through text = Bracket.padAll guard text := by
  have hj : Segment.joined (Strategy.php.segments text) = text := Strategy.joined_segments .php text
  rw [swept, ofSegments_of_all_isCode h, hj, padAll_codes, joined_codes]

/-- A sweep through no literal pads each code segment by itself. -/
theorem swept_false (guard : Bool) (text : List Char) :
    swept guard false text = Segment.joined (padSegments guard (Strategy.php.segments text)) := by
  rw [swept, ← ofSegments_padSegments (isMerged_segments_php text), joined_ofSegments]

theorem any_isDelimiter_swept (guard through : Bool) (text : List Char) :
    (swept guard through text).any isDelimiter = text.any isDelimiter := by
  have hj : joined (ofSegments (Strategy.php.segments text)) = text := by
    rw [joined_ofSegments, Strategy.joined_segments .php text]
  rw [swept, any_isDelimiter_joined (respaced_swept guard through text), hj]

/-- However a text is normalized, the result is one sweep over its pieces. -/
theorem text_normalizeWith_php (h : 1 ≤ limit) (guard : Bool) (text : List Char) :
    (normalizeWith .php guard limit text).text = swept guard (!text.any isDelimiter) text := by
  simp only [normalizeWith, settleText]
  split
  · rename_i hall
    rw [settleCode_text h, swept_of_all_isCode hall]
  · split
    · rename_i hd
      rw [settleSegments_text h, hd, Bool.not_true, swept_false]
    · rename_i hd
      rw [Bool.not_eq_true] at hd
      have hj : Segment.joined (Strategy.php.segments text) = text := Strategy.joined_segments .php text
      rw [settleMasked_text h (by rw [hj, hd]), hd, Bool.not_false, swept]

/-- The pieces of a swept text are those of the text, swept. -/
theorem segments_swept (guard through : Bool) (text : List Char) : Strategy.php.segments (swept guard through text) =
    merged ((alphabet through).padAll guard (ofSegments (Strategy.php.segments text))) :=
  (respaced_swept guard through text).segments_eq

theorem forall₂_segments_swept (guard through : Bool) (text : List Char) :
    List.Forall₂ SameButSlack (Strategy.php.segments text) (Strategy.php.segments (swept guard through text)) := by
  have h := (respaced_swept guard through text).forall₂_merged
  rw [merged_ofSegments (isMerged_segments_php text)] at h
  rwa [segments_swept]

/-- **Literal safety.** A normalized text has the segments of the text: as many of them, of the same kinds, with the
same literals, and with code that differs in slack only. -/
theorem segments_normalizeWith_php (h : 1 ≤ limit) (guard : Bool) (text : List Char) :
    List.Forall₂ SameButSlack (Strategy.php.segments text)
      (Strategy.php.segments (normalizeWith .php guard limit text).text) := by
  rw [text_normalizeWith_php h]
  exact forall₂_segments_swept guard _ text

theorem segments_normalizeWith_php_nested : 1 ≤ 1 ∧
    (normalizeWith .php true 1 "<?php $a=[['b]'] ,#[c\n[1]/*]*/]".toList).text =
      "<?php $a=[[ 'b]' ] ,#[c\n[1]/*]*/]".toList ∧
    List.Forall₂ SameButSlack (Strategy.php.segments "<?php $a=[['b]'] ,#[c\n[1]/*]*/]".toList)
      (Strategy.php.segments "<?php $a=[[ 'b]' ] ,#[c\n[1]/*]*/]".toList) := by
  have ht : (normalizeWith .php true 1 "<?php $a=[['b]'] ,#[c\n[1]/*]*/]".toList).text =
      "<?php $a=[[ 'b]' ] ,#[c\n[1]/*]*/]".toList := by cbv
  have h := segments_normalizeWith_php (Nat.le_refl 1) true "<?php $a=[['b]'] ,#[c\n[1]/*]*/]".toList
  rw [ht] at h
  exact ⟨Nat.le_refl 1, ht, h⟩

/-! ## Normalizing again -/

theorem all_isCode_of_forall₂ {s t : List Segment} (h : List.Forall₂ SameButSlack s t) :
    t.all Segment.isCode = s.all Segment.isCode := by
  induction h with
  | nil => rfl
  | cons hst _ ih => rw [List.all_cons, List.all_cons, ih, Segment.isCode, Segment.isCode, hst.kind]

theorem segments_swept_false (guard : Bool) (text : List Char) :
    Strategy.php.segments (swept guard false text) = padSegments guard (Strategy.php.segments text) := by
  have hm : IsMerged (Strategy.php.segments text) := isMerged_segments_php text
  rw [segments_swept, ← ofSegments_padSegments hm, merged_ofSegments (isMerged_padSegments hm)]

/-- A swept text is settled, for it is normalized in the same one of the three ways as the text. -/
theorem settleText_swept (h : 1 ≤ limit) (guard : Bool) (text : List Char) : ∃ n, n ≤ 1 ∧
    settleText guard limit (Strategy.php.segments (swept guard (!text.any isDelimiter) text))
      (swept guard (!text.any isDelimiter) text) = ⟨swept guard (!text.any isDelimiter) text, n, true⟩ := by
  have hall := all_isCode_of_forall₂ (forall₂_segments_swept guard (!text.any isDelimiter) text)
  rw [settleText, hall, any_isDelimiter_swept]
  cases hcode : (Strategy.php.segments text).all Segment.isCode with
  | true =>
    refine ⟨1, Nat.le_refl 1, ?_⟩
    rw [if_pos rfl, swept_of_all_isCode hcode, settleCode_of_fixed h (Bracket.padAll_padAll guard text)]
  | false =>
    rw [if_neg (by simp)]
    cases hd : text.any isDelimiter with
    | true =>
      obtain ⟨n, hn, hs⟩ := settleSegments_padSegments h guard (Strategy.php.segments text)
      refine ⟨n, hn, ?_⟩
      rw [if_pos rfl, Bool.not_true, segments_swept_false, hs, swept_false]
    | false =>
      refine ⟨1, Nat.le_refl 1, ?_⟩
      have hpieces : ofSegments (Strategy.php.segments (swept guard true text)) =
          (alphabet true).padAll guard (ofSegments (Strategy.php.segments text)) := by
        rw [segments_swept, ofSegments_merged]
      have hclean : (swept guard true text).any isDelimiter = false := by rw [any_isDelimiter_swept, hd]
      rw [if_neg (by simp), Bool.not_false, settleMasked_of_swept h hpieces hclean, swept]

theorem all_isCode_segments_raw (text : List Char) : (Strategy.raw.segments text).all Segment.isCode = true := by
  cases text <;> rfl

/-- A text that settles into itself is normalized to itself. -/
theorem normalizeWith_of_settled {strategy : Strategy} {n : Nat}
    (h : settleText guard limit (strategy.segments text) text = ⟨text, n, true⟩) :
    normalizeWith strategy guard limit text = ⟨text, false, n, true⟩ := by
  simp only [normalizeWith]
  rw [h]
  simp

/-- **Idempotence.** Normalizing a normalized text gives it back, reports no change, and sees that in one pass. -/
theorem normalizeWith_normalizeWith {limit₁ limit₂ : Nat} (h₁ : 1 ≤ limit₁) (h₂ : 1 ≤ limit₂) (strategy : Strategy)
    (guard : Bool) (text : List Char) : ∃ n, n ≤ 1 ∧
      normalizeWith strategy guard limit₂ (normalizeWith strategy guard limit₁ text).text =
        ⟨(normalizeWith strategy guard limit₁ text).text, false, n, true⟩ := by
  cases strategy with
  | php =>
    rw [text_normalizeWith_php h₁]
    obtain ⟨n, hn, hs⟩ := settleText_swept h₂ guard text
    exact ⟨n, hn, normalizeWith_of_settled hs⟩
  | raw =>
    have ht : (normalizeWith .raw guard limit₁ text).text = Bracket.padAll guard text := by
      simp only [normalizeWith, settleText]
      rw [if_pos (all_isCode_segments_raw text), settleCode_text h₁]
    rw [ht]
    refine ⟨1, Nat.le_refl 1, normalizeWith_of_settled ?_⟩
    rw [settleText, if_pos (all_isCode_segments_raw _), settleCode_of_fixed h₂ (Bracket.padAll_padAll guard text)]

theorem normalizeWith_normalizeWith_marks : 1 ≤ 1 ∧ 1 ≤ 2 ∧
    (normalizeWith .php false 1 "$a=[\uFEFF['b'],[$c\u180E],\uE000]".toList).text =
      "$a=[\uFEFF['b'],[ $c ],\uE000]".toList ∧
    ∃ n, n ≤ 1 ∧ normalizeWith .php false 2 "$a=[\uFEFF['b'],[ $c ],\uE000]".toList =
      ⟨"$a=[\uFEFF['b'],[ $c ],\uE000]".toList, false, n, true⟩ := by
  have ht : (normalizeWith .php false 1 "$a=[\uFEFF['b'],[$c\u180E],\uE000]".toList).text =
      "$a=[\uFEFF['b'],[ $c ],\uE000]".toList := by cbv
  have h := normalizeWith_normalizeWith (Nat.le_refl 1) (Nat.le_succ 1) .php false
    "$a=[\uFEFF['b'],[$c\u180E],\uE000]".toList
  rw [ht] at h
  exact ⟨Nat.le_refl 1, Nat.le_succ 1, ht, h⟩

end BracketSpacing
