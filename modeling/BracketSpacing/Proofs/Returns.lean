import BracketSpacing.Proofs.Grammar

/-!
# Texts without their carriage returns

* `lineFeeds`: a text with a line feed for each carriage return and line feed.
* `ReturnsPaired`: every carriage return has a line feed after it. In such a text, writing line feeds is leaving out the
  carriage returns (`lineFeeds_eq_withoutReturns`), and no tag, opener or label comes about by that, for what was kept
  apart by a carriage return is kept apart by the line feed after it (`isPrefix_withoutReturns_iff`).
* Every reader reads a text without its carriage returns as it reads the text, and leaves them out
  (`literal?_withoutReturns`). So the text is cut alike (`segments_withoutReturns`).
-/

namespace BracketSpacing

open Text

variable {c : Char} {s : List Char}

/-! ## Paired carriage returns -/

/-- The text with a line feed for each carriage return that a line feed follows, together with that line feed. -/
def lineFeeds : List Char → List Char
  | [] => []
  | '\r' :: '\n' :: s => '\n' :: lineFeeds s
  | c :: s => c :: lineFeeds s

/-- A line feed comes right after every carriage return. -/
def ReturnsPaired (s : List Char) : Prop :=
  ∀ before after, s = before ++ '\r' :: after → ['\n'] <+: after

/-- The text without its carriage returns. -/
def withoutReturns (s : List Char) : List Char :=
  s.filter (· != '\r')

namespace ReturnsPaired

theorem of_append {u : List Char} (h : ReturnsPaired (u ++ s)) : ReturnsPaired s := by
  intro before after he
  exact h (u ++ before) after (by rw [he, List.append_assoc])

theorem tail (h : ReturnsPaired (c :: s)) : ReturnsPaired s :=
  of_append (u := [c]) h

theorem exists_of_return (h : ReturnsPaired ('\r' :: s)) : ∃ t, s = '\n' :: t := by
  obtain ⟨t, ht⟩ := h [] s rfl
  exact ⟨t, ht.symm⟩

/-- A text with paired carriage returns starts with one and its line feed, or with another character. -/
theorem cons_cases (h : ReturnsPaired (c :: s)) : (c = '\r' ∧ ∃ t, s = '\n' :: t) ∨ c ≠ '\r' := by
  by_cases hc : c = '\r'
  · subst hc
    exact Or.inl ⟨rfl, h.exists_of_return⟩
  · exact Or.inr hc

theorem cons_iff : ReturnsPaired (c :: s) ↔ (c = '\r' → ['\n'] <+: s) ∧ ReturnsPaired s := by
  constructor
  · intro h
    refine ⟨?_, h.tail⟩
    rintro rfl
    exact h [] s rfl
  · rintro ⟨hc, hs⟩ before after he
    cases before with
    | nil =>
      obtain ⟨rfl, rfl⟩ := List.cons.inj he
      exact hc rfl
    | cons d before =>
      obtain ⟨rfl, rfl⟩ := List.cons.inj he
      exact hs before after rfl

theorem nil : ReturnsPaired [] := by
  intro before after he
  have hlen := congrArg List.length he
  simp at hlen

theorem append {t : List Char} (hs : ReturnsPaired s) (ht : ReturnsPaired t) : ReturnsPaired (s ++ t) := by
  induction s with
  | nil => exact ht
  | cons c s ih =>
    obtain ⟨hc, hs⟩ := cons_iff.mp hs
    refine cons_iff.mpr ⟨fun he => ?_, ih hs⟩
    exact (hc he).trans (List.prefix_append s t)

end ReturnsPaired

@[simp] theorem withoutReturns_nil : withoutReturns [] = [] := rfl

@[simp] theorem withoutReturns_return (s : List Char) : withoutReturns ('\r' :: s) = withoutReturns s := rfl

theorem withoutReturns_cons (hc : c ≠ '\r') (s : List Char) : withoutReturns (c :: s) = c :: withoutReturns s :=
  List.filter_cons_of_pos (by simpa using hc)

@[simp] theorem withoutReturns_lineFeed (s : List Char) :
    withoutReturns ('\n' :: s) = '\n' :: withoutReturns s := rfl

@[simp] theorem withoutReturns_append (s t : List Char) :
    withoutReturns (s ++ t) = withoutReturns s ++ withoutReturns t :=
  List.filter_append s t

theorem withoutReturns_eq_self (h : ∀ c ∈ s, c ≠ '\r') : withoutReturns s = s :=
  List.filter_eq_self.mpr fun c hc => by simpa using h c hc

/-- Where every carriage return is paired, writing line feeds is leaving out the carriage returns. -/
theorem lineFeeds_eq_withoutReturns (h : ReturnsPaired s) : lineFeeds s = withoutReturns s := by
  fun_induction lineFeeds s with
  | case1 => rfl
  | case2 s ih =>
    rw [ih h.tail.tail]
    rfl
  | case3 c s hpair ih =>
    have hc : c ≠ '\r' := by
      rintro rfl
      obtain ⟨t, rfl⟩ := h.exists_of_return
      exact hpair t rfl rfl
    rw [ih h.tail, withoutReturns_cons hc]

/-! ## Prefixes and runs of characters -/

/-- A prefix without line breaks is one of both texts or of neither. -/
theorem isPrefix_withoutReturns_iff (h : ReturnsPaired s) {v : List Char} (hv : ∀ d ∈ v, d ≠ '\n' ∧ d ≠ '\r') :
    v <+: withoutReturns s ↔ v <+: s := by
  induction s generalizing v with
  | nil => rfl
  | cons c s ih =>
    cases v with
    | nil => simp
    | cons d v =>
      have hd := hv d List.mem_cons_self
      have hrest : ∀ e ∈ v, e ≠ '\n' ∧ e ≠ '\r' := fun e he => hv e (List.mem_cons_of_mem _ he)
      rcases h.cons_cases with ⟨rfl, t, rfl⟩ | hc
      · rw [withoutReturns_return, withoutReturns_lineFeed, List.cons_prefix_cons, List.cons_prefix_cons]
        simp [hd.1, hd.2]
      · rw [withoutReturns_cons hc, List.cons_prefix_cons, List.cons_prefix_cons, ih h.tail hrest]

/-- The first character is in a class without line breaks in both texts or in neither. -/
theorem head?_any_withoutReturns (h : ReturnsPaired s) {p : Char → Bool} (hn : p '\n' = false) (hr : p '\r' = false) :
    (withoutReturns s).head?.any p = s.head?.any p := by
  cases s with
  | nil => rfl
  | cons c s =>
    rcases h.cons_cases with ⟨rfl, t, rfl⟩ | hc
    · simp [hn, hr]
    · rw [withoutReturns_cons hc]
      rfl

theorem takeWhile_withoutReturns (h : ReturnsPaired s) {p : Char → Bool} (hn : p '\n' = false) (hr : p '\r' = false) :
    (withoutReturns s).takeWhile p = s.takeWhile p := by
  induction s with
  | nil => rfl
  | cons c s ih =>
    rcases h.cons_cases with ⟨rfl, t, rfl⟩ | hc
    · simp [hn, hr]
    · rw [withoutReturns_cons hc, List.takeWhile_cons, List.takeWhile_cons, ih h.tail]

/-- A class is dropped with or without the carriage returns if they belong to it or line feeds do not. -/
theorem dropWhile_withoutReturns (h : ReturnsPaired s) {p : Char → Bool} (hp : p '\r' = false → p '\n' = false) :
    (withoutReturns s).dropWhile p = withoutReturns (s.dropWhile p) := by
  induction s with
  | nil => rfl
  | cons c s ih =>
    have ih := ih h.tail
    rcases h.cons_cases with ⟨rfl, t, rfl⟩ | hc
    · cases hr : p '\r' with
      | true => rw [withoutReturns_return, List.dropWhile_cons_of_pos hr, ih]
      | false => simp [hr, hp hr]
    · rw [withoutReturns_cons hc]
      cases hd : p c with
      | true => rw [List.dropWhile_cons_of_pos hd, List.dropWhile_cons_of_pos hd, ih]
      | false =>
        rw [List.dropWhile_cons_of_neg (by simp [hd]), List.dropWhile_cons_of_neg (by simp [hd]),
          withoutReturns_cons hc]

/-! ## Strings and comments -/

namespace Reading

/-- The reading without the carriage returns of its two texts. -/
def withoutReturns (r : Reading) : Reading :=
  ⟨BracketSpacing.withoutReturns r.literal, BracketSpacing.withoutReturns r.rest⟩

@[simp] theorem withoutReturns_push_return (r : Reading) : (r.push '\r').withoutReturns = r.withoutReturns := rfl

theorem withoutReturns_push (hc : c ≠ '\r') (r : Reading) :
    (r.push c).withoutReturns = r.withoutReturns.push c :=
  eq_mk (withoutReturns_cons hc r.literal) rfl

theorem withoutReturns_pushAll (s : List Char) (r : Reading) :
    (r.pushAll s).withoutReturns = r.withoutReturns.pushAll (BracketSpacing.withoutReturns s) :=
  eq_mk (withoutReturns_append s r.literal) rfl

end Reading

theorem readQuoted_cons {quote : Char} (hb : c ≠ '\\') (hq : c ≠ quote) (s : List Char) :
    readQuoted quote (c :: s) = (readQuoted quote s).push c := by
  rw [readQuoted]
  · exact if_neg hq
  · rintro d t rfl
    exact absurd rfl hb

theorem readQuoted_withoutReturns {quote : Char} (hq : isQuote quote = true) (h : ReturnsPaired s) :
    readQuoted quote (withoutReturns s) = (readQuoted quote s).withoutReturns := by
  have hquote : quote ≠ '\\' ∧ quote ≠ '\n' ∧ quote ≠ '\r' := by
    rcases (isQuote_iff quote).mp hq with rfl | rfl | rfl <;> decide
  fun_induction readQuoted quote s with
  | case1 => rfl
  | case2 c s ih =>
    have ih := ih h.tail.tail
    have hslash : ∀ t : List Char, withoutReturns ('\\' :: t) = '\\' :: withoutReturns t :=
      withoutReturns_cons (by decide)
    rw [hslash, Reading.withoutReturns_push (by decide)]
    rcases h.tail.cons_cases with ⟨rfl, t, rfl⟩ | hc
    · -- The backslash escapes the carriage return, or the line feed in its place. Neither closes the string.
      rw [withoutReturns_lineFeed, readQuoted_cons (by decide) (Ne.symm hquote.2.1)] at ih
      rw [withoutReturns_return, withoutReturns_lineFeed, readQuoted, ih, Reading.withoutReturns_push_return]
    · rw [withoutReturns_cons hc, readQuoted, ih, Reading.withoutReturns_push hc]
  | case3 s =>
    rw [withoutReturns_cons hquote.2.2, readQuoted]
    · rw [if_pos rfl]
      show Reading.mk [quote] (withoutReturns s) = ⟨withoutReturns [quote], withoutReturns s⟩
      rw [withoutReturns_cons hquote.2.2, withoutReturns_nil]
    · rintro d t rfl
      exact absurd rfl hquote.1
  | case4 c s hpair hc ih =>
    have ih := ih h.tail
    by_cases hr : c = '\r'
    · subst hr
      rw [withoutReturns_return, ih, Reading.withoutReturns_push_return]
    · rw [withoutReturns_cons hr, Reading.withoutReturns_push hr, ← ih]
      by_cases hb : c = '\\'
      · subst hb
        have hs : s = [] := by
          cases s with
          | nil => rfl
          | cons d s => exact absurd rfl (hpair d s rfl)
        subst hs
        simp [readQuoted, hc]
      · exact readQuoted_cons hb hc _

theorem readBlock_cons (h : ¬['*', '/'] <+: c :: s) : readBlock (c :: s) = (readBlock s).push c := by
  rw [readBlock]
  rintro t rfl rfl
  exact h (by simp)

theorem readBlock_withoutReturns (h : ReturnsPaired s) :
    readBlock (withoutReturns s) = (readBlock s).withoutReturns := by
  fun_induction readBlock s with
  | case1 => rfl
  | case2 s => rfl
  | case3 c s hend ih =>
    have ih := ih h.tail
    by_cases hr : c = '\r'
    · subst hr
      rw [withoutReturns_return, ih, Reading.withoutReturns_push_return]
    · have hno : ¬['*', '/'] <+: c :: withoutReturns s := by
        rw [← withoutReturns_cons hr, isPrefix_withoutReturns_iff h (by simp)]
        rintro ⟨t, ht⟩
        obtain ⟨rfl, rfl⟩ := List.cons.inj ht
        exact hend t rfl rfl
      rw [withoutReturns_cons hr, readBlock_cons hno, ih, Reading.withoutReturns_push hr]

/-- A line ends in both texts or in neither. -/
theorem endsLine_withoutReturns (h : ReturnsPaired s) : endsLine (withoutReturns s) = endsLine s := by
  cases s with
  | nil => rfl
  | cons c s =>
    rcases h.cons_cases with ⟨rfl, t, rfl⟩ | hr
    · rfl
    · have htag : ['?', '>'] <+: withoutReturns (c :: s) ↔ ['?', '>'] <+: c :: s :=
        isPrefix_withoutReturns_iff h (by simp)
      rw [Bool.eq_iff_iff, endsLine_iff, endsLine_iff, htag, withoutReturns_cons hr]
      simp

theorem readLine_of_endsLine (h : endsLine s = true) : readLine s = ⟨[], s⟩ := by
  cases s with
  | nil => rfl
  | cons c s => rw [readLine, if_pos h]

theorem readLine_withoutReturns (h : ReturnsPaired s) :
    readLine (withoutReturns s) = (readLine s).withoutReturns := by
  fun_induction readLine s with
  | case1 => rfl
  | case2 c s hend =>
    rw [← endsLine_withoutReturns h] at hend
    rw [readLine_of_endsLine hend]
    rfl
  | case3 c s hend ih =>
    have hr : c ≠ '\r' := by
      rintro rfl
      exact hend rfl
    rw [← endsLine_withoutReturns h, withoutReturns_cons hr] at hend
    rw [withoutReturns_cons hr, readLine, if_neg hend, ih h.tail, Reading.withoutReturns_push hr]

/-! ## Heredocs -/

theorem ReturnsPaired.dropWhile (h : ReturnsPaired s) (p : Char → Bool) : ReturnsPaired (s.dropWhile p) := by
  rw [← List.takeWhile_append_dropWhile (p := p) (l := s)] at h
  exact h.of_append

/-- A front without carriage returns is dropped with or without those after it. -/
theorem drop_withoutReturns {front : List Char} (hf : ∀ c ∈ front, c ≠ '\r') (hs : front ++ s.drop front.length = s) :
    (withoutReturns s).drop front.length = withoutReturns (s.drop front.length) := by
  conv_lhs => rw [← hs, withoutReturns_append, withoutReturns_eq_self hf, List.drop_left]

theorem afterFront?_withoutReturns {front : List Char} (hf : ∀ d ∈ front, d ≠ '\n' ∧ d ≠ '\r') (h : ReturnsPaired s) :
    afterFront? front (withoutReturns s) = (afterFront? front s).map withoutReturns := by
  induction front generalizing s with
  | nil => simp [afterFront?]
  | cons d front ih =>
    have hd := hf d List.mem_cons_self
    cases s with
    | nil => rfl
    | cons c s =>
      rcases h.cons_cases with ⟨rfl, t, rfl⟩ | hc
      · simp [afterFront?, hd.1, hd.2]
      · rw [withoutReturns_cons hc, afterFront?, afterFront?,
          ih (fun e he => hf e (List.mem_cons_of_mem _ he)) h.tail]
        split <;> rfl

/-- Both line ends become a line feed. -/
theorem afterLineEnd?_withoutReturns (h : ReturnsPaired s) : afterLineEnd? (withoutReturns s) =
    (afterLineEnd? s).map fun (lineEnd, body) => (withoutReturns lineEnd, withoutReturns body) := by
  cases s with
  | nil => rfl
  | cons c s =>
    rcases h.cons_cases with ⟨rfl, t, rfl⟩ | hc
    · rfl
    · rw [withoutReturns_cons hc]
      by_cases hn : c = '\n'
      · subst hn
        rfl
      · have hnone : ∀ u, afterLineEnd? (c :: u) = none := by
          intro u
          unfold afterLineEnd?
          split <;> simp_all
        rw [hnone, hnone]
        rfl

theorem labelQuote_withoutReturns (h : ReturnsPaired s) : labelQuote (withoutReturns s) = labelQuote s := by
  cases s with
  | nil => rfl
  | cons c s =>
    rcases h.cons_cases with ⟨rfl, t, rfl⟩ | hc
    · rfl
    · rw [withoutReturns_cons hc]
      unfold labelQuote
      split <;> split <;> simp_all

theorem labelAt_withoutReturns (h : ReturnsPaired s) : labelAt (withoutReturns s) = labelAt s := by
  rw [labelAt, labelAt, head?_any_withoutReturns h (by decide) (by decide),
    takeWhile_withoutReturns h (by decide) (by decide)]

theorem isIndentation_ne_return {indent : List Char} (h : IsIndentation indent) : ∀ c ∈ indent, c ≠ '\r' := by
  rintro c hc rfl
  rcases h _ hc with h | h <;> exact absurd h (by decide)

theorem IsLabel.not_isLineBreak {label : List Char} (hl : IsLabel label) : ∀ d ∈ label, d ≠ '\n' ∧ d ≠ '\r' := by
  intro d hd
  have hrest := hl.isLabelRest_of_mem d hd
  constructor <;> rintro rfl <;> exact absurd hrest (by decide)

/-- The opener without the carriage return of its line end, and the body without its carriage returns. -/
def Opener.withoutReturns (o : Opener) : Opener :=
  ⟨BracketSpacing.withoutReturns o.text, o.label, BracketSpacing.withoutReturns o.body⟩

theorem labelQuote_not_isLineBreak (s : List Char) : ∀ d ∈ labelQuote s, d ≠ '\n' ∧ d ≠ '\r' := by
  rcases labelQuote_cases s with hq | hq | hq <;> rw [hq] <;> simp

/-- What follows the label of an opener: its quote again and a line end. -/
theorem afterLabel_withoutReturns {front quote label : List Char} (hfront : ∀ c ∈ front, c ≠ '\r')
    (hq : ∀ d ∈ quote, d ≠ '\n' ∧ d ≠ '\r') (h : ReturnsPaired s) :
    ((afterFront? quote (withoutReturns s)).bind fun afterLabel =>
      (afterLineEnd? afterLabel).map fun (lineEnd, body) => Opener.mk (front ++ lineEnd) label body) =
    ((afterFront? quote s).bind fun afterLabel =>
      (afterLineEnd? afterLabel).map fun (lineEnd, body) => Opener.mk (front ++ lineEnd) label body).map
        Opener.withoutReturns := by
  rw [afterFront?_withoutReturns hq h]
  cases hf : afterFront? quote s with
  | none => rfl
  | some rest =>
    have hrest : ReturnsPaired rest := by
      rw [afterFront?_eq hf] at h
      exact h.of_append
    rw [Option.map_some, Option.bind_some, Option.bind_some, afterLineEnd?_withoutReturns hrest]
    cases afterLineEnd? rest with
    | none => rfl
    | some ended =>
      simp only [Option.map_some, Opener.withoutReturns]
      rw [withoutReturns_append front, withoutReturns_eq_self hfront]

theorem opener?_withoutReturns (h : ReturnsPaired s) :
    opener? (withoutReturns s) = (opener? s).map Opener.withoutReturns := by
  have hindent : isIndent '\n' = false ∧ isIndent '\r' = false := by decide
  simp only [opener?]
  rw [dropWhile_withoutReturns h fun _ => hindent.1, takeWhile_withoutReturns h hindent.1 hindent.2]
  have hi : ∀ c ∈ s.takeWhile isIndent, c ≠ '\r' := isIndentation_ne_return (isIndentation_takeWhile s)
  generalize s.takeWhile isIndent = indent at hi ⊢
  have hline : ReturnsPaired (s.dropWhile isIndent) := h.dropWhile isIndent
  generalize s.dropWhile isIndent = line at hline ⊢
  -- The quote before the label, and the text from the label on.
  have hq := labelQuote_not_isLineBreak line
  have hquoted : labelQuote line ++ line.drop (labelQuote line).length = line := labelQuote_append_drop line
  have hnamed : ReturnsPaired (line.drop (labelQuote line).length) := by
    rw [← hquoted] at hline
    exact hline.of_append
  rw [labelQuote_withoutReturns hline, drop_withoutReturns (fun c hc => (hq c hc).2) hquoted]
  generalize labelQuote line = quote at hq hquoted hnamed ⊢
  generalize line.drop quote.length = named at hnamed ⊢
  rw [labelAt_withoutReturns hnamed]
  by_cases hempty : (labelAt named).isEmpty = true
  · rw [if_pos hempty, if_pos hempty]
    rfl
  · have hlabel : IsLabel (labelAt named) := IsLabel.of_labelAt (by simpa using hempty)
    have hcut : labelAt named ++ named.drop (labelAt named).length = named := labelAt_append_drop named
    have hafter : ReturnsPaired (named.drop (labelAt named).length) := by
      rw [← hcut] at hnamed
      exact hnamed.of_append
    have hfront : ∀ c ∈ indent ++ quote ++ labelAt named ++ quote, c ≠ '\r' := by
      simp only [List.mem_append]
      rintro c (((hc | hc) | hc) | hc)
      · exact hi c hc
      · exact (hq c hc).2
      · exact (hlabel.not_isLineBreak c hc).2
      · exact (hq c hc).2
    rw [if_neg hempty, if_neg hempty, drop_withoutReturns (fun c hc => (hlabel.not_isLineBreak c hc).2) hcut]
    exact afterLabel_withoutReturns hfront hq hafter

theorem closer?_withoutReturns {label : List Char} (hl : IsLabel label) (h : ReturnsPaired s) :
    closer? label (withoutReturns s) = (closer? label s).map Reading.withoutReturns := by
  rw [closer?, closer?, dropWhile_withoutReturns h (by decide),
    takeWhile_withoutReturns h (by decide) (by decide),
    afterFront?_withoutReturns hl.not_isLineBreak (h.dropWhile isIndent)]
  cases hf : afterFront? label (s.dropWhile isIndent) with
  | none => rfl
  | some rest =>
    have hrest : ReturnsPaired rest := by
      have hd := h.dropWhile isIndent
      rw [afterFront?_eq hf] at hd
      exact hd.of_append
    have hclosing : ∀ c ∈ s.takeWhile isIndent ++ label, c ≠ '\r' := by
      intro c hc
      rcases List.mem_append.mp hc with hc | hc
      · exact isIndentation_ne_return (isIndentation_takeWhile s) c hc
      · exact (hl.not_isLineBreak c hc).2
    rw [Option.map_some, Option.bind_some, Option.bind_some, head?_any_withoutReturns hrest (by decide) (by decide)]
    split
    · rfl
    · rw [Option.map_some, Reading.withoutReturns, withoutReturns_eq_self hclosing]

theorem readBody_cons {label : List Char} {lineStart : Bool} (h : lineStart = true → closer? label (c :: s) = none) :
    readBody label lineStart (c :: s) = (readBody label (c == '\n') s).push c := by
  have hnone : (if lineStart then closer? label (c :: s) else none) = none := by
    split
    · rename_i hline
      exact h hline
    · rfl
  rw [readBody, hnone]

theorem readBody_of_closer? {label : List Char} {r : Reading} (h : closer? label (c :: s) = some r) :
    readBody label true (c :: s) = r := by
  rw [readBody, if_pos rfl, h]

/-- No closing label starts with a line feed. -/
theorem closer?_lineFeed {label : List Char} (hl : IsLabel label) (s : List Char) :
    closer? label ('\n' :: s) = none := by
  obtain ⟨d, t, rfl, hd, -⟩ := id hl
  have hne : d ≠ '\n' := (hl.not_isLineBreak d List.mem_cons_self).1
  have hdrop : ('\n' :: s).dropWhile isIndent = '\n' :: s := rfl
  rw [closer?, hdrop, afterFront?, if_neg hne]
  rfl

theorem readBody_withoutReturns {label : List Char} (hl : IsLabel label) (lineStart : Bool) (h : ReturnsPaired s) :
    readBody label lineStart (withoutReturns s) = (readBody label lineStart s).withoutReturns := by
  fun_induction readBody label lineStart s with
  | case1 => rfl
  | case2 lineStart c s r hr =>
    split at hr
    · rename_i hline
      subst hline
      have hcloser := closer?_withoutReturns hl h
      rw [hr, Option.map_some] at hcloser
      have hc : c ≠ '\r' := by
        rintro rfl
        obtain ⟨t, rfl⟩ := h.exists_of_return
        rw [withoutReturns_return, withoutReturns_lineFeed, closer?_lineFeed hl] at hcloser
        cases hcloser
      rw [withoutReturns_cons hc] at hcloser ⊢
      exact readBody_of_closer? hcloser
    · cases hr
  | case3 lineStart c s hr ih =>
    have ih := ih h.tail
    rcases h.cons_cases with ⟨rfl, t, rfl⟩ | hc
    · -- The line feed after the carriage return closes nothing, so it does not matter whether a line starts there.
      rw [withoutReturns_return, Reading.withoutReturns_push_return, ← ih, withoutReturns_lineFeed,
        readBody_cons fun _ => closer?_lineFeed hl _, readBody_cons fun _ => closer?_lineFeed hl _]
    · have hnone : lineStart = true → closer? label (c :: withoutReturns s) = none := by
        rintro rfl
        rw [if_pos rfl] at hr
        rw [← withoutReturns_cons hc, closer?_withoutReturns hl h, hr]
        rfl
      rw [withoutReturns_cons hc, readBody_cons hnone, ih, Reading.withoutReturns_push hc]

/-! ## The literal at the front -/

theorem Opener.paired_body (h : ReturnsPaired s) {o : Opener} (ho : opener? s = some o) : ReturnsPaired o.body := by
  rw [opener?_eq ho] at h
  exact h.of_append

/-- Where neither comment nor heredoc is opened, only a quote starts a literal. -/
theorem literal?_of_not_opener (hblock : ¬['/', '*'] <+: c :: s) (hline : ¬['/', '/'] <+: c :: s)
    (hhash : ¬['#'] <+: c :: s) (hheredoc : ¬['<', '<', '<'] <+: c :: s) :
    literal? (c :: s) = if isQuote c then some ((readQuoted c s).push c) else none := by
  rw [literal?]
  · rintro t rfl rfl
    exact hblock (by simp)
  · rintro t rfl rfl
    exact hline (by simp)
  · rintro rfl
    exact hhash (by simp)
  · rintro t rfl rfl
    exact hheredoc (by simp)

/-- A hash opens an attribute in both texts or in neither. -/
theorem head?_withoutReturns_eq_bracket_iff (h : ReturnsPaired s) :
    (withoutReturns s).head? = some '[' ↔ s.head? = some '[' := by
  rw [head?_eq_bracket_iff, head?_eq_bracket_iff, isPrefix_withoutReturns_iff h (by simp)]

/-- What starts a literal stands at the front of the text without its carriage returns if it stands at the front of the
text, and the literal is read without them. -/
theorem literal?_withoutReturns (h : ReturnsPaired s) :
    literal? (withoutReturns s) = (literal? s).map Reading.withoutReturns := by
  by_cases hblock : ['/', '*'] <+: s
  · obtain ⟨t, rfl⟩ := hblock
    have ht : ReturnsPaired t := h.of_append
    show literal? ('/' :: '*' :: withoutReturns t) = (literal? ('/' :: '*' :: t)).map Reading.withoutReturns
    rw [literal?, literal?, Option.map_some, Reading.withoutReturns_pushAll, ← readBlock_withoutReturns ht]
    rfl
  by_cases hline : ['/', '/'] <+: s
  · obtain ⟨t, rfl⟩ := hline
    have ht : ReturnsPaired t := h.of_append
    show literal? ('/' :: '/' :: withoutReturns t) = (literal? ('/' :: '/' :: t)).map Reading.withoutReturns
    rw [literal?, literal?, Option.map_some, Reading.withoutReturns_pushAll, ← readLine_withoutReturns ht]
    rfl
  by_cases hhash : ['#'] <+: s
  · obtain ⟨t, rfl⟩ := hhash
    have ht : ReturnsPaired t := h.of_append
    have hattribute : (withoutReturns t).head? = some '[' ↔ t.head? = some '[' :=
      head?_withoutReturns_eq_bracket_iff ht
    show literal? ('#' :: withoutReturns t) = (literal? ('#' :: t)).map Reading.withoutReturns
    rw [literal?, literal?]
    by_cases hb : t.head? = some '['
    · rw [if_pos hb, if_pos (hattribute.mpr hb)]
      rfl
    · rw [if_neg hb, if_neg (hb ∘ hattribute.mp), readLine_withoutReturns ht, Option.map_some,
        Reading.withoutReturns_push (by decide)]
  by_cases hheredoc : ['<', '<', '<'] <+: s
  · obtain ⟨t, rfl⟩ := hheredoc
    have ht : ReturnsPaired t := h.of_append
    show literal? ('<' :: '<' :: '<' :: withoutReturns t) =
      (literal? ('<' :: '<' :: '<' :: t)).map Reading.withoutReturns
    rw [literal?, literal?, opener?_withoutReturns ht]
    cases ho : opener? t with
    | none => rfl
    | some o =>
      obtain ⟨-, -, -, -, -, -, hlabel, -⟩ := isOpener_of_opener? ho
      simp only [Option.map_some]
      rw [Reading.withoutReturns_pushAll, ← readBody_withoutReturns hlabel true (Opener.paired_body ht ho)]
      rfl
  cases s with
  | nil => rfl
  | cons c s =>
    rw [literal?_of_not_opener hblock hline hhash hheredoc]
    rcases h.cons_cases with ⟨rfl, t, rfl⟩ | hc
    · rfl
    · rw [← isPrefix_withoutReturns_iff h (by simp), withoutReturns_cons hc] at hblock hline hhash hheredoc
      rw [withoutReturns_cons hc, literal?_of_not_opener hblock hline hhash hheredoc]
      split
      · rename_i hq
        rw [readQuoted_withoutReturns hq h.tail, Option.map_some, Reading.withoutReturns_push hc]
      · rfl

/-! ## Cutting the text -/

/-- The segment without its carriage returns. -/
def Segment.withoutReturns (s : Segment) : Segment :=
  ⟨s.kind, BracketSpacing.withoutReturns s.text⟩

theorem map_withoutReturns_consCode (hc : c ≠ '\r') (segments : List Segment) :
    (Segment.consCode c segments).map Segment.withoutReturns =
      Segment.consCode c (segments.map Segment.withoutReturns) := by
  rcases segments with _ | ⟨⟨_ | _, t⟩, segments⟩ <;>
    simp [Segment.consCode, Segment.withoutReturns, withoutReturns_cons hc]

/-- A carriage return leaves no segment of its own behind, for the line feed after it is code as well. -/
theorem map_withoutReturns_consCode_return (d : Char) (segments : List Segment) :
    (Segment.consCode '\r' (Segment.consCode d segments)).map Segment.withoutReturns =
      (Segment.consCode d segments).map Segment.withoutReturns := by
  rcases segments with _ | ⟨⟨_ | _, t⟩, segments⟩ <;> rfl

theorem scan_lineFeed (mode : Mode) (s : List Char) :
    scan mode ('\n' :: s) = Segment.consCode '\n' (scan mode s) := by
  cases mode with
  | markup => exact scan_markup (by simp)
  | script => exact scan_script (by simp) rfl

/-- The text without its carriage returns is cut where the text is cut. -/
theorem scan_withoutReturns (mode : Mode) (h : ReturnsPaired s) :
    scan mode (withoutReturns s) = (scan mode s).map Segment.withoutReturns := by
  fun_induction scan mode s with
  | case1 => exact scan_nil _
  | case2 s ih =>
    show scan .markup ('<' :: '?' :: withoutReturns s) = _
    rw [scan_opens, ih h.tail.tail, map_withoutReturns_consCode (by decide), map_withoutReturns_consCode (by decide)]
  | case3 c s hno ih =>
    have ih := ih h.tail
    rcases h.cons_cases with ⟨rfl, t, rfl⟩ | hc
    · rw [withoutReturns_return, ih, scan_lineFeed, map_withoutReturns_consCode_return]
    · have htag : ¬['<', '?'] <+: c :: s := by
        rintro ⟨t, ht⟩
        obtain ⟨rfl, rfl⟩ := List.cons.inj ht
        exact hno t rfl rfl
      rw [← isPrefix_withoutReturns_iff h (by simp), withoutReturns_cons hc] at htag
      rw [withoutReturns_cons hc, scan_markup htag, ih, map_withoutReturns_consCode hc]
  | case4 s ih =>
    show scan .script ('?' :: '>' :: withoutReturns s) = _
    rw [scan_closes, ih h.tail.tail, map_withoutReturns_consCode (by decide), map_withoutReturns_consCode (by decide)]
  | case5 c s hno r hr ih =>
    have hrest : ReturnsPaired r.rest := by
      rw [← literal?_whole hr] at h
      exact h.of_append
    have hread : literal? (withoutReturns (c :: s)) = some r.withoutReturns := by
      rw [literal?_withoutReturns h, hr]
      rfl
    rw [scan_literal hread, List.map_cons, ← ih hrest]
    rfl
  | case6 c s hno hr ih =>
    have ih := ih h.tail
    rcases h.cons_cases with ⟨rfl, t, rfl⟩ | hc
    · rw [withoutReturns_return, ih, scan_lineFeed, map_withoutReturns_consCode_return]
    · have htag : ¬['?', '>'] <+: c :: s := by
        rintro ⟨t, ht⟩
        obtain ⟨rfl, rfl⟩ := List.cons.inj ht
        exact hno t rfl rfl
      have hnone : literal? (withoutReturns (c :: s)) = none := by
        rw [literal?_withoutReturns h, hr]
        rfl
      rw [← isPrefix_withoutReturns_iff h (by simp), withoutReturns_cons hc] at htag
      rw [withoutReturns_cons hc] at hnone ⊢
      rw [scan_script htag hnone, ih, map_withoutReturns_consCode hc]

theorem isInfix_withoutReturns_iff (h : ReturnsPaired s) {v : List Char} (hv : ∀ d ∈ v, d ≠ '\n' ∧ d ≠ '\r') :
    v <:+: withoutReturns s ↔ v <:+: s := by
  induction s with
  | nil => rfl
  | cons c s ih =>
    have ih := ih h.tail
    rw [List.infix_cons_iff, ← isPrefix_withoutReturns_iff h hv, ← ih]
    by_cases hc : c = '\r'
    · subst hc
      rw [withoutReturns_return, or_iff_right_of_imp List.IsPrefix.isInfix]
    · rw [withoutReturns_cons hc, List.infix_cons_iff]

/-- The text starts in the mode that it starts in without its carriage returns, for they are part of the margin. -/
theorem startMode_withoutReturns (h : ReturnsPaired s) : startMode (withoutReturns s) = startMode s := by
  have hhead : ReturnsPaired (s.dropWhile isTemplateMargin) := h.dropWhile isTemplateMargin
  have htemplate : isTemplate (withoutReturns s) = isTemplate s := by
    rw [Bool.eq_iff_iff, isTemplate_iff, isTemplate_iff, dropWhile_withoutReturns h (by decide),
      isPrefix_withoutReturns_iff hhead (by simp), isPrefix_withoutReturns_iff hhead (by simp),
      isPrefix_withoutReturns_iff hhead (by simp), isInfix_withoutReturns_iff hhead (by simp)]
  rw [startMode, startMode, htemplate]

theorem withoutReturns_eq_nil_iff (h : ReturnsPaired s) : withoutReturns s = [] ↔ s = [] := by
  cases s with
  | nil => simp
  | cons c s =>
    rcases h.cons_cases with ⟨rfl, t, rfl⟩ | hc
    · simp
    · simp [withoutReturns_cons hc]

theorem segments_raw_of_ne_nil (hs : s ≠ []) : Strategy.raw.segments s = [Segment.code s] := by
  cases s with
  | nil => exact absurd rfl hs
  | cons c s => rfl

/-- The text without its carriage returns has the segments of the text without theirs. -/
theorem segments_withoutReturns (strategy : Strategy) (h : ReturnsPaired s) :
    strategy.segments (withoutReturns s) = (strategy.segments s).map Segment.withoutReturns := by
  cases strategy with
  | php => rw [Strategy.segments, Strategy.segments, startMode_withoutReturns h, scan_withoutReturns _ h]
  | raw =>
    by_cases hs : s = []
    · subst hs
      rfl
    · rw [segments_raw_of_ne_nil hs, segments_raw_of_ne_nil (mt (withoutReturns_eq_nil_iff h).mp hs)]
      rfl

end BracketSpacing
