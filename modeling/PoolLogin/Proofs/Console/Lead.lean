import PoolLogin.Proofs.Console.Plain

/-! How lines start on the console. Plain words at the start of a text stay
there whatever follows them: it may be broken off and cut, but not before the
words have their places. -/

namespace PoolLogin

namespace Text

/-! ### Cutting -/

/-- A plain character is a cluster of its own, whatever comes before it. -/
theorem Cluster.behind_of_plain (current : Cluster) (last : Option Char) {c : Char} (h : IsPlain c)
    (rest : Text) :
    behind current last (c :: rest) = current :: behind ⟨[c], 1⟩ (some c) rest := by
  have hWidth : cellWidth c = 1 := Console.cellWidth_of_plain h
  have hJoiner : c ≠ joiner := h.ne (by decide)
  have hSelector : c ≠ pictureSelector := h.ne (by decide)
  cases rest with
  | nil => simp [behind, hJoiner, hSelector, hWidth]
  | cons d rest => simp [behind, hJoiner, hSelector, hWidth]

/-- What follows a cluster can add characters to it, but hardly any cells. -/
theorem Cluster.exists_behind (current : Cluster) (last : Option Char) (text : Text) :
    ∃ first others, behind current last text = first :: others ∧
      current.text <+: first.text ∧
      first.size ≤ current.size + if last.any hasWiderPicture then 1 else 0 := by
  fun_induction behind current last text with
  | case1 current last => exact ⟨current, [], rfl, List.prefix_rfl, Nat.le_add_right _ _⟩
  | case2 current last =>
      exact ⟨_, [], rfl, List.prefix_append _ _, Nat.le_add_right _ _⟩
  | case3 current last h => exact ⟨_, [], rfl, List.prefix_append _ _, Nat.le_refl _⟩
  | case4 current last c hJoiner hSelector hWidth =>
      exact ⟨_, [], rfl, List.prefix_append _ _, Nat.le_add_right _ _⟩
  | case5 current last c hJoiner hSelector hWidth =>
      exact ⟨current, _, rfl, List.prefix_rfl, Nat.le_add_right _ _⟩
  | case6 current last d rest ih =>
      obtain ⟨first, others, hEq, hText, hSize⟩ := ih
      exact ⟨first, others, hEq, (List.prefix_append _ _).trans hText, hSize⟩
  | case7 current last d rest hJoiner ih =>
      obtain ⟨first, others, hEq, hText, hSize⟩ := ih
      refine ⟨first, others, hEq, (List.prefix_append _ _).trans hText, ?_⟩
      cases hWider : last.any hasWiderPicture <;> simp_all [select]
  | case8 current last c d rest hJoiner hSelector hWidth ih =>
      obtain ⟨first, others, hEq, hText, hSize⟩ := ih
      exact ⟨first, others, hEq, (List.prefix_append _ _).trans hText, hSize⟩
  | case9 current last c d rest hJoiner hSelector hWidth ih =>
      exact ⟨current, _, rfl, List.prefix_rfl, Nat.le_add_right _ _⟩

theorem Cluster.isPrefix_take {c : Char} {lead : Text} (h : ∀ d ∈ lead, IsPlain d) (rest : Text)
    {limit : Nat} (hLimit : lead.length + 1 < limit) :
    c :: lead <+: take limit (behind ⟨[c], 1⟩ (some c) (lead ++ rest)) := by
  induction lead generalizing c limit with
  | nil =>
      obtain ⟨first, others, hBehind, hText, hSize⟩ := exists_behind ⟨[c], 1⟩ (some c) rest
      have hFits : first.size ≤ limit := by
        simp only at hSize
        rw [List.length_nil] at hLimit
        split_ifs at hSize <;> omega
      rw [List.nil_append, hBehind, take, if_neg (by omega), if_pos hFits]
      exact hText.trans (List.prefix_append _ _)
  | cons d lead ih =>
      rw [List.length_cons] at hLimit
      rw [List.cons_append, behind_of_plain _ _ (h d List.mem_cons_self), take, if_neg (by omega),
        if_pos (show 1 ≤ limit by omega)]
      exact (List.prefix_cons_inj c).mpr
        (ih (fun e he => h e (List.mem_cons_of_mem d he))
          (show lead.length + 1 < limit - 1 by omega))

/-- A plain start that is narrower than the width stays when a text is made to take it. -/
theorem isPrefix_of_setCells {lead rest shown : Text} (h : ∀ c ∈ lead, IsPlain c) {width : Nat}
    (hWidth : lead.length < width) (hShown : setCells width (lead ++ rest) = .ok shown) :
    lead <+: shown := by
  simp only [setCells] at hShown
  split_ifs at hShown
  · cases hShown
    rw [List.append_assoc]
    exact List.prefix_append _ _
  · simp only [cutCells] at hShown
    split_ifs at hShown
    · omega
    · cases hShown
      cases lead with
      | nil => exact List.nil_prefix
      | cons c lead =>
          have hc := h c List.mem_cons_self
          have hOne := Console.cellWidth_of_plain hc
          rw [List.cons_append, Cluster.ofText, if_neg, hOne]
          · exact Cluster.isPrefix_take (fun d hd => h d (List.mem_cons_of_mem c hd)) rest hWidth
          · rw [hOne]
            rintro (hJoiner | hSelector | hZero)
            · exact hc.ne (by decide) hJoiner
            · exact hc.ne (by decide) hSelector
            · cases hZero

end Text

namespace Console

open Text

theorem isPrefix_of_fit {lead rest shown : Text} (h : ∀ c ∈ lead, IsPlain c) {width : Nat}
    (hWidth : lead.length < width) (hShown : fit .fold width (lead ++ rest) = .ok shown) :
    lead <+: shown := by
  rw [fit] at hShown
  split_ifs at hShown
  · cases hShown
    exact List.prefix_append _ _
  · exact isPrefix_of_setCells h hWidth hShown

/-- A plain start that is narrower than the width stays when pieces are cut. -/
theorem isPrefix_of_cropFrom {lead : Text} (h : ∀ c ∈ lead, IsPlain c) {width used : Nat}
    (hWidth : used + lead.length < width) {pieces shown : List Text}
    (hLead : lead <+: pieces.flatten) (hShown : cropFrom width used pieces = .ok shown) :
    lead <+: shown.flatten := by
  induction pieces generalizing lead used shown with
  | nil =>
      rw [List.prefix_nil.mp hLead]
      exact List.nil_prefix
  | cons piece pieces ih =>
      rw [List.flatten_cons] at hLead
      rw [cropFrom] at hShown
      rcases List.prefix_or_prefix_of_prefix hLead (List.prefix_append piece pieces.flatten) with
        ⟨rest, rfl⟩ | ⟨later, rfl⟩
      · -- The start lies within the first piece.
        split_ifs at hShown
        · obtain ⟨others, _, hShown⟩ := Action.exists_of_bind_ok hShown
          cases hShown
          rw [List.flatten_cons, List.append_assoc]
          exact List.prefix_append _ _
        · obtain ⟨cut, hCut, hShown⟩ := Action.exists_of_bind_ok hShown
          cases hShown
          rw [List.flatten_singleton]
          exact isPrefix_of_setCells h (by omega) hCut
      · -- The first piece lies within the start, so it fits.
        have hPiece : ∀ c ∈ piece, IsPlain c := fun c hc => h c (List.mem_append_left later hc)
        have hLater : ∀ c ∈ later, IsPlain c := fun c hc => h c (List.mem_append_right piece hc)
        rw [List.length_append] at hWidth
        rw [cells_of_plain hPiece, if_pos (by omega)] at hShown
        obtain ⟨others, hOthers, hShown⟩ := Action.exists_of_bind_ok hShown
        cases hShown
        rw [List.flatten_cons, List.prefix_append_right_inj]
        exact ih hLater (by omega) ((List.prefix_append_right_inj piece).mp hLead) hOthers

theorem isPrefix_of_crop {lead : Text} (h : ∀ c ∈ lead, IsPlain c) {width : Nat}
    (hWidth : lead.length < width) {pieces shown : List Text} (hLead : lead <+: pieces.flatten)
    (hShown : crop width pieces = .ok shown) : lead <+: shown.flatten := by
  rw [crop] at hShown
  split_ifs at hShown
  · cases hShown
    exact hLead
  · exact isPrefix_of_cropFrom h (by omega) hLead hShown

/-! ### Words -/

theorem wordsFrom_append_blank (fuel : Nat) {word : Text} (hSome : word ≠ [])
    (hInk : ∀ c ∈ word, isBlank c = false) (rest : Text) :
    wordsFrom (fuel + 1) (word ++ ' ' :: rest) =
      (word ++ ' ' :: rest.takeWhile isBlank) :: wordsFrom fuel (rest.dropWhile isBlank) := by
  obtain ⟨c, later, rfl⟩ := List.exists_cons_of_ne_nil hSome
  have hc : isBlank c = false := hInk c List.mem_cons_self
  have hBlank : isBlank ' ' = true := by decide
  have hWord : ∀ d ∈ c :: later, (!isBlank d) = true := fun d hd => by rw [hInk d hd]; rfl
  simp only [wordsFrom, List.span_eq_takeWhile_dropWhile]
  rw [List.cons_append, List.takeWhile_cons, List.dropWhile_cons, hc, if_neg Bool.false_ne_true,
    if_neg Bool.false_ne_true, ← List.cons_append, List.takeWhile_append_of_pos hWord,
    List.dropWhile_append_of_pos hWord]
  simp [hBlank]

/-- White space behind ink is all that is taken from the end of a word. -/
theorem dropTrailingBlanks_append {word blanks : Text} (hInk : ∀ c ∈ word, isBlank c = false)
    (hBlanks : ∀ c ∈ blanks, isBlank c = true) : dropTrailingBlanks (word ++ blanks) = word := by
  rw [dropTrailingBlanks, List.reverse_append,
    List.dropWhile_append_of_pos (by simpa using hBlanks)]
  cases hWord : word.reverse with
  | nil => rw [List.reverse_eq_nil_iff.mp hWord]; rfl
  | cons c later =>
      have hc : c ∈ word := List.mem_reverse.mp (by rw [hWord]; exact List.mem_cons_self)
      rw [List.dropWhile_cons, hInk c hc, if_neg Bool.false_ne_true, ← hWord, List.reverse_reverse]

/-- The words that are put on lines come behind what is on the first of them. -/
theorem exists_fill (overflow : Overflow) (width used : Nat) (line : Text) (words : List Text) :
    ∃ first others, fill overflow width used line words = first :: others ∧ line <+: first := by
  induction words generalizing used line with
  | nil => exact ⟨line, [], rfl, List.prefix_rfl⟩
  | cons word words ih =>
      have hLonger : ∀ used, ∃ first others,
          fill overflow width used (line ++ word) words = first :: others ∧ line <+: first := by
        intro used
        obtain ⟨first, others, hFill, hFirst⟩ := ih used (line ++ word)
        exact ⟨first, others, hFill, (List.prefix_append line word).trans hFirst⟩
      -- An empty line is the start of any.
      have hEmpty : ∀ lines, lines ≠ [] → line.isEmpty = true →
          ∃ first others, lines = first :: others ∧ line <+: first := by
        intro lines hSome hNone
        obtain ⟨first, others, rfl⟩ := List.exists_cons_of_ne_nil hSome
        exact ⟨first, others, rfl, by rw [List.isEmpty_iff.mp hNone]; exact List.nil_prefix⟩
      have hFill : ∀ used line, fill overflow width used line words ≠ [] := by
        intro used line hNil
        obtain ⟨first, others, hFill, _⟩ := ih used line
        cases hNil.symm.trans hFill
      cases overflow with
      | fold =>
          simp only [fill]
          split_ifs with hFits hWide hNone hFirst
          · exact hLonger _
          · exact hEmpty _ (List.append_ne_nil_of_right_ne_nil _ (hFill _ _)) hNone
          · exact ⟨line, _, rfl, List.prefix_rfl⟩
          · exact hLonger _
          · exact ⟨line, _, rfl, List.prefix_rfl⟩
      | ellipsis =>
          simp only [fill]
          split_ifs with hFits hWide hNone hFirst
          · exact hLonger _
          · exact hEmpty _ (hFill _ _) hNone
          · exact ⟨line, _, rfl, List.prefix_rfl⟩
          · exact hLonger _
          · exact ⟨line, _, rfl, List.prefix_rfl⟩

/-- A plain word: printable characters of ASCII other than the blank, and at least one of them. -/
structure IsPlainWord (word : Text) : Prop where
  some : word ≠ []
  ink : ∀ c ∈ word, IsPlain c ∧ c ≠ ' '

theorem isBlank_of_ink {c : Char} (h : IsPlain c ∧ c ≠ ' ') : isBlank c = false := by
  obtain ⟨⟨hLow, hHigh⟩, hBlank⟩ := h
  have hNumber : c.toNat ≠ 32 := fun hEq => hBlank (Char.toNat_inj.mp hEq)
  simp only [isBlank, Bool.or_eq_false_iff, Bool.and_eq_false_iff, decide_eq_false_iff_not,
    beq_eq_false_iff_ne]
  omega

/-- Plain words with a blank behind each. -/
def spaced (words : List Text) : Text := words.flatMap (· ++ [' '])

theorem spaced_cons (word : Text) (words : List Text) (rest : Text) :
    spaced (word :: words) ++ rest = word ++ ' ' :: (spaced words ++ rest) := by
  simp [spaced]

theorem spaced_concat (words : List Text) (last rest : Text) :
    spaced (words ++ [last]) ++ rest = spaced words ++ (last ++ ' ' :: rest) := by
  simp [spaced]

theorem isPlain_spaced {words : List Text} (hWords : ∀ word ∈ words, IsPlainWord word) :
    ∀ c ∈ spaced words, IsPlain c := by
  intro c hc
  obtain ⟨word, hWord, hMem⟩ := List.mem_flatMap.mp hc
  rcases List.mem_append.mp hMem with hInk | hBlank
  · exact ((hWords word hWord).ink c hInk).1
  · rw [List.mem_singleton.mp hBlank]
    decide

theorem length_le_length_spaced (words : List Text) : words.length ≤ (spaced words).length := by
  induction words with
  | nil => exact Nat.le_refl 0
  | cons word words ih =>
      have hCons := congrArg List.length (spaced_cons word words [])
      simp only [List.append_nil, List.length_append, List.length_cons] at hCons ⊢
      omega

/-- A text that starts with ink has no white space in front of it. -/
theorem takeWhile_isBlank_eq_nil {word : Text} (hSome : word ≠ [])
    (hInk : ∀ c ∈ word, isBlank c = false) (rest : Text) :
    (word ++ rest).takeWhile isBlank = [] ∧ (word ++ rest).dropWhile isBlank = word ++ rest := by
  obtain ⟨c, later, rfl⟩ := List.exists_cons_of_ne_nil hSome
  simp [hInk c List.mem_cons_self]

/-- Plain words are words of their own, whatever ink follows them. -/
theorem wordsFrom_spaced {words : List Text} (hWords : ∀ word ∈ words, IsPlainWord word)
    {rest : Text} (hRest : rest.takeWhile isBlank = [] ∧ rest.dropWhile isBlank = rest)
    {fuel : Nat} (hFuel : words.length ≤ fuel) :
    wordsFrom fuel (spaced words ++ rest) =
      words.map (· ++ [' ']) ++ wordsFrom (fuel - words.length) rest := by
  induction words generalizing fuel with
  | nil => rfl
  | cons word words ih =>
      obtain ⟨n, rfl⟩ : ∃ n, fuel = n + 1 := ⟨fuel - 1, by rw [List.length_cons] at hFuel; omega⟩
      have hWord := hWords word List.mem_cons_self
      have hLater : ∀ other ∈ words, IsPlainWord other :=
        fun other hOther => hWords other (List.mem_cons_of_mem word hOther)
      obtain ⟨hTake, hDrop⟩ : (spaced words ++ rest).takeWhile isBlank = [] ∧
          (spaced words ++ rest).dropWhile isBlank = spaced words ++ rest := by
        cases words with
        | nil => exact hRest
        | cons next words =>
            have hNext := hLater next List.mem_cons_self
            rw [spaced_cons]
            exact takeWhile_isBlank_eq_nil hNext.some
              (fun c hc => isBlank_of_ink (hNext.ink c hc)) _
      rw [spaced_cons, wordsFrom_append_blank n hWord.some
        (fun c hc => isBlank_of_ink (hWord.ink c hc)), hTake, hDrop,
        ih hLater (Nat.le_of_succ_le_succ hFuel), List.length_cons, Nat.add_sub_add_right]
      rfl

/-- The start of a text is what its first words are, without the blank behind the last of them. -/
theorem joinWith_concat (words : List Text) (last : Text) :
    joinWith [' '] (words ++ [last]) = spaced words ++ last := by
  induction words with
  | nil => rfl
  | cons word words ih =>
      obtain ⟨second, others, hRest⟩ := List.exists_cons_of_ne_nil
        (List.append_ne_nil_of_right_ne_nil words (List.cons_ne_nil last []))
      rw [List.cons_append, hRest, joinWith_cons_cons, ← hRest, ih, spaced_cons]
      simp

/-- Plain words stay on lines on which they fit. -/
theorem fill_spaced {overflow : Overflow} {width used : Nat} {line : Text} {words : List Text}
    (hWords : ∀ word ∈ words, IsPlainWord word) (hFits : used + (spaced words).length ≤ width)
    (more : List Text) :
    fill overflow width used line (words.map (· ++ [' ']) ++ more) =
      fill overflow width (used + (spaced words).length) (line ++ spaced words) more := by
  have hFlatten : (words.map (· ++ [' '])).flatten = spaced words := List.flatMap_def.symm
  rw [← hFlatten] at hFits ⊢
  apply fill_append_of_fits _ hFits
  intro word hWord c hc
  apply isPlain_spaced hWords
  rw [← hFlatten]
  exact List.mem_flatten.mpr ⟨word, hWord, hc⟩

/-- Plain words that fit stay on the first line, whatever follows them. -/
theorem isPrefix_of_fill {overflow : Overflow} {width used fuel : Nat} {line rest : Text}
    {words : List Text} (hWords : ∀ word ∈ words, IsPlainWord word) (hFuel : words.length ≤ fuel)
    (hFits : used + (spaced words).length ≤ width) :
    ∃ first others, fill overflow width used line (wordsFrom fuel (spaced words ++ rest)) =
      first :: others ∧ line ++ joinWith [' '] words <+: first := by
  rcases List.eq_nil_or_concat words with rfl | ⟨words, last, rfl⟩
  · obtain ⟨first, others, hFill, hFirst⟩ := exists_fill overflow width used line
      (wordsFrom fuel (spaced [] ++ rest))
    exact ⟨first, others, hFill, by rwa [joinWith_nil, List.append_nil]⟩
  rw [List.concat_eq_append] at hWords hFuel hFits ⊢
  obtain ⟨hInit, hLast⟩ := List.forall_mem_append.mp hWords
  have hLast := hLast last List.mem_cons_self
  have hInk : ∀ c ∈ last, isBlank c = false := fun c hc => isBlank_of_ink (hLast.ink c hc)
  have hLength : (spaced (words ++ [last])).length =
      (spaced words).length + (last.length + 1) := by
    have hConcat := congrArg List.length (spaced_concat words last [])
    simpa using hConcat
  rw [List.length_append, List.length_singleton] at hFuel
  obtain ⟨n, hn⟩ : ∃ n, fuel - words.length = n + 1 := ⟨fuel - words.length - 1, by omega⟩
  -- White space behind the last word is no part of it, so it fits.
  have hTrimmed : dropTrailingBlanks (last ++ ' ' :: rest.takeWhile isBlank) = last := by
    apply dropTrailingBlanks_append hInk
    rw [List.forall_mem_cons]
    exact ⟨by decide, fun c hc => List.mem_takeWhile_imp hc⟩
  rw [spaced_concat, wordsFrom_spaced hInit (takeWhile_isBlank_eq_nil hLast.some hInk _)
    (by omega), hn, wordsFrom_append_blank n hLast.some hInk, fill_spaced hInit (by omega)]
  simp only [fill, hTrimmed, cells_of_plain fun c hc => (hLast.ink c hc).1]
  rw [if_pos ⟨by omega, by omega⟩]
  obtain ⟨first, others, hFill, hFirst⟩ := exists_fill overflow width
    (used + (spaced words).length + cells (last ++ ' ' :: rest.takeWhile isBlank))
    (line ++ spaced words ++ (last ++ ' ' :: rest.takeWhile isBlank))
    (wordsFrom n (rest.dropWhile isBlank))
  refine ⟨first, others, hFill, ?_⟩
  rw [joinWith_concat, ← List.append_assoc]
  rw [← List.append_assoc] at hFirst
  exact (List.prefix_append _ _).trans hFirst

/-! ### Lines -/

section

variable {α : Type} {char : α → Char} {blank : α}

theorem exists_splitAt_append {isSeparator : α → Bool} {before : List α}
    (h : ∀ a ∈ before, isSeparator a = false) (rest : List α) :
    ∃ part parts, splitAt isSeparator (before ++ rest) = (before ++ part) :: parts := by
  induction before with
  | nil =>
      obtain ⟨part, parts, hSplit⟩ := List.exists_cons_of_ne_nil (splitAt_ne_nil isSeparator rest)
      exact ⟨part, parts, hSplit⟩
  | cons a before ih =>
      obtain ⟨part, parts, hSplit⟩ := ih fun b hb => h b (List.mem_cons_of_mem a hb)
      obtain ⟨first, others, hRest, hCons⟩ :=
        splitAt_cons_of_false (h a List.mem_cons_self) (before ++ rest)
      rw [hSplit] at hRest
      cases hRest
      exact ⟨part, parts, hCons⟩

/-- Nothing changes in front of the first tab. -/
theorem exists_expandTabsIn_append {before : List α} (h : ∀ a ∈ before, char a ≠ '\t')
    (rest : List α) :
    ∃ later, expandTabsIn char blank (before ++ rest) = before ++ later := by
  have hStays : ∀ a ∈ before, (char a == '\t') = false :=
    fun a ha => beq_eq_false_iff_ne.mpr (h a ha)
  obtain ⟨part, parts, hSplit⟩ := exists_splitAt_append hStays rest
  rw [expandTabsIn, hSplit]
  cases parts with
  | nil => exact ⟨part, rfl⟩
  | cons next parts =>
      simp only [expandParts, List.append_assoc]
      exact ⟨_, rfl⟩

end

theorem joinWith_append_blank {words : List Text} (hSome : words ≠ []) :
    joinWith [' '] words ++ [' '] = spaced words := by
  rw [← List.dropLast_concat_getLast hSome, joinWith_concat]
  simp [spaced]

theorem isPlain_joinWith {words : List Text} (hWords : ∀ word ∈ words, IsPlainWord word) :
    ∀ c ∈ joinWith [' '] words, IsPlain c := by
  intro c hc
  rcases mem_joinWith hc with hBlank | ⟨word, hWord, hMem⟩
  · rw [List.mem_singleton.mp hBlank]
    decide
  · exact ((hWords word hWord).ink c hMem).1

/-- Words end in ink. -/
theorem exists_joinWith_eq {words : List Text} (hWords : ∀ word ∈ words, IsPlainWord word)
    (hSome : words ≠ []) :
    ∃ before c, joinWith [' '] words = before ++ [c] ∧ isBlank c = false := by
  have hLast := hWords _ (List.getLast_mem hSome)
  rw [← List.dropLast_concat_getLast hSome, joinWith_concat,
    ← List.dropLast_concat_getLast hLast.some, ← List.append_assoc]
  exact ⟨_, _, rfl, isBlank_of_ink (hLast.ink _ (List.getLast_mem hLast.some))⟩

section

variable {words : List Text} (hWords : ∀ word ∈ words, IsPlainWord word) (hSome : words ≠ [])

include hWords hSome

theorem isPrefix_of_breakLine {overflow : Overflow} {width : Nat}
    (hFits : (spaced words).length ≤ width) (rest : Text) :
    ∃ first others, breakLine overflow width (spaced words ++ rest) = first :: others ∧
      joinWith [' '] words <+: first := by
  have hFuel : words.length ≤ (spaced words ++ rest).length := by
    have hLength := length_le_length_spaced words
    rw [List.length_append]
    omega
  obtain ⟨first, others, hFill, hFirst⟩ : ∃ first others,
      fill overflow width 0 [] (Console.words (spaced words ++ rest)) = first :: others ∧
        [] ++ joinWith [' '] words <+: first :=
    isPrefix_of_fill hWords hFuel (by omega)
  refine ⟨first, others, ?_, hFirst⟩
  rw [breakLine]
  split
  · next hNone =>
      obtain ⟨word, later, rfl⟩ := List.exists_cons_of_ne_nil hSome
      obtain ⟨n, hn⟩ : ∃ n, (spaced (word :: later) ++ rest).length = n + 1 :=
        Nat.exists_eq_succ_of_ne_zero (by rw [List.length_cons] at hFuel; omega)
      have hWord := hWords word List.mem_cons_self
      rw [Console.words, hn, spaced_cons, wordsFrom_append_blank n hWord.some
        fun c hc => isBlank_of_ink (hWord.ink c hc)] at hNone
      cases hNone
  · exact hFill

/-- Words stay when white space at the end of a line is taken away. -/
theorem isPrefix_dropExcessBlanks {width : Nat} {line : Text}
    (hLine : joinWith [' '] words <+: line) :
    joinWith [' '] words <+: dropExcessBlanks width line := by
  obtain ⟨before, c, hJoin, hc⟩ := exists_joinWith_eq hWords hSome
  have hInk : (joinWith [' '] words).length ≤ (dropTrailingBlanks line).length := by
    obtain ⟨rest, rfl⟩ := hLine
    rw [dropTrailingBlanks, List.length_reverse, hJoin, List.append_assoc, List.reverse_append,
      List.reverse_append, List.reverse_singleton, List.append_assoc, List.dropWhile_append]
    split_ifs
    · simp [hc]
    · simp
  have hShorter := length_dropTrailingBlanks_le line
  simp only [dropExcessBlanks]
  exact List.prefix_take_iff.mpr ⟨hLine, by omega⟩

omit hWords hSome in
/-- What stands beside at least as many flags stays where they are put beside it. -/
theorem isPrefix_map_fst_zip {lead ending : Text} {flags : List Bool}
    (h : lead.length ≤ flags.length) : lead <+: ((lead ++ ending).zip flags).map (·.1) := by
  have hLength : lead.length = (flags.take lead.length).length := by
    rw [List.length_take, Nat.min_eq_left h]
  rw [← List.take_append_drop lead.length flags, List.zip_append hLength, List.map_append,
    List.map_fst_zip (Nat.le_of_eq hLength)]
  exact List.prefix_append _ _

/-- Words at the start of a portion stay there when it is cut. -/
theorem isPrefix_of_shown (hFits : (spaced words).length ≤ lineWidth)
    {portion : List (Char × Bool)} (hLead : joinWith [' '] words <+: portion.map (·.1))
    {shown : Text}
    (hShown : (do
      let text ← fit .fold lineWidth (dropExcessBlanks lineWidth (portion.map (·.1)))
      return (← crop lineWidth (pieces (text.zip (portion.map (·.2))))).flatten) =
        Except.ok shown) :
    joinWith [' '] words <+: shown := by
  have hPlain := isPlain_joinWith hWords
  have hShort : (joinWith [' '] words).length < lineWidth := by
    rw [← joinWith_append_blank hSome, List.length_append, List.length_singleton] at hFits
    exact hFits
  obtain ⟨text, hText, hShown⟩ := Action.exists_of_bind_ok hShown
  obtain ⟨cropped, hCropped, hShown⟩ := Action.exists_of_bind_ok hShown
  cases hShown
  obtain ⟨kept, hKept⟩ : joinWith [' '] words <+:
      dropExcessBlanks lineWidth (portion.map (·.1)) :=
    isPrefix_dropExcessBlanks hWords hSome hLead
  rw [← hKept] at hText
  obtain ⟨ending, rfl⟩ := isPrefix_of_fit hPlain hShort hText
  apply isPrefix_of_crop hPlain hShort _ hCropped
  rw [flatten_pieces]
  apply isPrefix_map_fst_zip
  have hLength := hLead.length_le
  rwa [List.length_map] at hLength ⊢

/-- The first of the lines that a line is broken into starts with the words that the line starts
with. -/
theorem isPrefix_of_wrapLine (hFits : (spaced words).length ≤ lineWidth)
    {line : List (Char × Bool)} {rest : Text} (hLine : line.map (·.1) = spaced words ++ rest)
    {shown : List Text} (hShown : wrapLine line = .ok shown) :
    ∃ first others, shown = first :: others ∧ joinWith [' '] words <+: first := by
  -- The words are in front of all tabs.
  obtain ⟨before, after, rfl, hBefore, _⟩ := List.map_eq_append_iff.mp hLine
  have hStays : ∀ a ∈ before, a.1 ≠ '\t' := by
    intro a ha
    refine (isPlain_spaced hWords a.1 ?_).ne (by decide)
    rw [← hBefore]
    exact List.mem_map_of_mem ha
  obtain ⟨later, hExpanded⟩ : ∃ later,
      expandTabsIn Prod.fst (' ', false) (before ++ after) = before ++ later :=
    exists_expandTabsIn_append hStays after
  obtain ⟨broken, others, hBroken, hFirst⟩ : ∃ first others,
      breakLine .fold lineWidth (spaced words ++ later.map (·.1)) = first :: others ∧
        joinWith [' '] words <+: first :=
    isPrefix_of_breakLine hWords hSome hFits (later.map (·.1))
  simp only [wrapLine, hExpanded, List.map_append, hBefore, hBroken, List.map_cons, portions]
    at hShown
  rw [Action.mapM_eq_ok_iff, List.forall₂_cons_left_iff] at hShown
  obtain ⟨first, rest, hWrapped, _, rfl⟩ := hShown
  refine ⟨first, rest, rfl, isPrefix_of_shown hWords hSome hFits ?_ hWrapped⟩
  rw [List.map_take, List.prefix_take_iff, List.map_append, hBefore,
    ← joinWith_append_blank hSome, List.append_assoc]
  exact ⟨List.prefix_append _ _, hFirst.length_le⟩

end

/-- A text that starts with plain words is printed with these words at its start, unless they
alone are too wide for a line. -/
theorem isPrefix_of_printWrapped {words : List Text} (hWords : ∀ word ∈ words, IsPlainWord word)
    (hSome : words ≠ []) (hFits : (spaced words).length ≤ lineWidth) {rest shown : Text}
    (hShown : printWrapped (spaced words ++ rest) = .ok shown) :
    joinWith [' '] words <+: shown := by
  have hPlain := isPlain_spaced hWords
  have hControls : dropControls (spaced words ++ rest) = spaced words ++ dropControls rest := by
    rw [dropControls, List.filter_append]
    congr 1
    exact dropControls_of_shown fun c hc => isShown_of_le (hPlain c hc).1
  obtain ⟨before, after, hCuts, hBefore, _⟩ := List.map_eq_append_iff.mp
    (map_cuts (spaced words ++ dropControls rest))
  have hStays : ∀ a ∈ before, (a.1 == '\n') = false := by
    intro a ha
    have hMem : a.1 ∈ spaced words := by
      rw [← hBefore]
      exact List.mem_map_of_mem ha
    exact beq_eq_false_iff_ne.mpr ((hPlain _ hMem).ne (by decide))
  obtain ⟨part, parts, hSplit⟩ := exists_splitAt_append hStays after
  simp only [printWrapped, hControls, hCuts, hSplit] at hShown
  obtain ⟨lines, hLines, hShown⟩ := Action.exists_of_bind_ok hShown
  cases hShown
  rw [Action.mapM_eq_ok_iff, List.forall₂_cons_left_iff] at hLines
  obtain ⟨wrapped, others, hWrapped, _, rfl⟩ := hLines
  have hLine : (before ++ part).map (·.1) = spaced words ++ part.map (·.1) := by
    rw [List.map_append, hBefore]
  obtain ⟨first, later, rfl, hFirst⟩ := isPrefix_of_wrapLine hWords hSome hFits hLine hWrapped
  refine hFirst.trans ?_
  rw [List.flatten_cons, List.cons_append]
  cases later ++ others.flatten with
  | nil => exact List.prefix_append _ _
  | cons next lines =>
      rw [joinWith_cons_cons]
      simp only [List.append_assoc]
      exact List.prefix_append _ _

end Console

end PoolLogin
