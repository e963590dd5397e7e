import PoolLogin.Proofs.Yaml.Plain
import PoolLogin.Proofs.Yaml.Quoted
import PoolLogin.Yaml.Token.Lexer

/-! Tokens of YAML between brackets, as JSON writes them. Outside all blocks no key
has to come, so nothing that the lexer remembers of keys can fail. -/

namespace PoolLogin.Yaml.Lexer

/-- Blanks and newlines. -/
def IsGapText (gap : Text) : Prop := ∀ c ∈ gap, c = ' ' ∨ c = '\n'

theorem isGapText_nil : IsGapText [] := by simp [IsGapText]

/-- The characters that the tokens of JSON without numbers and truth values start with. -/
def StartsToken (c : Char) : Prop := c ∈ "[]\x7b\x7d,:\"n".toList

instance (c : Char) : Decidable (StartsToken c) := inferInstanceAs (Decidable (_ ∈ _))

theorem StartsToken.ne {c : Char} (h : StartsToken c) :
    isBreak c = false ∧ c ≠ ' ' ∧ c ≠ '\n' ∧ c ≠ '#' ∧ c ≠ '%' ∧ c ≠ '-' ∧ c ≠ '.' := by
  have hAll : "[]\x7b\x7d,:\"n".toList.all (fun c => decide (isBreak c = false ∧
      c ≠ ' ' ∧ c ≠ '\n' ∧ c ≠ '#' ∧ c ≠ '%' ∧ c ≠ '-' ∧ c ≠ '.')) = true := by
    decide
  exact of_decide_eq_true (List.all_eq_true.mp hAll c h)

/-! ### States -/

namespace State

variable {s : State}

/-- Whether a key may still have started there. -/
def isRecent (s : State) (c : Candidate) : Bool := !(c.line != s.line || c.index + 1024 < s.index)

/-- The state without the candidates that the text has left behind. -/
def fresh (s : State) : State := { s with candidates := s.candidates.filter s.isRecent }

theorem unwind_of_indents (h : s.indents = []) (column : Option Nat) : s.unwind column = s := by
  rw [unwind, h]
  split_ifs
  · rfl
  · cases s
    subst h
    rfl

section

variable (h : ∀ c ∈ s.candidates, c.required = false)

include h

theorem dropStale_eq : s.dropStale = .ok s.fresh := by
  rw [dropStale, if_neg]
  · rfl
  · simp only [List.any_eq_true, not_exists, not_and]
    intro c hc hRequired
    simp [h c hc] at hRequired

theorem dropCandidate_eq : s.dropCandidate = .ok { s with
    candidates := s.candidates.filter fun c => c.depth != s.depth } := by
  rw [dropCandidate, if_neg]
  simp only [List.any_eq_true, not_exists, not_and]
  intro c hc hRequired
  simp [h c hc] at hRequired

theorem addCandidate_eq (hKey : s.keyAllowed = true) (hIndents : s.indents = []) :
    s.addCandidate = .ok { s with
      candidates :=
        { depth := s.depth, tokens := s.count, index := s.index, line := s.line
          column := s.column, required := false } ::
          s.candidates.filter fun c => c.depth != s.depth } := by
  have hRequired : (!s.inFlow && s.indents.head? == some s.column) = false := by
    simp [hIndents]
  rw [addCandidate, if_pos hKey, dropCandidate_eq h]
  simp only [hRequired]
  rfl

end

theorem step_rest (s : State) (c : Char) (others : Text) : (s.step c others).rest = others := by
  rw [State.step]
  split_ifs <;> rfl

/-- What lies behind is passed over, and only a line break in it leaves the line. -/
theorem advance_append (s : State) {passed rest : Text} (h : s.rest = passed ++ rest) :
    ∃ line column, s.advance passed.length =
        { s with rest, index := s.index + passed.length, line, column } ∧
      ((∀ c ∈ passed, isBreak c = false) → line = s.line) := by
  induction passed generalizing s with
  | nil =>
      refine ⟨s.line, s.column, ?_, fun _ => rfl⟩
      obtain rfl : s.rest = rest := h
      rfl
  | cons c passed ih =>
      obtain ⟨line, column, hEq, hLine⟩ := ih _ (s.step_rest c (passed ++ rest))
      refine ⟨line, column, ?_, ?_⟩
      · rw [List.length_cons, advance, h]
        change (s.step c (passed ++ rest)).advance passed.length = _
        have hIndex : (s.step c (passed ++ rest)).index = s.index + 1 := by
          rw [step]
          split_ifs <;> rfl
        rw [hEq, hIndex, Nat.add_assoc, Nat.add_comm 1, step]
        split_ifs <;> rfl
      · intro hBreak
        rw [hLine fun d hd => hBreak d (List.mem_cons_of_mem c hd), step,
          hBreak c List.mem_cons_self, if_neg Bool.false_ne_true]

end State

/-- Where the lexer stands outside all blocks: the open brackets, the tokens so far, whether a key
may start, and what is left, in front of which gaps may be passed over already. -/
structure Stands (s : State) (depth : Nat) (found : List Token) (ready : Bool) (rest : Text) :
    Prop where
  depth_eq : s.depth = depth
  tokens_eq : s.tokens = found
  count_eq : s.count = found.length
  key : ready = true → s.keyAllowed = true
  rest_eq : ∃ gap, IsGapText gap ∧ rest = gap ++ s.rest
  indents_eq : s.indents = []
  required : ∀ c ∈ s.candidates, c.required = false

namespace Stands

variable {s : State} {depth : Nat} {found : List Token} {ready : Bool} {rest : Text}

/-- It does not matter which keys could have started where. -/
theorem candidates (h : Stands s depth found ready rest) {candidates : List Candidate}
    (hRequired : ∀ c ∈ candidates, c.required = false) :
    Stands { s with candidates } depth found ready rest :=
  { h with required := hRequired }

theorem filter (h : Stands s depth found ready rest) (p : Candidate → Bool) :
    Stands { s with candidates := s.candidates.filter p } depth found ready rest :=
  h.candidates fun c hc => h.required c (List.mem_filter.mp hc).1

theorem addCandidate (h : Stands s depth found ready rest) :
    ∃ t, s.addCandidate = .ok t ∧ Stands t depth found ready rest ∧ t.rest = s.rest := by
  cases hKey : s.keyAllowed with
  | false =>
      refine ⟨s, ?_, h, rfl⟩
      rw [State.addCandidate, hKey, if_neg Bool.false_ne_true]
      rfl
  | true =>
      refine ⟨_, State.addCandidate_eq h.required hKey h.indents_eq, ?_, rfl⟩
      apply h.candidates
      rw [List.forall_mem_cons]
      exact ⟨rfl, fun c hc => h.required c (List.mem_filter.mp hc).1⟩

/-- A token and the characters that it takes. -/
theorem advance_emit (h : Stands s depth found ready rest) {passed gap after : Text}
    (hRest : s.rest = passed ++ after) (hGap : IsGapText gap) (token : Token) :
    Stands ((s.advance passed.length).emit token) depth (token :: found) ready (gap ++ after) := by
  obtain ⟨line, column, hEq, _⟩ := State.advance_append s hRest
  rw [hEq]
  exact { h with
    tokens_eq := congrArg _ h.tokens_eq
    count_eq := congrArg _ h.count_eq
    rest_eq := ⟨gap, hGap, rfl⟩ }

/-- The depth and whether a key may start are set by the token that is read. -/
theorem depth_key (h : Stands s depth found ready rest) {deeper after : Nat}
    (hDepth : deeper = after) (allowed : Bool) :
    Stands { s with depth := deeper, keyAllowed := allowed } after found allowed rest :=
  { h with depth_eq := hDepth, key := id }

theorem here (h : Stands s depth found ready rest) : Stands s depth found ready s.rest :=
  { h with rest_eq := ⟨[], isGapText_nil, rfl⟩ }

theorem length_rest_le (h : Stands s depth found ready rest) : s.rest.length ≤ rest.length := by
  obtain ⟨gap, _, hRest⟩ := h.rest_eq
  rw [hRest, List.length_append]
  omega

/-- If a token starts next, only gaps lie in front of it. -/
theorem exists_gap {gap : Text} {c : Char} (h : Stands s depth found ready (gap ++ c :: rest))
    (hGap : IsGapText gap) (hc : StartsToken c) :
    ∃ left, IsGapText left ∧ s.rest = left ++ c :: rest := by
  obtain ⟨passed, hPassed, hRest⟩ := h.rest_eq
  rcases List.append_eq_append_iff.mp hRest with ⟨left, hLeft, hEq⟩ | ⟨left, hLeft, hEq⟩
  · cases left with
    | nil => exact ⟨[], by simp [IsGapText], hEq.symm⟩
    | cons d left =>
        -- The token would start in the gap.
        obtain ⟨rfl, _⟩ := List.cons.inj hEq
        have hMem : c ∈ passed := hLeft ▸ List.mem_append_right gap List.mem_cons_self
        obtain ⟨_, hBlank, hNewline, _⟩ := hc.ne
        exact absurd (hPassed c hMem) (by simp [hBlank, hNewline])
  · refine ⟨left, ?_, hEq⟩
    intro d hd
    exact hGap d (hLeft ▸ List.mem_append_right passed hd)

/-- One character on, whatever it is. -/
theorem step {c : Char} {others : Text} (h : Stands s depth found ready rest) :
    Stands (s.step c others) depth found ready others := by
  rw [State.step]
  split_ifs
  all_goals exact { h with rest_eq := ⟨[], isGapText_nil, rfl⟩ }

theorem keyAllowed (h : Stands s depth found ready rest) {after allowed : Bool}
    (hAllowed : after = true → allowed = true) :
    Stands { s with keyAllowed := allowed } depth found after rest :=
  { h with key := hAllowed }

/-- Gaps are skipped. -/
theorem skipGaps_append {left more : Text} (h : Stands s depth found ready (left ++ more))
    (hLeft : IsGapText left) (hRest : s.rest = left ++ more) :
    ∃ t, State.skipGaps false s (left ++ more) = State.skipGaps false t more ∧
      Stands t depth found ready more ∧ t.rest = more := by
  induction left generalizing s with
  | nil => exact ⟨s, rfl, h, hRest⟩
  | cons d left ih =>
      obtain ⟨hd, hOthers⟩ := List.forall_mem_cons.mp hLeft
      rcases hd with rfl | rfl
      · exact ih h.step hOthers (State.step_rest _ _ _)
      · have hAllowed : ready = true → (s.keyAllowed || !s.inFlow) = true := by
          intro hReady
          rw [h.key hReady, Bool.true_or]
        exact ih (h.step.keyAllowed hAllowed) hOthers (State.step_rest s _ _)

end Stands

/-! ### Runs -/

/-- From one state the lexer comes to another, and asks for no more tokens on the way than there are
characters. -/
def Leads (s t : State) : Prop :=
  ∃ count, count + t.rest.length ≤ s.rest.length ∧
    ∀ fuel, tokens (count + fuel) s = tokens fuel t

theorem Leads.trans {s t u : State} (hFirst : Leads s t) (hSecond : Leads t u) : Leads s u := by
  obtain ⟨first, hFirst, hRun⟩ := hFirst
  obtain ⟨second, hSecond, hOthers⟩ := hSecond
  refine ⟨first + second, by omega, ?_⟩
  intro fuel
  rw [Nat.add_assoc, hRun, hOthers]

theorem Leads.of_next {s t : State} (h : next s = .ok (some t))
    (hShort : t.rest.length < s.rest.length) : Leads s t := by
  refine ⟨1, by omega, ?_⟩
  intro fuel
  rw [Nat.add_comm, tokens, h]

/-- The lexer comes to where it stands like this. -/
def Reaches (s : State) (depth : Nat) (found : List Token) (ready : Bool) (rest : Text) : Prop :=
  ∃ t, Leads s t ∧ Stands t depth found ready rest

section

variable {s : State} {depth after : Nat} {found others : List Token} {ready allowed : Bool}
  {rest more gap : Text} {c : Char}

theorem Reaches.trans (h : Reaches s depth found ready rest)
    (hNext : ∀ t, Stands t depth found ready rest → Reaches t after others allowed more) :
    Reaches s after others allowed more := by
  obtain ⟨t, hLeads, hStands⟩ := h
  obtain ⟨u, hOthers, hEnd⟩ := hNext t hStands
  exact ⟨u, hLeads.trans hOthers, hEnd⟩

theorem skipGaps_start (hc : StartsToken c) (s : State) (rest : Text) :
    State.skipGaps false s (c :: rest) = s := by
  obtain ⟨hBreak, hBlank, _, hComment, _⟩ := hc.ne
  rw [State.skipGaps, hBreak, if_neg Bool.false_ne_true, if_neg (by simp [hBlank]),
    if_neg hComment]

/-- Where a token starts, it is read. -/
theorem next_of_token (h : Stands s depth found ready (c :: rest)) (hRest : s.rest = c :: rest)
    (hc : StartsToken c) {t : State} (hToken : token s.fresh c rest = .ok t)
    (hRequired : ∀ k ∈ t.candidates, k.required = false) : next s = .ok (some t.fresh) := by
  have hUnwind : s.fresh.unwind (some s.fresh.column) = s.fresh :=
    State.unwind_of_indents (s := s.fresh) h.indents_eq _
  have hFresh : s.fresh.rest = c :: rest := hRest
  rw [next, hRest, skipGaps_start hc, State.dropStale_eq h.required]
  simp only [bind, Except.bind, hFresh, hUnwind, hToken, State.dropStale_eq hRequired]
  rfl

/-- The gap in front of a token does not count. -/
theorem exists_next_eq (h : Stands s depth found ready (gap ++ c :: rest)) (hGap : IsGapText gap)
    (hc : StartsToken c) :
    ∃ t, Stands t depth found ready (c :: rest) ∧ t.rest = c :: rest ∧ next s = next t ∧
      t.rest.length ≤ s.rest.length := by
  obtain ⟨left, hLeft, hRest⟩ := h.exists_gap hGap hc
  obtain ⟨t, hSkip, hStands, hText⟩ := (hRest ▸ h.here).skipGaps_append hLeft hRest
  refine ⟨t, hStands, hText, ?_, ?_⟩
  · rw [next, next, hRest, hText, hSkip]
  · rw [hText, hRest, List.length_append]
    omega

/-- The lexer comes on by a token, whatever it takes. -/
theorem reaches_of_token (hGap : IsGapText gap) (h : Stands s depth found ready (gap ++ c :: rest))
    (hc : StartsToken c)
    (hToken : ∀ t, Stands t depth found ready (c :: rest) → t.rest = c :: rest →
      ∃ u, token t c rest = .ok u ∧ Stands u after others allowed more)
    (hShort : more.length ≤ rest.length) : Reaches s after others allowed more := by
  obtain ⟨t, hStands, hText, hNext, hLength⟩ := exists_next_eq h hGap hc
  obtain ⟨u, hRead, hEnd⟩ := hToken t.fresh (hStands.filter _) hText
  refine ⟨u.fresh, Leads.of_next (hNext ▸ next_of_token hStands hText hc hRead hEnd.required) ?_,
    hEnd.filter _⟩
  have hRest : u.rest.length ≤ more.length := hEnd.length_rest_le
  change u.rest.length < _
  rw [hText, List.length_cons] at hLength
  omega

/-- No document ends or starts where a token starts. -/
theorem not_document (hc : StartsToken c) {t : State} (hText : t.rest = c :: rest) :
    ¬(t.column = 0 ∧ c = '%') ∧ ¬(t.column = 0 ∧ atDocumentMark '-' t.rest = true) ∧
      ¬(t.column = 0 ∧ atDocumentMark '.' t.rest = true) := by
  obtain ⟨_, _, _, _, hPercent, hDash, hDot⟩ := hc.ne
  rw [hText, atDocumentMark_of_ne hDash, atDocumentMark_of_ne hDot]
  simp [hPercent]

end

/-! ### Brackets and commas -/

/-- Two brackets and their tokens. -/
structure Brackets where
  opening : Char
  closing : Char
  start : Token
  stop : Token
  startsToken : StartsToken opening ∧ StartsToken closing
  closing_eq : closing = ']' ∨ closing = '\x7d'
  token_opening : ∀ {s : State} {rest : Text}, s.rest = opening :: rest →
    token s opening rest = s.openFlow start
  token_closing : ∀ {s : State} {rest : Text}, s.rest = closing :: rest →
    token s closing rest = s.closeFlow stop

namespace Brackets

def square : Brackets where
  opening := '['
  closing := ']'
  start := .flowSequenceStart
  stop := .flowSequenceEnd
  startsToken := by decide
  closing_eq := by decide
  token_opening := by
    intro s rest hText
    obtain ⟨h1, h2, h3⟩ := not_document (by decide) hText
    rw [token, if_neg h1, if_neg h2, if_neg h3]
  token_closing := by
    intro s rest hText
    obtain ⟨h1, h2, h3⟩ := not_document (by decide) hText
    rw [token, if_neg h1, if_neg h2, if_neg h3]

def curly : Brackets where
  opening := '\x7b'
  closing := '\x7d'
  start := .flowMappingStart
  stop := .flowMappingEnd
  startsToken := by decide
  closing_eq := by decide
  token_opening := by
    intro s rest hText
    obtain ⟨h1, h2, h3⟩ := not_document (by decide) hText
    rw [token, if_neg h1, if_neg h2, if_neg h3]
  token_closing := by
    intro s rest hText
    obtain ⟨h1, h2, h3⟩ := not_document (by decide) hText
    rw [token, if_neg h1, if_neg h2, if_neg h3]

end Brackets

section

variable {s : State} {depth : Nat} {found : List Token} {ready : Bool} {rest gap : Text}

/-- A mark of one character. -/
theorem Stands.mark {c : Char} (h : Stands s depth found ready (c :: rest))
    (hText : s.rest = c :: rest) (mark : Token) :
    Stands (s.mark mark) depth (mark :: found) ready rest := by
  have hPassed : s.rest = [c] ++ rest := hText
  exact h.advance_emit hPassed isGapText_nil mark

theorem reaches_opening (b : Brackets) (hGap : IsGapText gap)
    (h : Stands s depth found ready (gap ++ b.opening :: rest)) :
    Reaches s (depth + 1) (b.start :: found) true rest := by
  refine reaches_of_token hGap h b.startsToken.1 ?_ (Nat.le_refl _)
  intro t hStands hText
  obtain ⟨u, hCandidate, hAt, hSame⟩ := hStands.addCandidate
  have hMark := hAt.mark (hSame.trans hText) b.start
  refine ⟨_, ?_, hMark.depth_key (congrArg (· + 1) hMark.depth_eq) true⟩
  rw [b.token_opening hText, State.openFlow, hCandidate]
  rfl

theorem reaches_closing (b : Brackets) (hGap : IsGapText gap)
    (h : Stands s (depth + 1) found ready (gap ++ b.closing :: rest)) :
    Reaches s depth (b.stop :: found) false rest := by
  refine reaches_of_token hGap h b.startsToken.2 ?_ (Nat.le_refl _)
  intro t hStands hText
  have hMark := (hStands.filter fun c => c.depth != t.depth).mark hText b.stop
  refine ⟨_, ?_, hMark.depth_key (congrArg (· - 1) hStands.depth_eq) false⟩
  rw [b.token_closing hText, State.closeFlow, State.dropCandidate_eq hStands.required]
  have hOpen : t.depth ≠ 0 := by
    rw [hStands.depth_eq]
    omega
  simp only [bind, Except.bind, if_neg hOpen]
  rfl

theorem reaches_separator (hGap : IsGapText gap)
    (h : Stands s depth found ready (gap ++ ',' :: rest)) :
    Reaches s depth (.separator :: found) true rest := by
  refine reaches_of_token hGap h (by decide) ?_ (Nat.le_refl _)
  intro t hStands hText
  obtain ⟨h1, h2, h3⟩ := not_document (by decide) hText
  have hKey : Stands { t with keyAllowed := true } depth found true (',' :: rest) :=
    hStands.keyAllowed id
  refine ⟨_, ?_, (hKey.filter fun c => c.depth != t.depth).mark hText .separator⟩
  rw [token, if_neg h1, if_neg h2, if_neg h3]
  simp only [State.dropCandidate_eq hKey.required]
  rfl

/-! ### Scalars -/

theorem quoted_written {text : Text} (h : ∀ c ∈ text, Quoted.IsCommon c) (rest : Text) :
    quoted (Quoted.double 0) ('"' :: (Quoted.written text ++ rest)) =
      .ok (.scalar false (.ofText text), (Quoted.written text).length + 1) := by
  rw [quoted, List.tail_cons, Quoted.double_written h rest]
  rfl

theorem token_quote {text : Text} (h : ∀ c ∈ text, Quoted.IsCommon c) {t u : State}
    (hText : t.rest = '"' :: (Quoted.written text ++ rest)) (hCandidate : t.addCandidate = .ok u)
    (hSame : u.rest = t.rest) :
    token t '"' (Quoted.written text ++ rest) =
      .ok { (u.advance ((Quoted.written text).length + 1)).emit (.scalar false (.ofText text)) with
        keyAllowed := false } := by
  obtain ⟨h1, h2, h3⟩ := not_document (by decide) hText
  rw [token, if_neg h1, if_neg h2, if_neg h3]
  rw [State.node, hCandidate]
  simp only [bind, Except.bind, hSame, hText, quoted_written h rest]
  rfl

theorem reaches_text {text : Text} (hCommon : ∀ c ∈ text, Quoted.IsCommon c) (hGap : IsGapText gap)
    (h : Stands s depth found ready (gap ++ '"' :: (Quoted.written text ++ rest))) :
    Reaches s depth (.scalar false (.ofText text) :: found) false rest := by
  refine reaches_of_token hGap h (by decide) ?_ (by rw [List.length_append]; omega)
  intro t hStands hText
  obtain ⟨u, hCandidate, hAt, hSame⟩ := hStands.addCandidate
  have hPassed : u.rest = '"' :: Quoted.written text ++ rest := hSame.trans hText
  have hAfter := hAt.advance_emit hPassed isGapText_nil (.scalar false (.ofText text))
  exact ⟨_, token_quote hCommon hText hCandidate hSame, hAfter.keyAllowed id⟩

theorem token_null {t : State} (hText : t.rest = 'n' :: rest) : token t 'n' rest = t.plain := by
  obtain ⟨h1, h2, h3⟩ := not_document (by decide) hText
  have hStart : Plain.starts t.inFlow t.rest = true := by
    rw [hText]
    rfl
  unfold token
  rw [if_neg h1, if_neg h2, if_neg h3]
  exact if_pos hStart

theorem reaches_null (hGap : IsGapText gap) (hRest : Plain.EndsWord rest)
    (h : Stands s (depth + 1) found ready (gap ++ ("null".toList ++ rest))) :
    Reaches s (depth + 1) (.scalar true (.ofText "null".toList) :: found) false rest := by
  have hWord : "null".toList ++ rest = 'n' :: (['u', 'l', 'l'] ++ rest) := rfl
  rw [hWord] at h
  refine reaches_of_token hGap h (by decide) ?_ (by rw [List.length_append]; omega)
  intro t hStands hText
  obtain ⟨u, hCandidate, hAt, hSame⟩ := hStands.addCandidate
  obtain ⟨after, left, hEnd, hAfter, hScan, hSize⟩ := Plain.scan_null hRest 0
  have hFlow : u.inFlow = true := by simp [State.inFlow, hAt.depth_eq]
  have hScanned : Plain.scan u.inFlow ((u.indents.head?.map (· + 1)).getD 0) 0 u.rest =
      Plain.scan true 0 0 ("null".toList ++ rest) := by
    rw [hFlow, hAt.indents_eq, hSame, hText, hWord]
    rfl
  have hPassed : u.rest = "null".toList ++ after ++ left := by
    rw [hSame, hText, hEnd, List.append_assoc]
    rfl
  have hEmit := hAt.advance_emit hPassed hAfter (.scalar true (.ofText "null".toList))
  rw [← hEnd] at hEmit
  have hAllowed : false = true → (Plain.scan true 0 0 ("null".toList ++ rest)).broken = true := by
    simp
  refine ⟨_, ?_, hEmit.keyAllowed hAllowed⟩
  rw [token_null hText, State.plain, hCandidate]
  simp only [bind, Except.bind, hScanned, hScan, hSize]
  rfl

end

end PoolLogin.Yaml.Lexer
