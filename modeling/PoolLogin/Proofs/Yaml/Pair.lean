import PoolLogin.Proofs.Yaml.Tokens

/-! A pair between brackets. That a text was a key is known at the colon behind it only; until then
the lexer has to remember where the key started. -/

namespace PoolLogin.Yaml.Lexer

variable {s : State} {depth : Nat} {found : List Token} {ready : Bool} {text rest gap : Text}

/-- Behind a text that may be a key. -/
structure HoldsKey (s : State) (depth : Nat) (found : List Token) (text rest : Text) : Prop where
  stands : Stands s depth (.scalar false (.ofText text) :: found) false rest
  rest_eq : s.rest = rest
  candidate : ∃ c others, s.candidates = c :: others ∧ c.depth = depth ∧ c.tokens = found.length ∧
    c.line = s.line ∧ s.index ≤ c.index + 1024

/-- A key that started in this line, and not long ago, is not forgotten. -/
theorem HoldsKey.fresh (h : HoldsKey s depth found text rest) :
    HoldsKey s.fresh depth found text rest where
  stands := h.stands.filter _
  rest_eq := h.rest_eq
  candidate := by
    obtain ⟨c, others, hCandidates, hDepth, hTokens, hLine, hIndex⟩ := h.candidate
    have hRecent : s.isRecent c = true := by
      simp only [State.isRecent, hLine, bne_self_eq_false, Bool.false_or, Bool.not_eq_true',
        decide_eq_false_iff_not]
      omega
    refine ⟨c, others.filter s.isRecent, ?_, hDepth, hTokens, hLine, hIndex⟩
    rw [State.fresh, hCandidates]
    exact List.filter_cons_of_pos hRecent

theorem exists_candidate (h : Stands s depth found true rest) :
    ∃ t c others, s.addCandidate = .ok t ∧ Stands t depth found true rest ∧ t.rest = s.rest ∧
      t.candidates = c :: others ∧ c.depth = depth ∧ c.tokens = found.length ∧ c.line = t.line ∧
      c.index = t.index := by
  refine ⟨_, _, _, State.addCandidate_eq h.required (h.key rfl) h.indents_eq, ?_, rfl, rfl,
    h.depth_eq, h.count_eq, rfl, rfl⟩
  apply h.candidates
  rw [List.forall_mem_cons]
  exact ⟨rfl, fun c hc => h.required c (List.mem_filter.mp hc).1⟩

/-- A text that starts where a key may start is held as one, if it is short. -/
theorem exists_holdsKey (hCommon : ∀ c ∈ text, Quoted.IsCommon c)
    (hShort : (Quoted.written text).length < 1024) (hGap : IsGapText gap)
    (h : Stands s depth found true (gap ++ '"' :: (Quoted.written text ++ rest))) :
    ∃ t, Leads s t ∧ HoldsKey t depth found text rest := by
  obtain ⟨t, hStands, hText, hNext, hLength⟩ := exists_next_eq h hGap (by decide)
  have hFresh : Stands t.fresh depth found true _ := hStands.filter _
  obtain ⟨u, c, others, hCandidate, hAt, hSame, hFirst, hDepth, hTokens, hStart, hIndex⟩ :=
    exists_candidate hFresh
  have hRead := token_quote (t := t.fresh) hCommon hText hCandidate hSame
  have hPassed : u.rest = '"' :: Quoted.written text ++ rest := hSame.trans hText
  have hEmit := hAt.advance_emit hPassed isGapText_nil (.scalar false (.ofText text))
  have hAfter := hEmit.keyAllowed (id : false = true → false = true)
  obtain ⟨line, column, hEq, hLine⟩ := State.advance_append u hPassed
  rw [List.length_cons] at hEq hAfter
  have hHolds : HoldsKey _ depth found text rest := {
    stands := hAfter
    rest_eq := congrArg State.rest hEq
    candidate := by
      refine ⟨c, others, (congrArg State.candidates hEq).trans hFirst, hDepth, hTokens, ?_, ?_⟩
      · refine hStart.trans ((hLine ?_).symm.trans (congrArg State.line hEq).symm)
        rw [List.forall_mem_cons]
        exact ⟨rfl, fun d hd => (Quoted.isLegible_of_mem_written hCommon d hd).isBreak⟩
      · apply Nat.le_trans (Nat.le_of_eq (congrArg State.index hEq))
        change u.index + ((Quoted.written text).length + 1) ≤ c.index + 1024
        omega }
  have hToken := next_of_token hStands hText (by decide) hRead hAfter.required
  refine ⟨_, Leads.of_next (hNext ▸ hToken) ?_, hHolds.fresh⟩
  rw [hHolds.fresh.rest_eq]
  rw [hText, List.length_cons, List.length_append] at hLength
  omega

/-- The state without the candidate between the innermost brackets. -/
def State.decided (s : State) : State :=
  { s with candidates := s.candidates.filter fun c => c.depth != s.depth }

theorem State.value_eq (hFlow : s.inFlow = true) {c : Candidate}
    (hFound : s.candidates.find? (fun c => c.depth == s.depth) = some c) :
    s.value =
      .ok { (s.decided.insertAt c.tokens [.key]).mark .value with keyAllowed := false } := by
  have hInline : (!s.decided.inFlow && s.decided.isDeeper c.column) = false := by
    rw [show s.decided.inFlow = true from hFlow]
    rfl
  rw [value, hFound]
  change Except.ok { (if (!s.decided.inFlow && s.decided.isDeeper c.column) = true then
    { s.decided.insertAt c.tokens [.mappingStart, .key] with
      indents := c.column :: s.decided.indents }
    else s.decided.insertAt c.tokens [.key]).mark .value with keyAllowed := false } = _
  rw [hInline]
  rfl

/-- The mark of a key is put in front of the last token. -/
theorem Stands.insertKey {token : Token} (h : Stands s depth (token :: found) ready rest) :
    Stands (s.insertAt found.length [.key]) depth (token :: .key :: found) ready rest :=
  { h with
    tokens_eq := by simp [State.insertAt, h.tokens_eq, h.count_eq]
    count_eq := congrArg (· + 1) h.count_eq }

/-- What is known of a key when the colon comes. -/
theorem token_colon (h : HoldsKey s (depth + 1) found text (':' :: rest)) :
    ∃ t, token s ':' rest = .ok t ∧ Stands t (depth + 1)
      (.value :: .scalar false (.ofText text) :: .key :: found) false rest := by
  obtain ⟨c, others, hCandidates, hDepth, hTokens, _⟩ := h.candidate
  have hFlow : s.inFlow = true := by simp [State.inFlow, h.stands.depth_eq]
  have hValue : token s ':' rest = s.value := by
    obtain ⟨h1, h2, h3⟩ := not_document (by decide) h.rest_eq
    unfold token
    rw [if_neg h1, if_neg h2, if_neg h3]
    exact if_pos (And.intro rfl (Or.inl hFlow))
  have hFound : s.candidates.find? (fun c => c.depth == s.depth) = some c := by
    rw [hCandidates, List.find?_cons_of_pos]
    rw [hDepth, h.stands.depth_eq, beq_self_eq_true]
  have hDecided : Stands s.decided (depth + 1) _ false (':' :: rest) := h.stands.filter _
  have hMark := hDecided.insertKey.mark h.rest_eq .value
  rw [← hTokens] at hMark
  exact ⟨_, hValue.trans (State.value_eq hFlow hFound), hMark.keyAllowed id⟩

/-- A short text and the colon behind it. -/
theorem reaches_key (hCommon : ∀ c ∈ text, Quoted.IsCommon c)
    (hShort : (Quoted.written text).length < 1024) (hGap : IsGapText gap)
    (h : Stands s (depth + 1) found true (gap ++ '"' :: (Quoted.written text ++ ':' :: rest))) :
    Reaches s (depth + 1) (.value :: .scalar false (.ofText text) :: .key :: found) false rest := by
  obtain ⟨t, hLeads, hHolds⟩ := exists_holdsKey hCommon hShort hGap h
  obtain ⟨u, hRead, hEnd⟩ := token_colon hHolds.fresh
  have hNext := next_of_token hHolds.stands hHolds.rest_eq (by decide) hRead hEnd.required
  refine ⟨u.fresh, hLeads.trans (Leads.of_next hNext ?_), hEnd.filter _⟩
  rw [hHolds.rest_eq]
  exact Nat.lt_succ_of_le hEnd.length_rest_le

end PoolLogin.Yaml.Lexer
