import Mathlib.Data.List.Forall2
import PoolLogin.Proofs.Json.Value
import PoolLogin.Proofs.Text.Join
import PoolLogin.Proofs.Yaml.Pair

/-! The tokens of rows that were written as JSON, a list of objects whose members are texts or
nothing. -/

namespace PoolLogin.Yaml

abbrev Row := List (Text × Option Text)

/-- Items between brackets. -/
def Lexer.Brackets.around (b : Lexer.Brackets) : List (List Token) → List Token
  | [] => [b.start, b.stop]
  | first :: others => b.start :: (first ++ others.flatMap (.separator :: ·) ++ [b.stop])

def textToken (text : Text) : Token := .scalar false (.ofText text)

def valueToken : Option Text → Token
  | none => .scalar true (.ofText "null".toList)
  | some text => textToken text

def pairTokens (pair : Text × Option Text) : List Token :=
  [.key, textToken pair.1, .value, valueToken pair.2]

def rowTokens (row : Row) : List Token := Lexer.Brackets.curly.around (row.map pairTokens)

def tableTokens (rows : List Row) : List Token := Lexer.Brackets.square.around (rows.map rowTokens)

/-- A pair that JSON and YAML read alike. The key is short enough to be one. -/
structure IsCommonPair (pair : Text × Option Text) : Prop where
  key : ∀ c ∈ pair.1, Quoted.IsCommon c
  short : (Quoted.written pair.1).length < 1024
  value : ∀ text ∈ pair.2, ∀ c ∈ text, Quoted.IsCommon c

namespace Lexer

open Json (Style enclose)

/-- A text is read as tokens where an item between brackets may stand. -/
def ReadsAs (depth : Nat) (text : Text) (found : List Token) : Prop :=
  ∀ {s : State} {before : List Token} {gap rest : Text}, IsGapText gap → Plain.EndsWord rest →
    Stands s depth before true (gap ++ (text ++ rest)) →
    Reaches s depth (found.reverse ++ before) false rest

theorem isGapText_newline (depth : Nat) : IsGapText (Style.indented.newline depth) := by
  simp [Style.indented, IsGapText]

section

variable {s : State} {depth : Nat} {before : List Token} {ready : Bool} {gap rest : Text}

/-- Items are read one by one, up to the line of the closing bracket. -/
theorem reaches_items {depth inner : Nat} (hRest : Plain.EndsWord rest) {text : Text}
    {texts : List Text} {first : List Token} {others : List (List Token)}
    (hFirst : ReadsAs depth text first) (hOthers : List.Forall₂ (ReadsAs depth) texts others)
    (hGap : IsGapText gap) (h : Stands s depth before true (gap ++
      (Text.joinWith (Style.indented.comma ++ Style.indented.newline inner) (text :: texts) ++
        rest))) :
    Reaches s depth ((first ++ others.flatMap (.separator :: ·)).reverse ++ before) false rest := by
  induction hOthers generalizing s before gap text first with
  | nil =>
      rw [List.flatMap_nil, List.append_nil]
      exact hFirst hGap hRest h
  | @cons second next texts others hSecond _ ih =>
      rw [Text.joinWith_cons_cons, List.append_assoc, List.append_assoc] at h
      refine (hFirst hGap (Or.inl ⟨_, rfl⟩) h).trans ?_
      intro t hComma
      refine (reaches_separator isGapText_nil hComma).trans ?_
      intro u hNext
      have hEnd := ih hSecond (isGapText_newline inner) hNext
      simpa using hEnd

/-- Items in a pair of brackets are read as items. -/
theorem reaches_enclose (b : Brackets) {depth inner : Nat} {texts : List Text}
    {items : List (List Token)} (hNonempty : texts ≠ [])
    (hItems : List.Forall₂ (ReadsAs (depth + 1)) texts items) (hGap : IsGapText gap)
    (h : Stands s depth before true (gap ++
      (enclose .indented inner b.opening b.closing texts ++ rest))) :
    Reaches s depth ((b.around items).reverse ++ before) false rest := by
  cases hItems with
  | nil => exact absurd rfl hNonempty
  | @cons text first texts others hFirst hOthers =>
      have hText : enclose .indented inner b.opening b.closing (text :: texts) ++ rest =
          b.opening :: (Style.indented.newline (inner + 1) ++
            (Text.joinWith (Style.indented.comma ++ Style.indented.newline (inner + 1))
              (text :: texts) ++ (Style.indented.newline inner ++ b.closing :: rest))) := by
        simp [enclose]
      have hLine : Plain.EndsWord (Style.indented.newline inner ++ b.closing :: rest) :=
        Or.inr ⟨2 * inner, b.closing, rest, rfl, b.closing_eq⟩
      rw [hText] at h
      refine (reaches_opening b hGap h).trans ?_
      intro t hStart
      refine (reaches_items hLine hFirst hOthers (isGapText_newline _) hStart).trans ?_
      intro u hEnd
      simpa [Brackets.around] using reaches_closing b (isGapText_newline inner) hEnd

/-! ### Rows -/

theorem writeText_append (text rest : Text) :
    Json.writeText .indented (.ofText text) ++ rest = '"' :: (Quoted.written text ++ rest) := rfl

theorem reaches_value {inner : Nat} {value : Option Text}
    (hCommon : ∀ text ∈ value, ∀ c ∈ text, Quoted.IsCommon c) (hGap : IsGapText gap)
    (hRest : Plain.EndsWord rest) (h : Stands s (depth + 1) before ready
      (gap ++ (Json.writeAt .indented inner (Json.ofOption Json.ofText value) ++ rest))) :
    Reaches s (depth + 1) (valueToken value :: before) false rest := by
  cases value with
  | none => exact reaches_null hGap hRest h
  | some text => exact reaches_text (hCommon text rfl) hGap h

/-- A member of an object is read as a pair. -/
theorem readsAs_pair (depth inner : Nat) {pair : Text × Option Text} (h : IsCommonPair pair) :
    ReadsAs (depth + 1) (Json.writeText .indented (.ofText pair.1) ++ Style.indented.colon ++
      Json.writeAt .indented inner (Json.ofOption Json.ofText pair.2)) (pairTokens pair) := by
  intro s before gap rest hGap hRest hStands
  rw [List.append_assoc, List.append_assoc, writeText_append] at hStands
  refine (reaches_key h.key h.short hGap hStands).trans ?_
  intro t hValue
  have hBlank : IsGapText [' '] := by simp [IsGapText]
  exact reaches_value h.value hBlank hRest hValue

/-- A row is read as a mapping. -/
theorem readsAs_row (depth inner : Nat) {row : Row} (hNonempty : row ≠ [])
    (h : ∀ pair ∈ row, IsCommonPair pair) :
    ReadsAs depth (Json.writeAt .indented inner (Json.ofRow row)) (rowTokens row) := by
  intro s before gap rest hGap _ hStands
  rw [Json.ofRow, Json.ofMembers, Json.writeAt, Json.writeMembers_eq_map, List.map_map,
    List.map_map] at hStands
  refine reaches_enclose .curly (by simpa using hNonempty) ?_ hGap hStands
  rw [List.forall₂_map_left_iff, List.forall₂_map_right_iff, List.forall₂_same]
  intro pair hPair
  exact readsAs_pair depth (inner + 1) (h pair hPair)

/-- Rows are read as a sequence of mappings. -/
theorem reaches_table {rows : List Row} (hNonempty : rows ≠ [])
    (hRows : ∀ row ∈ rows, row ≠ [] ∧ ∀ pair ∈ row, IsCommonPair pair) (hGap : IsGapText gap)
    (h : Stands s depth before true
      (gap ++ (Json.write .indented (.arr (rows.map Json.ofRow)) ++ rest))) :
    Reaches s depth ((tableTokens rows).reverse ++ before) false rest := by
  rw [Json.write, Json.writeAt, Json.writeItems_eq_map, List.map_map] at h
  refine reaches_enclose .square (by simpa using hNonempty) ?_ hGap h
  rw [List.forall₂_map_left_iff, List.forall₂_map_right_iff, List.forall₂_same]
  intro row hRow
  exact readsAs_row (depth + 1) 1 (hRows row hRow).1 (hRows row hRow).2

/-! ### Whole texts -/

/-- A text ends where nothing but a gap is left. -/
theorem tokens_end (h : Stands s 0 before ready rest) (hRest : IsGapText rest) (fuel : Nat) :
    tokens (fuel + 1) s = ((Token.streamEnd :: before).reverse, none) := by
  obtain ⟨passed, _, hPassed⟩ := h.rest_eq
  have hLeft : IsGapText s.rest := fun c hc => hRest c (hPassed ▸ List.mem_append_right passed hc)
  have hAppend : s.rest = s.rest ++ [] := (List.append_nil s.rest).symm
  obtain ⟨t, hSkip, hStands, hText⟩ := (hAppend ▸ h.here).skipGaps_append hLeft hAppend
  rw [List.append_nil] at hSkip
  have hNext : next s = .ok none := by
    have hFresh : Stands t.fresh 0 before ready [] := hStands.filter _
    have hEmpty : t.fresh.rest = [] := hText
    have hEnd : State.skipGaps false t [] = t := rfl
    rw [next, hSkip, hEnd, State.dropStale_eq hStands.required]
    simp only [bind, Except.bind, hEmpty, State.unwind_of_indents hFresh.indents_eq,
      State.dropCandidate_eq hFresh.required]
    rfl
  have hFinish : (finish s).tokens = .streamEnd :: before := by
    have hEnd : State.skipGaps false t [] = t := rfl
    rw [finish, hSkip, hEnd, State.unwind_of_indents hStands.indents_eq]
    exact congrArg _ hStands.tokens_eq
  rw [tokens, hNext]
  simp only [hFinish]

end

end Lexer

section

open Json (Style)

theorem frames_indented : Style.indented.Frames fun c => isAllowed c = true where
  plain _ h := (Quoted.isLegible_of_isPlain h).1
  comma := List.all_eq_true.mp rfl
  colon := List.all_eq_true.mp rfl
  newline depth c hc := by
    rcases List.mem_cons.mp hc with rfl | hc
    · rfl
    · rw [List.eq_of_mem_replicate hc]
      rfl

theorem isAllowed_text {text : Text} (h : ∀ c ∈ text, Quoted.IsCommon c) :
    ∀ c ∈ Json.writeText .indented (.ofText text), isAllowed c = true := by
  intro c hc
  rcases List.mem_cons.mp hc with rfl | hc
  · rfl
  · exact (Quoted.isLegible_of_mem_written h c hc).1

theorem isAllowed_pair (depth : Nat) {pair : Text × Option Text} (h : IsCommonPair pair) :
    ∀ c ∈ Json.writeText .indented (.ofText pair.1) ++ Style.indented.colon ++
      Json.writeAt .indented depth (Json.ofOption Json.ofText pair.2), isAllowed c = true := by
  obtain ⟨key, value⟩ := pair
  rw [List.forall_mem_append, List.forall_mem_append]
  refine ⟨⟨isAllowed_text h.key, frames_indented.colon⟩, ?_⟩
  cases value with
  | none => exact fun c hc => frames_indented.plain c (Json.isPlain_null c hc)
  | some text => exact isAllowed_text (h.value text rfl)

theorem isAllowed_table {rows : List Row} (hRows : ∀ row ∈ rows, ∀ pair ∈ row, IsCommonPair pair) :
    ∀ c ∈ Json.write .indented (.arr (rows.map Json.ofRow)), isAllowed c = true := by
  rw [Json.write, Json.writeAt, Json.writeItems_eq_map, List.map_map]
  refine Json.forall_enclose frames_indented (by decide) (by decide) ?_
  rw [List.forall_mem_map]
  intro row hRow
  rw [Function.comp_apply, Json.ofRow, Json.ofMembers, Json.writeAt, Json.writeMembers_eq_map,
    List.map_map, List.map_map]
  refine Json.forall_enclose frames_indented (by decide) (by decide) ?_
  rw [List.forall_mem_map]
  intro pair hPair
  exact isAllowed_pair 2 (hRows row hRow pair hPair)

end

/-- The lexer goes over a whole text that starts with a bracket. -/
theorem tokenize_of_reaches {rest : Text} {found : List Token} {after : Text}
    (hAllowed : ∀ c ∈ '[' :: rest, isAllowed c = true) (hAfter : Lexer.IsGapText after)
    (h : ∀ s, Lexer.Stands s 0 [] true ([] ++ '[' :: rest) →
      Lexer.Reaches s 0 found false after) :
    tokenize ('[' :: rest) = ((Token.streamEnd :: found).reverse, none) := by
  obtain ⟨t, ⟨count, hCount, hRun⟩, hEnd⟩ := h { rest := '[' :: rest } {
    depth_eq := rfl
    tokens_eq := rfl
    count_eq := rfl
    key := fun _ => rfl
    rest_eq := ⟨[], Lexer.isGapText_nil, rfl⟩
    indents_eq := rfl
    required := by simp }
  have hAll : (!('[' :: rest).all isAllowed) = false := by
    rw [List.all_eq_true.mpr hAllowed]
    rfl
  have hFuel : ('[' :: rest).length + 2 = count + (('[' :: rest).length + 1 - count + 1) := by
    dsimp only at hCount
    omega
  rw [tokenize, hAll, if_neg Bool.false_ne_true]
  change Lexer.tokens (('[' :: rest).length + 2) { rest := '[' :: rest } = _
  rw [hFuel, hRun, Lexer.tokens_end hEnd hAfter]

/-- Rows that were written are tokens of rows. -/
theorem tokenize_table {rows : List Row} (hNonempty : rows ≠ [])
    (hRows : ∀ row ∈ rows, row ≠ [] ∧ ∀ pair ∈ row, IsCommonPair pair) :
    tokenize (Json.write .indented (.arr (rows.map Json.ofRow)) ++ ['\n']) =
      (tableTokens rows ++ [.streamEnd], none) := by
  have hAllowed : ∀ c ∈ Json.write .indented (.arr (rows.map Json.ofRow)) ++ ['\n'],
      isAllowed c = true := by
    rw [List.forall_mem_append]
    exact ⟨isAllowed_table fun row hRow => (hRows row hRow).2, List.forall_mem_singleton.mpr rfl⟩
  have hReaches : ∀ s, Lexer.Stands s 0 [] true
      ([] ++ (Json.write .indented (.arr (rows.map Json.ofRow)) ++ ['\n'])) →
      Lexer.Reaches s 0 ((tableTokens rows).reverse ++ []) false ['\n'] :=
    fun _ => Lexer.reaches_table hNonempty hRows Lexer.isGapText_nil
  obtain ⟨rest, hHead⟩ : ∃ rest, Json.write .indented (.arr (rows.map Json.ofRow)) = '[' :: rest :=
    Json.head_enclose _ 0 '[' ']' _
  rw [hHead, List.cons_append] at hAllowed hReaches ⊢
  rw [tokenize_of_reaches hAllowed (by simp [Lexer.IsGapText]) hReaches]
  simp

end PoolLogin.Yaml
