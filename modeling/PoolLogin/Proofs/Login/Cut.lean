import PoolLogin.Proofs.Login.Form
import PoolLogin.Proofs.Login.Truncate

/-! Parts of worker names that are cut. A part that its delimiter ends stays what
it is in the whole name, and the part that the cut goes through is the start of
what stands there. -/

namespace PoolLogin

namespace Text

variable {α : Type} [DecidableEq α] {delimiter : α} {text : List α}

/-- A field that has ended stays as it is, whatever follows. -/
theorem splitOnce_append_of_some {field rest : List α}
    (h : splitOnce [delimiter] text = (field, some rest)) (more : List α) :
    splitOnce [delimiter] (text ++ more) = (field, some (rest ++ more)) := by
  rcases split_cases delimiter text with hNone | ⟨first, others, hFirst, rfl⟩
  · rw [splitOnce_of_notMem hNone] at h
    cases h
  · rw [splitOnce_append others hFirst] at h
    cases h
    rw [List.append_assoc, List.cons_append, splitOnce_append _ hFirst]

/-- A field that has not ended goes on. -/
theorem isPrefix_splitOnce (h : delimiter ∉ text) (more : List α) :
    text <+: (splitOnce [delimiter] (text ++ more)).1 := by
  rcases split_cases delimiter more with hNone | ⟨field, rest, hField, rfl⟩
  · rw [splitOnce_of_notMem (by simp [h, hNone])]
    exact List.prefix_append text more
  · rw [← List.append_assoc, splitOnce_append rest (by simp [h, hField])]
    exact List.prefix_append text field

end Text

namespace Parts

open Text

variable {α : Type} [DecidableEq α] {field domain : α}

theorem readTail_of_notMem {tail : List α} (h : domain ∉ tail) (head : List α) :
    readTail field domain head tail = { primary := head, suffix := some tail } := by
  rw [readTail, splitOnce_of_notMem h]

theorem readTail_append {secondary : List α} (h : domain ∉ secondary) (head rest : List α) :
    readTail field domain head (secondary ++ domain :: rest) =
      { primary := head
        secondary := some secondary
        domain := some (splitOnce [field] rest).1
        suffix := (splitOnce [field] rest).2 } := by
  rw [readTail, splitOnce_append rest h]

/-- How the parts behind the payout id go on when a worker name does. -/
structure GoesOn (short whole : Parts (List α)) : Prop where
  /-- A suffix goes on, or turns out to be a secondary id. -/
  suffix : ∀ text, short.suffix = some text → short.secondary = none →
    (whole.secondary = none → ∃ more, whole.suffix = some more ∧ text <+: more) ∧
      ∀ more, whole.secondary = some more → text <+: more
  secondary : ∀ text, short.secondary = some text → whole.secondary = some text
  domain : short.secondary ≠ none →
    ∃ part more, short.domain = some part ∧ whole.domain = some more ∧ part <+: more
  /-- Behind a domain that has ended, the suffix goes on. -/
  last : short.secondary ≠ none → ∀ text, short.suffix = some text →
    whole.domain = short.domain ∧ ∃ more, whole.suffix = some more ∧ text <+: more

omit [DecidableEq α] in
theorem GoesOn.of_nothing {short whole : Parts (List α)} (hSecondary : short.secondary = none)
    (hSuffix : short.suffix = none) : GoesOn short whole where
  suffix text h := by simp [hSuffix] at h
  secondary text h := by simp [hSecondary] at h
  domain h := absurd hSecondary h
  last h := absurd hSecondary h

theorem goesOn_readTail (head tail more : List α) :
    GoesOn (readTail field domain head tail) (readTail field domain head (tail ++ more)) := by
  rcases split_cases domain tail with hNone | ⟨secondary, rest, hSecondary, rfl⟩
  · -- What is a suffix so far is one of the whole name if no domain comes.
    rw [readTail_of_notMem hNone]
    refine ⟨?_, by simp, by simp, by simp⟩
    rintro _ ⟨⟩ _
    rcases split_cases domain more with hMore | ⟨part, others, hPart, rfl⟩
    · rw [readTail_of_notMem (by simp [hNone, hMore])]
      exact ⟨fun _ => ⟨_, rfl, List.prefix_append tail more⟩, by simp⟩
    · rw [← List.append_assoc, readTail_append (by simp [hNone, hPart])]
      refine ⟨by simp, ?_⟩
      rintro _ ⟨⟩
      exact List.prefix_append tail part
  · rw [List.append_assoc, List.cons_append, readTail_append hSecondary,
      readTail_append hSecondary]
    rcases split_cases field rest with hNone | ⟨part, others, hPart, rfl⟩
    · rw [splitOnce_of_notMem hNone]
      exact ⟨by simp, by simp, fun _ => ⟨_, _, rfl, rfl, isPrefix_splitOnce hNone more⟩, by simp⟩
    · have hRest := splitOnce_append others hPart
      rw [splitOnce_append_of_some hRest more, hRest]
      refine ⟨by simp, by simp, fun _ => ⟨part, part, rfl, rfl, List.prefix_rfl⟩, ?_⟩
      rintro _ _ ⟨⟩
      exact ⟨rfl, _, rfl, List.prefix_append others more⟩

theorem read_of_notMem {name : List α} (h : field ∉ name) :
    read field domain name = { primary := name } := by
  rw [read, split, splitOnce_of_notMem h]
  exact ite_self _

theorem read_append_cons {head : List α} (h : field ∉ head) (tail : List α) :
    read field domain (head ++ field :: tail) =
      { readTail field domain head tail with
        primary := if head.isEmpty then head ++ field :: tail else head } := by
  have hPrimary : (readTail field domain head tail).primary = head := by
    rcases split_cases domain tail with hNone | ⟨_, _, hSecondary, rfl⟩
    · rw [readTail_of_notMem hNone]
    · rw [readTail_append hSecondary]
  rw [read, split, splitOnce_append tail h]
  simp only [hPrimary]
  cases head.isEmpty with
  | true => rfl
  | false =>
      generalize readTail field domain head tail = parts at hPrimary
      subst hPrimary
      rfl

theorem isPrefix_primary {start : List α} (h : field ∉ start) (more : List α) :
    start <+: (read field domain (start ++ more)).primary := by
  rcases split_cases field more with hNone | ⟨head, tail, hHead, rfl⟩
  · rw [read_of_notMem (by simp [h, hNone])]
    exact List.prefix_append start more
  · rw [← List.append_assoc, read_append_cons (by simp [h, hHead])]
    simp only
    split_ifs
    · rw [List.append_assoc]
      exact List.prefix_append start _
    · exact List.prefix_append start head

/-- What the parts of the start of a worker name tell about those of the whole name. -/
structure CutFrom (field : α) (parse : List α → Parts (List α)) (name start : List α) : Prop where
  /-- A start without a delimiter is a payout id, and that goes on. -/
  plain : field ∉ start → parse start = { primary := start } ∧ start <+: (parse name).primary
  /-- A payout id that has ended stays as it is. -/
  headed : field ∈ start → start.head? ≠ some field →
    (parse start).primary = (parse name).primary
  /-- Without a payout id, the start stands in for it, and so does the name. -/
  headless : start.head? = some field →
    (parse start).primary = start ∧ (parse name).primary = name
  tail : (parse start).GoesOn (parse name)

theorem cutFrom_append (start more : List α) :
    CutFrom field (read field domain) (start ++ more) start := by
  rcases split_cases field start with hNone | ⟨head, tail, hHead, rfl⟩
  · have hStart : read field domain start = { primary := start } := read_of_notMem hNone
    refine ⟨fun _ => ⟨hStart, isPrefix_primary hNone more⟩, fun h => absurd h hNone, ?_, ?_⟩
    · intro h
      exact absurd (List.mem_of_mem_head? h) hNone
    · rw [hStart]
      exact .of_nothing rfl rfl
  · have hTail : GoesOn (readTail field domain head tail)
        (readTail field domain head (tail ++ more)) := goesOn_readTail head tail more
    rw [List.append_assoc, List.cons_append]
    refine ⟨fun h => absurd (by simp) h, ?_, ?_, ?_⟩
    all_goals rw [read_append_cons hHead, read_append_cons hHead]
    · intro _ h
      cases head with
      | nil => exact absurd rfl h
      | cons c head => rfl
    · intro h
      cases head with
      | nil => exact ⟨rfl, rfl⟩
      | cons c head =>
          obtain rfl : c = field := Option.some.inj h
          exact absurd List.mem_cons_self hHead
    · exact ⟨hTail.suffix, hTail.secondary, hTail.domain, hTail.last⟩

end Parts

namespace Login

open Parts (CutFrom cutFrom_append)

/-- Cutting a worker name, at a limit or anywhere else, alters no part of it that
has ended in front of the cut. It makes no difference if there are surrogates in it. -/
theorem start_keeps_parts :
    (∀ name start : Text, start <+: name → CutFrom fieldDelimiter parse name start) ∧
    (∀ (name : Text) (limit : Int), 0 ≤ limit →
      CutFrom fieldDelimiter parse name (truncate limit name)) ∧
    ∀ name start : WideText, start <+: name →
      CutFrom (.char fieldDelimiter) parseWide name start := by
  have hStart : ∀ name start : Text, start <+: name →
      CutFrom fieldDelimiter parse name start := by
    rintro _ start ⟨more, rfl⟩
    exact cutFrom_append start more
  refine ⟨hStart, fun name limit hLimit => hStart name _ (truncate_isPrefix hLimit name), ?_⟩
  rintro _ start ⟨more, rfl⟩
  exact cutFrom_append start more

/-- Cut in its secondary id, a name has a suffix instead, which is the start of that secondary id;
cut in its domain, it has the same secondary id. -/
theorem start_of_lightning :
    let name := "id.lnä@dom.x".toList
    (parse (truncate 6 name)).suffix = some "ln".toList ∧
      (parse (truncate 6 name)).primary = (parse name).primary ∧
      (∀ more, (parse name).secondary = some more → "ln".toList <+: more) ∧
      (parse name).secondary = (parse "id.lnä@do".toList).secondary := by
  intro name
  have hLimit := start_keeps_parts.2.1 name 6 (by decide)
  have hStart := start_keeps_parts.1 name "id.lnä@do".toList (by decide)
  have hSuffix : (parse (truncate 6 name)).suffix = some "ln".toList := by decide +kernel
  refine ⟨hSuffix, ?_, ?_, ?_⟩
  · exact hLimit.headed (by decide +kernel) (by decide +kernel)
  · exact (hLimit.tail.suffix _ hSuffix (by decide +kernel)).2
  · exact hStart.tail.secondary "lnä".toList (by decide +kernel)

end Login

end PoolLogin
