import Mathlib.Algebra.Group.Nat.Defs
import Mathlib.Data.List.Induction
import Mathlib.Data.List.TakeWhile
import PoolLogin.Datum.Notation
import PoolLogin.Proofs.Action
import PoolLogin.Proofs.Entries
import PoolLogin.Proofs.Json.Number

/-! What is read is bounded: no number in it has too many digits, and not too
many brackets lie in one another. So whatever JSON a file holds can also be
written as text. -/

namespace PoolLogin

/-! ### Numbers -/

theorem Numeral.value_lt {base : Nat} {digits : List Nat} (h : ∀ d ∈ digits, d < base) :
    value base digits < base ^ digits.length := by
  induction digits using List.reverseRecOn with
  | nil => exact Nat.one_pos
  | append_singleton digits d ih =>
      have hDigits := ih fun e he => h e (List.mem_append_left [d] he)
      have hLast := h d (by simp)
      rw [value_append_singleton, List.length_append, List.length_singleton, Nat.pow_succ]
      calc value base digits * base + d
          < value base digits * base + base := Nat.add_lt_add_left hLast _
        _ = (value base digits + 1) * base := (Nat.succ_mul _ _).symm
        _ ≤ base ^ digits.length * base := Nat.mul_le_mul_right base hDigits

namespace Json

theorem lt_of_asciiDigit? {c : Char} {d : Nat} (hc : isDigit c) (h : Numeral.asciiDigit? c = some d) :
    d < 10 := by
  simp only [isDigit, Bool.and_eq_true, decide_eq_true_eq, Char.le_def, UInt32.le_iff_toNat_le]
    at hc
  have hBounds : 48 ≤ c.toNat ∧ c.toNat ≤ 57 := hc
  rw [Numeral.asciiDigit?, if_pos hBounds] at h
  cases h
  omega

/-- At most so many digits are worth less than one more. -/
theorem digitsValue_lt {digits : Text} (h : ∀ c ∈ digits, isDigit c) {n : Nat}
    (hLength : digits.length ≤ n) : readExponent.digitsValue digits < 10 ^ n := by
  have hCount : (digits.filterMap Numeral.asciiDigit?).length ≤ n :=
    Nat.le_trans (List.length_filterMap_le Numeral.asciiDigit? digits) hLength
  refine Nat.lt_of_lt_of_le (Numeral.value_lt ?_) (Nat.pow_le_pow_right (by decide) hCount)
  intro d hd
  obtain ⟨c, hc, hEq⟩ := List.mem_filterMap.mp hd
  exact lt_of_asciiDigit? (h c hc) hEq

theorem isDigit_of_readWhole {text whole rest : Text} (h : readWhole text = some (whole, rest)) :
    ∀ c ∈ whole, isDigit c := by
  have hSpan : ∀ later : Text, later.span isDigit = (whole, rest) → ∀ c ∈ whole, isDigit c := by
    intro later hLater c hc
    rw [List.span_eq_takeWhile_dropWhile] at hLater
    rw [← (Prod.mk.inj hLater).1] at hc
    exact List.mem_takeWhile_imp hc
  unfold readWhole at h
  split at h
  · cases h
    simp [isDigit]
  · split_ifs at h
    exact hSpan _ (Option.some.inj h)
  · cases h

/-! ### Values -/

/-- Whether a value holds at most so many brackets in one another, and no number that is too long. -/
def Bounded (depth : Nat) (value : Json) : Prop :=
  (Datum.ofJson value).depth ≤ depth ∧ (Datum.ofJson value).hasLongNumber = false

theorem bounded_arr {depth : Nat} {items : List Json} :
    Bounded (depth + 1) (.arr items) ↔ ∀ item ∈ items, Bounded depth item := by
  rw [Bounded, Datum.ofJson, Datum.depth, Datum.hasLongNumber, Nat.add_le_add_iff_right]
  induction items with
  | nil => simp [Datum.ofItems, Datum.depthOfItems, Datum.anyLongNumber]
  | cons item items ih =>
      rw [Datum.ofItems, Datum.depthOfItems, Datum.anyLongNumber, Nat.max_le, Bool.or_eq_false_iff,
        List.forall_mem_cons, ← ih]
      exact and_and_and_comm

theorem bounded_obj {depth : Nat} {members : List (WideText × Json)} :
    Bounded (depth + 1) (.obj members) ↔ ∀ member ∈ members, Bounded depth member.2 := by
  rw [Bounded, Datum.ofJson, Datum.depth, Datum.hasLongNumber, Nat.add_le_add_iff_right]
  induction members with
  | nil => simp [Datum.ofMembers, Datum.depthOfEntries, Datum.anyLongEntry]
  | cons member members ih =>
      have hKey : (Datum.string member.1).depth = 0 ∧
          (Datum.string member.1).hasLongNumber = false := ⟨rfl, rfl⟩
      rw [Datum.ofMembers, Datum.depthOfEntries, Datum.anyLongEntry, hKey.1, hKey.2, Nat.zero_max,
        Nat.max_le, Bool.false_or, Bool.or_eq_false_iff, List.forall_mem_cons, ← ih]
      exact and_and_and_comm

theorem Bounded.item {depth : Nat} {items : List Json} (h : Bounded depth (.arr items)) {item : Json}
    (hItem : item ∈ items) : Bounded depth item := by
  cases depth with
  | zero => exact absurd h.1 (Nat.not_succ_le_zero _)
  | succ depth =>
      have hBounded := bounded_arr.mp h item hItem
      exact ⟨Nat.le_succ_of_le hBounded.1, hBounded.2⟩

theorem Bounded.member {depth : Nat} {members : List (WideText × Json)}
    (h : Bounded depth (.obj members)) {member : WideText × Json} (hMember : member ∈ members) :
    Bounded depth member.2 := by
  cases depth with
  | zero => exact absurd h.1 (Nat.not_succ_le_zero _)
  | succ depth =>
      have hBounded := bounded_obj.mp h member hMember
      exact ⟨Nat.le_succ_of_le hBounded.1, hBounded.2⟩

/-- A value that lies within the bounds of the reader can be written. -/
theorem Bounded.unwritable? {value : Json} (h : Bounded maxDepth value) :
    (Datum.ofJson value).unwritable? = none := by
  have hFits : (Datum.ofJson value).depth ≤ Datum.maxDepth := Nat.le_trans h.1 (by decide)
  rw [Datum.unwritable?, if_neg (Nat.not_lt.mpr hFits), h.2, if_neg Bool.false_ne_true]

/-! ### Reading -/

theorem bounded_int {n : Int} (h : n.natAbs < 10 ^ Numeral.maxDigits) (depth : Nat) :
    Bounded depth (.int n) := by
  have hLong : (Datum.int n).hasLongNumber = decide (10 ^ Numeral.maxDigits ≤ n.natAbs) := by
    rw [Datum.hasLongNumber, Nat.pow_eq]
  refine ⟨Nat.zero_le depth, ?_⟩
  rw [Datum.ofJson, hLong, decide_eq_false_iff_not, Nat.not_le]
  exact h

theorem bounded_readNumber {text rest : Text} {value : Json}
    (h : readNumber text = .ok (value, rest)) (depth : Nat) : Bounded depth value := by
  simp only [readNumber] at h
  split at h
  · cases h
  · next whole later hWhole =>
      split at h
      · split_ifs at h with hLength
        · cases h
          apply bounded_int
          rw [Int.natAbs_neg, Int.natAbs_natCast]
          exact digitsValue_lt (isDigit_of_readWhole hWhole) (Nat.not_lt.mp hLength)
        · cases h
          apply bounded_int
          rw [Int.natAbs_natCast]
          exact digitsValue_lt (isDigit_of_readWhole hWhole) (Nat.not_lt.mp hLength)
      · cases h
        exact ⟨Nat.zero_le depth, rfl⟩

theorem bounded_readScalar {text rest : Text} {value : Json}
    (h : readScalar text = .ok (value, rest)) (depth : Nat) : Bounded depth value := by
  have hWords : ∀ entry ∈ words, Bounded depth entry.2 := by
    simp only [words, List.forall_mem_cons, List.not_mem_nil, false_implies, implies_true, and_true]
    exact ⟨⟨Nat.zero_le depth, rfl⟩, ⟨Nat.zero_le depth, rfl⟩, ⟨Nat.zero_le depth, rfl⟩,
      ⟨Nat.zero_le depth, rfl⟩, ⟨Nat.zero_le depth, rfl⟩, ⟨Nat.zero_le depth, rfl⟩⟩
  rw [readScalar] at h
  split at h
  · next result hFound =>
      obtain ⟨entry, hEntry, hAfter⟩ := List.exists_of_findSome?_eq_some hFound
      obtain ⟨later, _, rfl⟩ := Option.map_eq_some_iff.mp hAfter
      cases h
      exact hWords entry hEntry
  · exact bounded_readNumber h depth

theorem readItems_cases {fuel depth : Nat} {text rest : Text} {items : List Json}
    (h : readItems (fuel + 1) depth text = .ok (items, rest)) :
    ∃ item others, items = item :: others ∧
      (∃ later, readValue fuel depth text = .ok (item, later)) ∧
      (others = [] ∨ ∃ later, readItems fuel depth later = .ok (others, rest)) := by
  rw [readItems] at h
  obtain ⟨⟨item, later⟩, hItem, h⟩ := Action.exists_of_bind_ok h
  simp only at h
  split at h
  · cases h
    exact ⟨item, [], rfl, ⟨later, hItem⟩, Or.inl rfl⟩
  · obtain ⟨⟨others, last⟩, hOthers, h⟩ := Action.exists_of_bind_ok h
    cases h
    exact ⟨item, others, rfl, ⟨later, hItem⟩, Or.inr ⟨_, hOthers⟩⟩
  · cases h

theorem readMembers_cases {fuel depth : Nat} {text rest : Text} {members : List (WideText × Json)}
    (h : readMembers (fuel + 1) depth text = .ok (members, rest)) :
    ∃ member others, members = member :: others ∧
      (∃ body later, readValue fuel depth body = .ok (member.2, later)) ∧
      (others = [] ∨ ∃ later, readMembers fuel depth later = .ok (others, rest)) := by
  unfold readMembers at h
  split at h
  · obtain ⟨⟨key, afterKey⟩, _, h⟩ := Action.exists_of_bind_ok h
    simp only at h
    split at h
    · obtain ⟨⟨value, later⟩, hValue, h⟩ := Action.exists_of_bind_ok h
      simp only at h
      split at h
      · cases h
        exact ⟨(key, value), [], rfl, ⟨_, later, hValue⟩, Or.inl rfl⟩
      · obtain ⟨⟨others, last⟩, hOthers, h⟩ := Action.exists_of_bind_ok h
        cases h
        exact ⟨(key, value), others, rfl, ⟨_, later, hValue⟩, Or.inr ⟨_, hOthers⟩⟩
      · cases h
    · cases h
  · cases h

theorem readValue_cases {fuel depth : Nat} {text rest : Text} {value : Json}
    (h : readValue (fuel + 1) depth text = .ok (value, rest)) :
    (∃ s, value = .string s) ∨ readScalar text = .ok (value, rest) ∨
    depth < maxDepth ∧
      (value = .arr [] ∨ value = .obj [] ∨
      (∃ items later, value = .arr items ∧ readItems fuel (depth + 1) later = .ok (items, rest)) ∨
      ∃ members later, value = .obj (Entries.ofList members) ∧
        readMembers fuel (depth + 1) later = .ok (members, rest)) := by
  unfold readValue at h
  split at h
  · obtain ⟨⟨s, later⟩, _, h⟩ := Action.exists_of_bind_ok h
    cases h
    exact Or.inl ⟨s, rfl⟩
  · split_ifs at h with hDepth
    refine Or.inr (Or.inr ⟨Nat.not_le.mp hDepth, ?_⟩)
    split at h
    · cases h
      exact Or.inl rfl
    · obtain ⟨⟨items, later⟩, hItems, h⟩ := Action.exists_of_bind_ok h
      cases h
      exact Or.inr (Or.inr (Or.inl ⟨items, _, rfl, hItems⟩))
  · split_ifs at h with hDepth
    refine Or.inr (Or.inr ⟨Nat.not_le.mp hDepth, ?_⟩)
    split at h
    · cases h
      exact Or.inr (Or.inl rfl)
    · obtain ⟨⟨members, later⟩, hMembers, h⟩ := Action.exists_of_bind_ok h
      cases h
      exact Or.inr (Or.inr (Or.inr ⟨members, _, rfl, hMembers⟩))
  · exact Or.inr (Or.inl h)

/-- Whatever is read with this much fuel inside some brackets has no more
brackets in it than are left. -/
structure BoundsReading (fuel : Nat) : Prop where
  value : ∀ {depth : Nat} {text rest : Text} {value : Json}, depth ≤ maxDepth →
    readValue fuel depth text = .ok (value, rest) → Bounded (maxDepth - depth) value
  items : ∀ {depth : Nat} {text rest : Text} {items : List Json}, depth ≤ maxDepth →
    readItems fuel depth text = .ok (items, rest) →
      ∀ item ∈ items, Bounded (maxDepth - depth) item
  members : ∀ {depth : Nat} {text rest : Text} {members : List (WideText × Json)},
    depth ≤ maxDepth → readMembers fuel depth text = .ok (members, rest) →
      ∀ member ∈ members, Bounded (maxDepth - depth) member.2

theorem boundsReading (fuel : Nat) : BoundsReading fuel := by
  induction fuel with
  | zero =>
      refine ⟨?_, ?_, ?_⟩
      all_goals
        intro depth text rest found _ h
        cases h
  | succ fuel ih =>
      refine ⟨?_, ?_, ?_⟩
      · intro depth text rest value _ h
        rcases readValue_cases h with ⟨s, rfl⟩ | hScalar | ⟨hDepth, hBrackets⟩
        · exact ⟨Nat.zero_le _, rfl⟩
        · exact bounded_readScalar hScalar _
        · rw [show maxDepth - depth = maxDepth - (depth + 1) + 1 by omega]
          rcases hBrackets with rfl | rfl | ⟨items, later, rfl, hItems⟩ |
            ⟨members, later, rfl, hMembers⟩
          · simp [bounded_arr]
          · simp [bounded_obj]
          · exact bounded_arr.mpr (ih.items hDepth hItems)
          · rw [bounded_obj]
            intro member hMember
            exact ih.members hDepth hMembers member (Entries.mem_of_mem_ofList hMember)
      · intro depth text rest items hDepth h
        obtain ⟨item, others, rfl, ⟨later, hItem⟩, hOthers⟩ := readItems_cases h
        rw [List.forall_mem_cons]
        refine ⟨ih.value hDepth hItem, ?_⟩
        rcases hOthers with rfl | ⟨later, hOthers⟩
        · simp
        · exact ih.items hDepth hOthers
      · intro depth text rest members hDepth h
        obtain ⟨member, others, rfl, ⟨body, later, hValue⟩, hOthers⟩ := readMembers_cases h
        rw [List.forall_mem_cons]
        refine ⟨ih.value hDepth hValue, ?_⟩
        rcases hOthers with rfl | ⟨later, hOthers⟩
        · simp
        · exact ih.members hDepth hOthers

/-- What a text is read as lies within the bounds for brackets and numbers. -/
theorem bounded_of_read {text : Text} {value : Json} (h : read text = .ok value) :
    Bounded maxDepth value := by
  rw [read.eq_def] at h
  split at h
  · cases h
  · obtain ⟨⟨found, later⟩, hValue, h⟩ := Action.exists_of_bind_ok h
    simp only at h
    split at h
    · cases h
      exact (boundsReading _).value (Nat.zero_le maxDepth) hValue
    · cases h

end Json

end PoolLogin
