import PoolLogin.Console.Line
import PoolLogin.Proofs.Text.Lines

/-! Texts that are printed as they are. What the console drops or changes is
a control character, so a text without any is printed unchanged. -/

namespace PoolLogin.Console

/-- A character that is printed as it is. -/
def IsShown (c : Char) : Prop := isDropped c = false ∧ c ≠ '\t'

instance (c : Char) : Decidable (IsShown c) := inferInstanceAs (Decidable (_ ∧ _))

/-- The control characters that are never printed, by their numbers. -/
theorem isDropped_iff {c : Char} : isDropped c = true ↔ c.toNat ∈ [7, 8, 11, 12, 13] := by
  simp [isDropped, ← Char.toNat_inj, or_assoc]

/-- The text without certain characters, by their numbers. -/
theorem dropControls_eq (text : Text) :
    dropControls text = text.filter fun c => c.toNat ∉ [7, 8, 11, 12, 13] := by
  apply List.filter_congr
  intro c _
  rw [Bool.eq_iff_iff, Bool.not_eq_true', Bool.eq_false_iff, Ne, isDropped_iff, decide_eq_true_eq]

theorem isShown_of_toNat {c : Char} (h : c.toNat ∉ [7, 8, 9, 11, 12, 13]) : IsShown c := by
  refine ⟨?_, ?_⟩
  · rw [Bool.eq_false_iff, Ne, isDropped_iff]
    simp only [List.mem_cons, not_or] at h ⊢
    exact ⟨h.1, h.2.1, h.2.2.2⟩
  · rintro rfl
    exact h (by decide)

theorem isShown_of_le {c : Char} (h : 0x20 ≤ c.toNat) : IsShown c := by
  have hNot : ∀ d : Char, d.toNat < 0x20 → c ≠ d := by
    rintro d hd rfl
    omega
  simp [IsShown, isDropped, hNot]

theorem dropControls_of_shown {text : Text} (h : ∀ c ∈ text, IsShown c) :
    dropControls text = text := by
  apply List.filter_eq_self.mpr
  intro c hc
  simp [(h c hc).1]

/-- Without tabs there is nothing to expand. -/
theorem expandTabsIn_of_notMem {α : Type} {char : α → Char} {blank : α} {line : List α}
    (h : ∀ a ∈ line, char a ≠ '\t') : expandTabsIn char blank line = line := by
  rw [expandTabsIn, Text.splitAt_of_none fun a ha => beq_eq_false_iff_ne.mpr (h a ha)]
  rfl

theorem expandTabs_of_notMem {line : Text} (h : '\t' ∉ line) : expandTabs line = line :=
  expandTabsIn_of_notMem fun _ hc => ne_of_mem_of_not_mem hc h

theorem expandTabs_of_shown {line : Text} (h : ∀ c ∈ line, IsShown c) : expandTabs line = line :=
  expandTabs_of_notMem fun hTab => (h '\t' hTab).2 rfl

/-- A text in which nothing is dropped or changed is printed as it is. -/
theorem print_of_shown {text : Text} (h : ∀ c ∈ text, IsShown c) : print text = text ++ ['\n'] := by
  have hLines : (Text.splitLines text).map expandTabs = Text.splitLines text := by
    rw [List.map_congr_left (g := id), List.map_id]
    intro line hLine
    exact expandTabs_of_shown fun c hc => h c (Text.mem_splitAt hLine c hc).1
  rw [print, dropControls_of_shown h, hLines, Text.joinWith_splitLines]

end PoolLogin.Console
