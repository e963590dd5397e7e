import PoolLogin.Proofs.FileTree.Write
import PoolLogin.Proofs.Text.Lines

/-! Reading files. A file whose content is known is found and read, and then
its path was a text that the system takes. -/

namespace PoolLogin

/-! ### Paths as texts -/

namespace Path

/-- Normalising a path takes nothing out of it but slashes and dots. -/
theorem mem_toText_ofText {text : Text} {c : Char} (h : c ∈ text) (hSlash : c ≠ '/')
    (hDot : c ≠ '.') : c ∈ (ofText text).toText := by
  obtain ⟨name, hName, hc⟩ := Text.exists_mem_splitAt (· == '/') h
    (beq_eq_false_iff_ne.mpr hSlash)
  have hKept : name ∈ (ofText text).names := by
    refine List.mem_filter.mpr ⟨hName, ?_⟩
    rw [Bool.not_eq_true', Bool.or_eq_false_iff]
    constructor
    · rw [List.isEmpty_eq_false_iff]
      exact List.ne_nil_of_mem hc
    · rw [beq_eq_false_iff_ne]
      rintro rfl
      exact hDot (List.mem_singleton.mp hc)
  have hNames : (ofText text).names.isEmpty = false := by
    rw [List.isEmpty_eq_false_iff]
    exact List.ne_nil_of_mem hKept
  rw [toText, hNames, Bool.and_false, if_neg Bool.false_ne_true, List.mem_append]
  exact Or.inr (Text.mem_joinWith_of_mem ['/'] hKept hc)

/-- The ending of a name is an ending of it. -/
theorem nameSuffix_suffix (name : Text) : nameSuffix name <:+ name := by
  simp only [nameSuffix]
  split_ifs with h
  · simp only [Bool.and_eq_true, List.contains_iff_mem] at h
    obtain ⟨ending, before, hName, hDots⟩ := List.eq_append_cons_of_mem (List.mem_reverse.mpr h.1.1)
    have hEnding : name.reverse.takeWhile (· != '.') = ending := by
      rw [hName, List.takeWhile_append_of_pos, List.takeWhile_cons, if_neg (by simp),
        List.append_nil]
      intro c hc
      rw [bne_iff_ne]
      rintro rfl
      exact hDots hc
    refine ⟨before.reverse, ?_⟩
    rw [hEnding, ← List.reverse_reverse name, hName]
    simp
  · exact List.nil_suffix

end Path

namespace FileTree

variable {tree : FileTree} {path : Path} {content : Bytes}

theorem readFile_of_content? (h : tree.content? path = some content) :
    tree.readFile path = .ok content := by
  obtain ⟨place, hPlace, hNode⟩ := place_of_content? h
  rw [readFile_eq, hPlace]
  simp only [hNode]

theorem findFile_of_content? (h : tree.content? path = some content) :
    tree.findFile path = .ok (some content) := by
  obtain ⟨place, hPlace, _⟩ := place_of_content? h
  rw [findFile, hPlace, h]

/-- Only a file that is there is found. -/
theorem content?_of_findFile (h : tree.findFile path = .ok (some content)) :
    tree.content? path = some content := by
  rw [findFile] at h
  split at h
  · cases h
  · exact Except.ok.inj h

/-- A file stays as it is while another one changes. -/
theorem AgreesOff.content?_of_ne {after : FileTree} {place : Path}
    (h : AgreesOff (some place) tree after) (hContent : tree.content? path = some content)
    (hPath : tree.place path ≠ .ok place) : after.content? path = some content := by
  obtain ⟨other, hOther, hNode⟩ := place_of_content? hContent
  have hNe : other ≠ place := by
    rintro rfl
    exact hPath hOther
  rw [content?_of_place (place_mono h.directories hOther), h.files other (by simpa using hNe),
    fileAt?_of_file hNode]

/-- A path that leads somewhere does not hold the character that ends the texts of the system. -/
theorem nul_notMem_of_content? {text : Text} (h : tree.content? (.ofText text) = some content) :
    '\x00' ∉ text := by
  intro hNul
  have hText := Path.mem_toText_ofText hNul (by decide) (by decide)
  obtain ⟨place, hPlace, _⟩ := place_of_content? h
  rw [FileTree.place, if_pos (by simpa using hText)] at hPlace
  cases hPlace

end FileTree

end PoolLogin
