import PoolLogin.Login.Parse
import PoolLogin.Proofs.Text.Split

/-! Worker names that may hold surrogates. Where they hold none, they are read
as the texts that they are. -/

namespace PoolLogin

theorem CodePoint.char_injective : Function.Injective CodePoint.char := by
  intro c d h
  cases h
  rfl

namespace Parts

variable {α β : Type} [DecidableEq α] [DecidableEq β] {f : α → β} (hf : Function.Injective f)

include hf

theorem readTail_map (field domain : α) (head tail : List α) :
    readTail (f field) (f domain) (head.map f) (tail.map f) =
      (readTail field domain head tail).map (List.map f) := by
  rw [readTail, readTail, Text.splitOnce_map hf]
  cases Text.splitOnce [domain] tail with
  | mk secondary rest =>
      cases rest with
      | none => rfl
      | some rest =>
          simp only [Option.map_some]
          rw [Text.splitOnce_map hf]
          rfl

theorem split_map (field domain : α) (name : List α) :
    split (f field) (f domain) (name.map f) = (split field domain name).map (List.map f) := by
  rw [split, split, Text.splitOnce_map hf]
  cases Text.splitOnce [field] name with
  | mk head tail =>
      cases tail with
      | none => rfl
      | some tail => exact readTail_map hf field domain head tail

/-- Reading a name goes together with any injective change of what it is made of. -/
theorem read_map (field domain : α) (name : List α) :
    read (f field) (f domain) (name.map f) = (read field domain name).map (List.map f) := by
  have hEmpty : ((split field domain name).map (List.map f)).primary.isEmpty =
      (split field domain name).primary.isEmpty := List.isEmpty_map
  simp only [read, split_map hf, hEmpty]
  split_ifs <;> rfl

end Parts

/-- A text is read in the same way where surrogates could be. -/
theorem Login.parseWide_ofText (name : Text) :
    parseWide (.ofText name) = (parse name).map .ofText :=
  Parts.read_map CodePoint.char_injective fieldDelimiter domainDelimiter name

end PoolLogin
