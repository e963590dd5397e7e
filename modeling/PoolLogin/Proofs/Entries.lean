import PoolLogin.Entries

/-! Looking up a key after the entries of a map have changed. Keys that are
compared by equality are independent of each other. -/

namespace PoolLogin.Entries

variable {κ α : Type} [BEq κ] [LawfulBEq κ]

theorem get?_put_self (key : κ) (value : α) (entries : Entries κ α) :
    (entries.put key value).get? key = some value := by
  induction entries with
  | nil => simp [put, get?]
  | cons entry entries ih =>
      obtain ⟨k, a⟩ := entry
      by_cases h : k = key
      · simp [put, get?, h]
      · simp [put, get?, h, ih]

theorem get?_put_of_ne {key other : κ} (h : other ≠ key) (value : α) (entries : Entries κ α) :
    (entries.put key value).get? other = entries.get? other := by
  induction entries with
  | nil => simp [put, get?, Ne.symm h]
  | cons entry entries ih =>
      obtain ⟨k, a⟩ := entry
      by_cases hKey : k = key
      · simp [put, get?, hKey, Ne.symm h]
      · by_cases hOther : k = other
        · simp [put, get?, hOther, h]
        · simp [put, get?, hKey, hOther, ih]

theorem get?_erase_self (key : κ) (entries : Entries κ α) :
    (entries.erase key).get? key = none := by
  induction entries with
  | nil => rfl
  | cons entry entries ih =>
      obtain ⟨k, a⟩ := entry
      simp only [erase] at ih
      by_cases h : k = key
      · simp [erase, h, ih]
      · simp [erase, get?, h, ih]

theorem get?_erase_of_ne {key other : κ} (h : other ≠ key) (entries : Entries κ α) :
    (entries.erase key).get? other = entries.get? other := by
  induction entries with
  | nil => rfl
  | cons entry entries ih =>
      obtain ⟨k, a⟩ := entry
      simp only [erase] at ih
      by_cases hKey : k = key
      · simp [erase, get?, hKey, Ne.symm h, ih]
      · simp [erase, get?, hKey, ih]

/-- Entries at the end count for the keys that come first in them. -/
theorem get?_append (key : κ) (entries later : Entries κ α) :
    Entries.get? key (entries ++ later) = (entries.get? key).or (later.get? key) := by
  induction entries with
  | nil => rfl
  | cons entry entries ih =>
      obtain ⟨k, a⟩ := entry
      by_cases hKey : k = key
      · simp [get?, hKey]
      · simp [get?, hKey, ih]

theorem get?_map_const [DecidableEq κ] (key : κ) (keys : List κ) (value : α) :
    Entries.get? key (keys.map fun k => (k, value)) = if key ∈ keys then some value else none := by
  induction keys with
  | nil => rfl
  | cons k keys ih =>
      by_cases hKey : k = key
      · simp [get?, hKey]
      · simp [get?, hKey, ih, Ne.symm hKey]

/-- A key that has a value is the key of an entry. -/
theorem exists_mem_of_get? {key : κ} {entries : Entries κ α} (h : entries.get? key ≠ none) :
    ∃ entry ∈ entries, entry.1 = key := by
  induction entries with
  | nil => exact absurd rfl h
  | cons entry entries ih =>
      obtain ⟨k, a⟩ := entry
      by_cases hKey : k = key
      · exact ⟨(k, a), List.mem_cons_self, hKey⟩
      · rw [get?, if_neg (by simpa using hKey)] at h
        obtain ⟨other, hOther, hEq⟩ := ih h
        exact ⟨other, List.mem_cons_of_mem (k, a) hOther, hEq⟩

/-! ### Lists of pairs -/

theorem mem_put {key : κ} {value : α} {entries : Entries κ α} {entry : κ × α}
    (h : entry ∈ entries.put key value) : entry = (key, value) ∨ entry ∈ entries := by
  induction entries with
  | nil => exact Or.inl (List.mem_singleton.mp h)
  | cons first entries ih =>
      obtain ⟨k, a⟩ := first
      by_cases hKey : k = key
      · rw [put, if_pos (by simpa using hKey), hKey] at h
        exact (List.mem_cons.mp h).imp id (List.mem_cons_of_mem (k, a))
      · rw [put, if_neg (by simpa using hKey), List.mem_cons] at h
        rcases h with rfl | hRest
        · exact Or.inr List.mem_cons_self
        · exact (ih hRest).imp id (List.mem_cons_of_mem (k, a))

/-- A map has no entries but the pairs that describe it. -/
theorem mem_of_mem_ofList {pairs : List (κ × α)} {entry : κ × α} (h : entry ∈ ofList pairs) :
    entry ∈ pairs := by
  have hFold : ∀ entries : Entries κ α,
      entry ∈ pairs.foldl (fun entries pair => entries.put pair.1 pair.2) entries →
        entry ∈ entries ∨ entry ∈ pairs := by
    clear h
    induction pairs with
    | nil => exact fun entries h => Or.inl h
    | cons pair pairs ih =>
        intro entries h
        rcases ih _ h with hPut | hRest
        · rcases mem_put hPut with rfl | hOld
          · exact Or.inr List.mem_cons_self
          · exact Or.inl hOld
        · exact Or.inr (List.mem_cons_of_mem pair hRest)
  rcases hFold [] h with hNone | hPair
  · cases hNone
  · exact hPair

theorem put_of_notMem {key : κ} {entries : Entries κ α} (h : key ∉ entries.map (·.1)) (value : α) :
    entries.put key value = entries ++ [(key, value)] := by
  induction entries with
  | nil => rfl
  | cons entry entries ih =>
      obtain ⟨k, a⟩ := entry
      rw [List.map_cons, List.mem_cons, not_or] at h
      have hKey : (k == key) = false := beq_eq_false_iff_ne.mpr (Ne.symm h.1)
      rw [put, if_neg (by simp [hKey]), ih h.2]
      rfl

theorem foldl_put (entries : Entries κ α) {pairs : Entries κ α}
    (h : ((entries ++ pairs).map (·.1)).Nodup) :
    pairs.foldl (fun entries pair => entries.put pair.1 pair.2) entries = entries ++ pairs := by
  induction pairs generalizing entries with
  | nil => exact (List.append_nil entries).symm
  | cons pair pairs ih =>
      have hPair : pair.1 ∉ entries.map (·.1) := by
        rw [List.map_append, List.map_cons, List.nodup_append] at h
        intro hMem
        exact h.2.2 pair.1 hMem pair.1 List.mem_cons_self rfl
      have hRest : ((entries ++ [pair] ++ pairs).map (·.1)).Nodup := by
        simpa [List.append_assoc] using h
      rw [List.foldl_cons, put_of_notMem hPair, ih _ hRest, List.append_assoc]
      rfl

/-- Pairs with different keys are the entries of a map as they are. -/
theorem ofList_of_nodup {pairs : List (κ × α)} (h : (pairs.map (·.1)).Nodup) :
    ofList pairs = pairs :=
  foldl_put [] h

end PoolLogin.Entries
