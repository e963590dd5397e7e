import PoolLogin.Proofs.Action
import PoolLogin.Proofs.Json.Value

/-! What is written as JSON is read as what it was, in any style in which
texts can be read. -/

namespace PoolLogin.Json

variable {style : Style} {depth fuel : Nat} {rest : Text}

/-! ### Items and members as they are written -/

/-- Items as they stand between two brackets. -/
def itemsText (style : Style) (depth : Nat) (items : List Json) : Text :=
  Text.joinWith (style.comma ++ style.newline depth) (writeItems style depth items)

/-- Members as they stand between two brackets. -/
def membersText (style : Style) (depth : Nat) (members : List (WideText × Json)) : Text :=
  Text.joinWith (style.comma ++ style.newline depth) (writeMembers style depth members)

theorem writeAt_arr (item : Json) (items : List Json) :
    writeAt style depth (.arr (item :: items)) = '[' :: (style.newline (depth + 1) ++
      itemsText style (depth + 1) (item :: items) ++ style.newline depth ++ [']']) := rfl

theorem writeAt_obj (member : WideText × Json) (members : List (WideText × Json)) :
    writeAt style depth (.obj (member :: members)) = '\x7b' :: (style.newline (depth + 1) ++
      membersText style (depth + 1) (member :: members) ++ style.newline depth ++ ['\x7d']) := rfl

@[simp] theorem itemsText_singleton (item : Json) :
    itemsText style depth [item] = writeAt style depth item := rfl

@[simp] theorem itemsText_cons_cons (first second : Json) (items : List Json) :
    itemsText style depth (first :: second :: items) = writeAt style depth first ++
      (style.comma ++ style.newline depth) ++ itemsText style depth (second :: items) := rfl

@[simp] theorem membersText_singleton (key : WideText) (value : Json) :
    membersText style depth [(key, value)] =
      writeText style key ++ style.colon ++ writeAt style depth value := rfl

@[simp] theorem membersText_cons_cons (key : WideText) (value : Json)
    (second : WideText × Json) (members : List (WideText × Json)) :
    membersText style depth ((key, value) :: second :: members) =
      writeText style key ++ style.colon ++ writeAt style depth value ++
        (style.comma ++ style.newline depth) ++ membersText style depth (second :: members) := rfl

theorem head_itemsText (style : Style) {item : Json} (h : Readable depth item) (items : List Json) :
    ∃ c later, itemsText style depth (item :: items) = c :: later ∧ startsValue c := by
  obtain ⟨c, later, hEq, hStart⟩ := head_writeAt style h
  cases items with
  | nil => exact ⟨c, later, hEq, hStart⟩
  | cons second items =>
      rw [itemsText_cons_cons, hEq]
      exact ⟨c, _, rfl, hStart⟩

theorem head_membersText (style : Style) (depth : Nat) (member : WideText × Json)
    (members : List (WideText × Json)) :
    ∃ later, membersText style depth (member :: members) = '"' :: later := by
  cases members <;> exact ⟨_, rfl⟩

/-! ### Reading them -/

variable (hStyle : style.Legible)

include hStyle

/-- What stands between two items, without its comma, is white space. -/
theorem comma_newline (depth : Nat) :
    ∃ spaces, IsSpaces spaces ∧ style.comma ++ style.newline depth = ',' :: spaces := by
  obtain ⟨spaces, hComma, hSpaces⟩ := hStyle.comma
  exact ⟨spaces ++ style.newline depth, hSpaces.append (hStyle.newline depth), by rw [hComma]; rfl⟩

/-- Values that are written are read with this much fuel, whatever they end before. -/
def ReadsValues (style : Style) (fuel : Nat) : Prop :=
  ∀ {depth : Nat} {rest : Text} (value : Json), Readable depth value →
    2 * (writeAt style depth value).length ≤ fuel → EndsValue rest →
    readValue fuel depth (writeAt style depth value ++ rest) = .ok (value, rest)

/-- Items that are written are read with this much fuel, up to the bracket behind them. -/
def ReadsItems (style : Style) (fuel : Nat) : Prop :=
  ∀ {depth : Nat} {spaces : Text} (item : Json) (items : List Json) (rest : Text),
    AllReadable depth (item :: items) → IsSpaces spaces →
    2 * (itemsText style depth (item :: items)).length + 1 ≤ fuel →
    readItems fuel depth (itemsText style depth (item :: items) ++ (spaces ++ ']' :: rest)) =
      .ok (item :: items, rest)

/-- Members that are written are read with this much fuel, up to the bracket behind them. -/
def ReadsMembers (style : Style) (fuel : Nat) : Prop :=
  ∀ {depth : Nat} {spaces : Text} (member : WideText × Json) (members : List (WideText × Json))
    (rest : Text), MembersReadable depth (member :: members) → IsSpaces spaces →
    2 * (membersText style depth (member :: members)).length + 1 ≤ fuel →
    readMembers fuel depth (membersText style depth (member :: members) ++
      (spaces ++ '\x7d' :: rest)) = .ok (member :: members, rest)

theorem readValue_written_arr (hItems : ReadsItems style fuel) (item : Json) (items : List Json)
    (h : Readable depth (.arr (item :: items)))
    (hFuel : 2 * (writeAt style depth (.arr (item :: items))).length ≤ fuel + 1) :
    readValue (fuel + 1) depth (writeAt style depth (.arr (item :: items)) ++ rest) =
      .ok (.arr (item :: items), rest) := by
  rw [Readable] at h
  obtain ⟨c, later, hHead, hStart⟩ := head_itemsText style h.2.1 items
  have hBody := hItems item items rest h.2 (hStyle.newline depth) (by
    simp only [writeAt_arr, List.length_cons, List.length_append] at hFuel
    omega)
  rw [hHead, List.cons_append] at hBody
  have hRead := readValue_arr h.1 (hStyle.newline (depth + 1)) hStart hBody
  rw [writeAt_arr, hHead]
  simpa only [List.append_assoc, List.cons_append, List.nil_append] using hRead

theorem readValue_written_obj (hMembers : ReadsMembers style fuel) (member : WideText × Json)
    (members : List (WideText × Json)) (h : Readable depth (.obj (member :: members)))
    (hFuel : 2 * (writeAt style depth (.obj (member :: members))).length ≤ fuel + 1) :
    readValue (fuel + 1) depth (writeAt style depth (.obj (member :: members)) ++ rest) =
      .ok (.obj (member :: members), rest) := by
  rw [Readable] at h
  obtain ⟨later, hHead⟩ := head_membersText style (depth + 1) member members
  have hBody := hMembers member members rest h.2.2 (hStyle.newline depth) (by
    simp only [writeAt_obj, List.length_cons, List.length_append] at hFuel
    omega)
  rw [hHead, List.cons_append] at hBody
  have hRead := readValue_obj h.1 (hStyle.newline (depth + 1)) hBody
  rw [Entries.ofList_of_nodup h.2.1] at hRead
  rw [writeAt_obj, hHead]
  simpa only [List.append_assoc, List.cons_append, List.nil_append] using hRead

theorem readsValues_succ (hItems : ReadsItems style fuel) (hMembers : ReadsMembers style fuel) :
    ReadsValues style (fuel + 1) := by
  intro depth rest value h hFuel hEnds
  match value with
  | .null => exact readScalar_null rest
  | .bool true => exact readScalar_true rest
  | .bool false => exact readScalar_false rest
  | .int n =>
      obtain ⟨c, digits, hEq, hStart, _⟩ := decimal_eq_cons n
      have hNot := ne_of_startsNumber hStart ['"', '[', '\x7b'] rfl
      simp only [List.forall_mem_cons, List.not_mem_nil, false_implies, implies_true,
        and_true] at hNot
      rw [writeAt, hEq, List.cons_append, readValue_scalar (Ne.symm hNot.1) (Ne.symm hNot.2.1)
        (Ne.symm hNot.2.2), ← List.cons_append, ← hEq]
      exact readScalar_decimal h hEnds
  | .float x => simp [Readable] at h
  | .string s =>
      obtain ⟨text, rfl⟩ := WideText.exists_ofText h
      have hRead := readText_writeText hStyle text rest
      rw [writeAt]
      rw [writeText, List.cons_append] at hRead ⊢
      rw [readValue, hRead]
      rfl
  | .arr [] =>
      rw [Readable] at h
      simp only [writeAt, writeItems, enclose, List.cons_append, List.nil_append, readValue]
      rw [if_neg (by omega)]
      rfl
  | .arr (item :: items) => exact readValue_written_arr hStyle hItems item items h hFuel
  | .obj [] =>
      rw [Readable] at h
      simp only [writeAt, writeMembers, enclose, List.cons_append, List.nil_append, readValue]
      rw [if_neg (by omega)]
      rfl
  | .obj (member :: members) => exact readValue_written_obj hStyle hMembers member members h hFuel

theorem readsItems_succ (hValues : ReadsValues style fuel) (hItems : ReadsItems style fuel) :
    ReadsItems style (fuel + 1) := by
  intro depth spaces item items rest h hSpaces hFuel
  obtain ⟨hItem, hRest⟩ := h
  match items with
  | [] =>
      apply readItems_last hSpaces
      rw [itemsText_singleton] at hFuel ⊢
      exact hValues item hItem (by omega) (endsValue_spaces hSpaces (by simp) rest)
  | second :: items =>
      obtain ⟨blanks, hBlanks, hComma⟩ := comma_newline hStyle depth
      obtain ⟨c, later, hHead, hStart⟩ := head_itemsText style hRest.1 items
      rw [itemsText_cons_cons, hComma] at hFuel ⊢
      simp only [List.length_append, List.length_cons] at hFuel
      simp only [List.append_assoc, List.cons_append]
      refine readItems_next ⟨blanks, hBlanks, ?_⟩ ?_
        (hItems second items _ hRest hSpaces (by omega))
      · exact hValues item hItem (by omega) (fun d hd => by cases hd; simp)
      · rw [hHead, List.cons_append, skipSpace_of_startsValue hStart]

theorem readsMembers_succ (hValues : ReadsValues style fuel) (hMembers : ReadsMembers style fuel) :
    ReadsMembers style (fuel + 1) := by
  intro depth spaces member members rest h hSpaces hFuel
  obtain ⟨key, value⟩ := member
  obtain ⟨hKey, hValue, hRest⟩ := h
  obtain ⟨text, rfl⟩ := WideText.exists_ofText hKey
  obtain ⟨c, later, hHead, hStart⟩ := head_writeAt style hValue
  obtain ⟨colonSpaces, hColon, hColonSpaces⟩ := hStyle.colon
  have hBody : ∀ rest, skipSpace (writeAt style depth value ++ rest) =
      writeAt style depth value ++ rest := by
    intro rest
    rw [hHead, List.cons_append, skipSpace_of_startsValue hStart]
  match members with
  | [] =>
      have hRead := readText_writeText hStyle text
        (':' :: (colonSpaces ++ (writeAt style depth value ++ (spaces ++ '\x7d' :: rest))))
      rw [membersText_singleton, hColon] at hFuel ⊢
      simp only [List.length_append, List.length_cons] at hFuel
      simp only [List.append_assoc, List.cons_append]
      rw [writeText, List.cons_append] at hRead ⊢
      apply readMembers_last ⟨colonSpaces, hColonSpaces, hRead⟩ (hBody _) hSpaces
      exact hValues value hValue (by omega) (endsValue_spaces hSpaces (by simp) rest)
  | second :: members =>
      obtain ⟨blanks, hBlanks, hComma⟩ := comma_newline hStyle depth
      obtain ⟨later, hNext⟩ := head_membersText style depth second members
      have hRead := readText_writeText hStyle text
        (':' :: (colonSpaces ++ (writeAt style depth value ++ (',' :: (blanks ++
          (membersText style depth (second :: members) ++ (spaces ++ '\x7d' :: rest)))))))
      rw [membersText_cons_cons, hColon, hComma] at hFuel ⊢
      simp only [List.length_append, List.length_cons] at hFuel
      simp only [List.append_assoc, List.cons_append]
      rw [writeText, List.cons_append] at hRead ⊢
      refine readMembers_next ⟨colonSpaces, hColonSpaces, hRead⟩ (hBody _) ⟨blanks, hBlanks, ?_⟩ ?_
        (hMembers second members _ hRest hSpaces (by omega))
      · exact hValues value hValue (by omega) (fun d hd => by cases hd; simp)
      · rw [hNext, List.cons_append, skipSpace_cons rfl]

/-- Whatever is written is read, with fuel for two steps a character. -/
theorem reads_written (fuel : Nat) :
    ReadsValues style fuel ∧ ReadsItems style fuel ∧ ReadsMembers style fuel := by
  induction fuel with
  | zero =>
      refine ⟨?_, fun _ _ _ _ _ hFuel => by omega, fun _ _ _ _ _ hFuel => by omega⟩
      intro depth rest value h hFuel
      obtain ⟨c, later, hHead, _⟩ := head_writeAt style h
      rw [hHead, List.length_cons] at hFuel
      omega
  | succ fuel ih =>
      obtain ⟨hValues, hItems, hMembers⟩ := ih
      exact ⟨readsValues_succ hStyle hItems hMembers, readsItems_succ hStyle hValues hItems,
        readsMembers_succ hStyle hValues hMembers⟩

/-! ### Whole texts -/

/-- A value that is written, with white space behind it, is read as itself. -/
theorem read_write {value : Json} (h : Readable 0 value) {spaces : Text}
    (hSpaces : IsSpaces spaces) :
    read (write style value ++ spaces) = .ok value := by
  obtain ⟨c, later, hHead, hStart⟩ := head_writeAt style h
  have hRead := (reads_written hStyle (2 * (writeAt style 0 value ++ spaces).length + 2)).1 value h
    (by rw [List.length_append]; omega)
    (fun d hd => Or.inl (hSpaces d (List.mem_of_mem_head? hd)))
  have hMark : c ≠ '\uFEFF' := by
    simp only [startsValue, Bool.and_eq_true, bne_iff_ne] at hStart
    exact hStart.2
  have hBlank : skipSpace spaces = [] := by
    rw [← List.append_nil spaces, skipSpace_append hSpaces]
    rfl
  rw [hHead, List.cons_append] at hRead
  rw [write, hHead, List.cons_append, read]
  · rw [skipSpace_of_startsValue hStart, hRead]
    simp only [bind, Except.bind, hBlank]
    rfl
  · rintro rest hEq
    exact hMark (List.cons.inj hEq).1

/-- A value that is written is read as itself. -/
theorem read_write_alone {value : Json} (h : Readable 0 value) :
    read (write style value) = .ok value := by
  have hRead := read_write hStyle h (show IsSpaces [] by simp [IsSpaces])
  rwa [List.append_nil] at hRead

/-- Values that are written one by one are read as themselves. -/
theorem mapM_read_write {values : List Json} (h : ∀ value ∈ values, Readable 0 value) :
    (values.map (write style)).mapM read = .ok values := by
  have hRead : (values.map (write style)).mapM read = .ok (values.map id) := by
    rw [List.mapM_map]
    apply Action.mapM_ok
    intro value hValue
    exact read_write_alone hStyle (h value hValue)
  rwa [List.map_id] at hRead

end PoolLogin.Json
