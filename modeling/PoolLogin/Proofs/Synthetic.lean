import Mathlib.Data.List.GetD
import PoolLogin.Proofs.Login.Form
import PoolLogin.Proofs.Login.Truncate
import PoolLogin.Synthetic.Twister

/-! Made-up worker names. Whatever letters and shapes are drawn, every name is
read as what its shape says and none is cut, and a longer list of names starts
with the shorter one. -/

namespace PoolLogin.Synthetic

open Login

variable {σ : Type} (source : Source σ)

/-- A word of `size` letters of the alphabet. -/
def IsWord (size : Nat) (word : Text) : Prop := word.length = size ∧ ∀ c ∈ word, c ∈ alphabet

/-- A made-up name of a shape, and the parts that it is made of. -/
inductive Shape.Makes : Shape → Text → Login → Prop where
  | bare {id : Text} (hId : IsWord 39 id) : Makes bare (idStart ++ id) { primary := idStart ++ id }
  | suffixed {id group rig : Text} (hId : IsWord 39 id) (hGroup : IsWord 6 group)
      (hRig : IsWord 4 rig) :
      Makes suffixed (idStart ++ id ++ '.' :: group ++ '.' :: rig)
        { primary := idStart ++ id, suffix := some (group ++ '.' :: rig) }
  | full {id secondary domain rig : Text} (hId : IsWord 39 id) (hSecondary : IsWord 8 secondary)
      (hDomain : IsWord 10 domain) (hRig : IsWord 6 rig) :
      Makes full (idStart ++ id ++ '.' :: secondary ++ '@' :: domain ++ ".com.".toList ++ rig)
        { primary := idStart ++ id, secondary := some secondary, domain := some domain
          suffix := some ("com.".toList ++ rig) }

/-- The shapes that are drawn for names. -/
def shapes : (count : Nat) → σ → List Shape
  | 0, _ => []
  | count + 1, s => (source.shape s).1 :: shapes count (name source s).2

/-! ### Words -/

theorem letterAt_mem (n : Fin 36) : letterAt n ∈ alphabet := by
  have hLength : n.val < alphabet.length := n.isLt
  rw [letterAt, List.getD_eq_getElem alphabet 'a' hLength]
  exact List.getElem_mem hLength

theorem isWord_token (size : Nat) (s : σ) : IsWord size (token source size s).1 := by
  induction size generalizing s with
  | zero => exact ⟨rfl, fun c hc => absurd hc List.not_mem_nil⟩
  | succ size ih =>
      obtain ⟨hLength, hLetters⟩ := ih (source.letter s).2
      refine ⟨congrArg Nat.succ hLength, fun c hc => ?_⟩
      rcases List.mem_cons.mp hc with rfl | hRest
      · exact letterAt_mem _
      · exact hLetters c hRest

theorem field_notMem_alphabet : fieldDelimiter ∉ alphabet := by decide +kernel

theorem domain_notMem_alphabet : domainDelimiter ∉ alphabet := by decide +kernel

theorem ascii_of_mem_alphabet : ∀ c ∈ alphabet, c.toNat < 0x80 :=
  List.forall_iff_forall_mem.mp (by decide +kernel)

theorem IsWord.notMem {size : Nat} {word : Text} (h : IsWord size word) {c : Char}
    (hc : c ∉ alphabet) : c ∉ word := fun hMem => hc (h.2 c hMem)

/-! ### One name -/

namespace Shape.Makes

variable {shape : Shape} {name : Text} {login : Login}

/-- The payout id and the domain hold no field delimiter, and what stands in
front of a domain no domain delimiter, so every part ends where it should. -/
theorem parse_eq (h : shape.Makes name login) : parse name = login := by
  have hHead : ∀ {id : Text}, IsWord 39 id → fieldDelimiter ∉ idStart ++ id := fun hId =>
    List.not_mem_append (by decide) (hId.notMem field_notMem_alphabet)
  cases h with
  | @bare id hId =>
      have hParse := parse_name ⟨idStart ++ id, .nothing⟩ ⟨hHead hId, trivial⟩
      rwa [Form.name, Tail.text_nothing, List.append_nil] at hParse
  | @suffixed id group rig hId hGroup hRig =>
      have hSuffix : domainDelimiter ∉ group ++ fieldDelimiter :: rig := by
        refine List.not_mem_append (hGroup.notMem domain_notMem_alphabet) ?_
        rw [List.mem_cons, not_or]
        exact ⟨by decide, hRig.notMem domain_notMem_alphabet⟩
      have hParse := parse_name ⟨idStart ++ id, .suffix (group ++ fieldDelimiter :: rig)⟩
        ⟨hHead hId, hSuffix⟩
      rw [List.append_assoc]
      exact hParse
  | @full id secondary domain rig hId hSecondary hDomain hRig =>
      have hParse := parse_name
        ⟨idStart ++ id, .lightning secondary domain (some ("com.".toList ++ rig))⟩
        ⟨hHead hId, hSecondary.notMem domain_notMem_alphabet, hDomain.notMem field_notMem_alphabet⟩
      rw [Form.name, Tail.text_lightning] at hParse
      rw [List.append_assoc, List.append_assoc, List.append_assoc, List.cons_append]
      exact hParse

theorem ascii (h : shape.Makes name login) : ∀ c ∈ name, c.toNat < 0x80 := by
  have hStart : ∀ c ∈ idStart, c.toNat < 0x80 := List.forall_iff_forall_mem.mp (by decide +kernel)
  have hEnd : ∀ c ∈ ".com.".toList, c.toNat < 0x80 :=
    List.forall_iff_forall_mem.mp (by decide +kernel)
  have hWord : ∀ {size : Nat} {word : Text}, IsWord size word → ∀ c ∈ word, c.toNat < 0x80 :=
    fun h c hc => ascii_of_mem_alphabet c (h.2 c hc)
  cases h with
  | bare hId => exact List.forall_mem_append.mpr ⟨hStart, hWord hId⟩
  | suffixed hId hGroup hRig =>
      simp only [List.forall_mem_append, List.forall_mem_cons]
      exact ⟨⟨⟨hStart, hWord hId⟩, by decide, hWord hGroup⟩, by decide, hWord hRig⟩
  | full hId hSecondary hDomain hRig =>
      simp only [List.forall_mem_append, List.forall_mem_cons]
      exact ⟨⟨⟨⟨⟨hStart, hWord hId⟩, by decide, hWord hSecondary⟩, by decide, hWord hDomain⟩, hEnd⟩,
        hWord hRig⟩

/-- The longest names have all four parts. -/
theorem length_le (h : shape.Makes name login) : name.length ≤ 73 := by
  have hStart : idStart.length = 3 := rfl
  have hEnd : ".com.".toList.length = 5 := rfl
  cases h with
  | bare hId =>
      rw [List.length_append, hStart, hId.1]
      decide
  | suffixed hId hGroup hRig =>
      simp only [List.length_append, List.length_cons, hStart, hId.1, hGroup.1, hRig.1]
      decide
  | full hId hSecondary hDomain hRig =>
      simp only [List.length_append, List.length_cons, hStart, hEnd, hId.1, hSecondary.1, hDomain.1,
        hRig.1]
      decide

end Shape.Makes

/-- A name has the shape that is drawn for it. -/
theorem makes_name (s : σ) :
    ∃ login, (source.shape s).1.Makes (name source s).1 login := by
  have hWord := isWord_token source
  simp only [name]
  cases (source.shape s).1 with
  | bare => exact ⟨_, .bare (hWord 39 _)⟩
  | suffixed => exact ⟨_, .suffixed (hWord 39 _) (hWord 6 _) (hWord 4 _)⟩
  | full => exact ⟨_, .full (hWord 39 _) (hWord 8 _) (hWord 10 _) (hWord 6 _)⟩

/-! ### Lists of names -/

/-- Names, by how many are made, have the shapes drawn for them and are read
accordingly, none is too long, and more names begin with the fewer ones. -/
structure Exercise (drawn : Nat → List Shape) (made : Nat → List Text) : Prop where
  length : ∀ count, (made count).length = count
  shapes : ∀ count, List.Forall₂ (fun shape name => shape.Makes name (parse name) ∧
    (Utf8.encode name).length ≤ 255 ∧ truncate defaultLimit name = name) (drawn count) (made count)
  fewer : ∀ {fewer count}, fewer ≤ count → made fewer = (made count).take fewer

/-- One name more: it is read as its shape says, and fits. -/
theorem reads_name (s : σ) :
    let made := (name source s).1
    (source.shape s).1.Makes made (parse made) ∧ (Utf8.encode made).length ≤ 255 ∧
      truncate defaultLimit made = made := by
  intro made
  obtain ⟨login, hMakes⟩ := makes_name source s
  have hLength : made.length ≤ 73 := hMakes.length_le
  have hBytes : (Utf8.encode made).length = made.length :=
    Utf8.length_encode_of_ascii hMakes.ascii
  refine ⟨hMakes.parse_eq.symm ▸ hMakes, by omega, truncate_of_fits ?_⟩
  rw [hBytes, defaultLimit]
  omega

theorem length_names (count : Nat) (s : σ) : (names source count s).length = count := by
  induction count generalizing s with
  | zero => rfl
  | succ count ih => exact congrArg Nat.succ (ih _)

theorem names_eq_take {fewer count : Nat} (h : fewer ≤ count) (s : σ) :
    names source fewer s = (names source count s).take fewer := by
  induction fewer generalizing count s with
  | zero => rfl
  | succ fewer ih =>
      obtain ⟨more, rfl⟩ := Nat.exists_eq_add_of_le' (Nat.lt_of_lt_of_le (Nat.zero_lt_succ _) h)
      exact congrArg _ (ih (Nat.le_of_succ_le_succ h) _)

theorem exercise_names (s : σ) :
    Exercise (fun count => shapes source count s) fun count => names source count s where
  length count := length_names source count s
  shapes count := by
    induction count generalizing s with
    | zero => exact .nil
    | succ count ih => exact .cons (reads_name source s) (ih _)
  fewer h := names_eq_take source h s

/-- From any source of letters and shapes, and so from any seed, as many names
are made as are asked for, each with the parts of the shape that is drawn for
it and short enough for every pool; more names begin with the fewer ones. -/
theorem names_exercise_shapes :
    (∀ {σ : Type} (source : Source σ) (s : σ),
      Exercise (fun count => shapes source count s) fun count => names source count s) ∧
    ∀ seed : Int, Exercise (fun count => shapes Twister.source count (Twister.ofSeed seed))
      fun count => seededNames count seed :=
  ⟨exercise_names, fun seed => exercise_names Twister.source (Twister.ofSeed seed)⟩

/-- A source that draws every shape once, and always the first letter. -/
theorem names_exercise_three_shapes :
    let source : Source Nat :=
      { letter := fun n => (0, n)
        shape := fun n => (if n = 0 then .bare else if n = 1 then .suffixed else .full, n + 1) }
    shapes source 3 0 = [.bare, .suffixed, .full] ∧ (names source 3 0).length = 3 ∧ 2 ≤ 3 ∧
      names source 2 0 = (names source 3 0).take 2 ∧
      (names source 3 0).map (fun name => (parse name).suffix) =
        [none, some "aaaaaa.aaaa".toList, some "com.aaaaaa".toList] := by
  intro source
  have hExercise := names_exercise_shapes.1 source 0
  exact ⟨rfl, hExercise.length 3, by decide, hExercise.fewer (by decide), by decide +kernel⟩

end PoolLogin.Synthetic
