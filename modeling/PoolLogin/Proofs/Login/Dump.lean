import Mathlib.Algebra.Ring.Nat
import PoolLogin.Login.Report
import PoolLogin.Proofs.Login.Form
import PoolLogin.Proofs.Login.Wide
import PoolLogin.Proofs.Text.Join

/-! Dumps of worker names. A name stands in its dump as it is, so it may hold
whatever a dump holds. It is their lengths that tell two dumps apart: what a
name would have to go on with to pass for the rest of a dump makes the values
behind it longer, and not shorter. -/

namespace PoolLogin.Login

section

variable {α : Type}

/-! ### What a dump is made of -/

section

variable (unit : Char → α)

/-- How much the values of a login take up in a dump. -/
def size (login : Parts (List α)) : Nat :=
  (Field.all.map fun field => ((login.get field).getD (absent.map unit)).length).sum

/-- What stands behind the rule that follows the worker name in a dump. -/
def valueLines (login : Parts (List α)) : List α :=
  Text.joinWith [unit '\n'] <|
    Field.all.map (fun field => (field.label ++ [':', ' ']).map unit ++
      (login.get field).getD (absent.map unit)) ++ [rule.map unit]

theorem dumpIn_eq (name : List α) (login : Parts (List α)) :
    dumpIn unit name login = "Parsing results for: \"".toList.map unit ++
      (name ++ (('"' :: '\n' :: rule).map unit ++ unit '\n' :: valueLines unit login)) := by
  simp [dumpIn, dumpLines, valueLines, Field.all]

theorem length_joinWith_fields (fields : List Field) (value : Field → List α) (last : List α) :
    (Text.joinWith [unit '\n'] (fields.map (fun field =>
      (field.label ++ [':', ' ']).map unit ++ value field) ++ [last])).length =
        (fields.map fun field => field.label.length + 3).sum +
          (fields.map fun field => (value field).length).sum + last.length := by
  induction fields with
  | nil => simp
  | cons field fields ih =>
      obtain ⟨second, lines, hLines⟩ := List.exists_cons_of_ne_nil
        (List.append_ne_nil_of_right_ne_nil (fields.map fun field =>
          (field.label ++ [':', ' ']).map unit ++ value field) (List.cons_ne_nil last []))
      rw [hLines] at ih
      rw [List.map_cons, List.cons_append, hLines, Text.joinWith_cons_cons, List.map_cons,
        List.map_cons, List.sum_cons, List.sum_cons, List.length_append, ih]
      simp only [List.length_append, List.length_map, List.length_cons, List.length_nil]
      omega

/-- The lines of values differ in length as the values do. -/
theorem length_valueLines (login other : Parts (List α)) :
    (valueLines unit login).length + size unit other =
      (valueLines unit other).length + size unit login := by
  rw [valueLines, valueLines, length_joinWith_fields, length_joinWith_fields, size, size]
  omega

/-- If two dumps are the same, the longer name goes on with what stands behind
the shorter one, and its values are shorter by as much. -/
theorem exists_of_dump_eq {short long : List α} {login other : Parts (List α)}
    (h : dumpIn unit short login = dumpIn unit long other) (hLength : short.length ≤ long.length) :
    ∃ more, long = short ++ more ∧
      more <+: ('"' :: '\n' :: rule).map unit ++ unit '\n' :: valueLines unit login ∧
      more.length + size unit other = size unit login := by
  rw [dumpIn_eq, dumpIn_eq, List.append_cancel_left_eq] at h
  obtain ⟨more, rfl⟩ := List.prefix_of_prefix_length_le (List.prefix_append short _)
    (h ▸ List.prefix_append long _) hLength
  rw [List.append_assoc, List.append_cancel_left_eq] at h
  refine ⟨more, rfl, ⟨_, h.symm⟩, ?_⟩
  have hTotal := congrArg List.length h
  have hValues := length_valueLines unit login other
  simp only [List.length_append, List.length_cons] at hTotal
  omega

end

/-! ### How much the values take up -/

variable {unit : Char → α} {field domain : α}

theorem size_eq (login : Parts (List α)) :
    size unit login = login.primary.length + (login.secondary.getD (absent.map unit)).length +
      (login.domain.getD (absent.map unit)).length +
      (login.suffix.getD (absent.map unit)).length := by
  simp only [size, Field.all, Parts.get, List.map_cons, List.map_nil, List.sum_cons, List.sum_nil,
    Option.getD_some]
  omega

/-- The number of parts in a tail. -/
def Tail.count : Tail α → Nat
  | .nothing => 0
  | .suffix _ => 1
  | .lightning _ _ none => 2
  | .lightning _ _ (some _) => 3

theorem Tail.count_le (tail : Tail α) : tail.count ≤ 3 := by
  fun_cases Tail.count tail <;> decide

/-- A part of the tail stands behind its delimiter, and where it is absent four
letters say so. -/
theorem size_login (form : Form α) :
    size unit (form.login field domain) + 5 * form.tail.count =
      (form.primary field domain).length + (form.tail.text field domain).length + 12 := by
  have hAbsent : (absent.map unit).length = 4 := List.length_map unit
  rw [size_eq, login_primary]
  obtain ⟨head, tail⟩ := form
  cases tail with
  | nothing =>
      simp only [Form.login, Tail.text_nothing, Tail.count, Option.getD_none, List.length_nil]
      omega
  | suffix text =>
      simp only [Form.login, Tail.text_suffix, Tail.count, Option.getD_none, Option.getD_some,
        List.length_cons]
      omega
  | lightning secondary host last =>
      cases last with
      | none =>
          simp only [Form.login, Tail.text_lightning, Tail.count, behind, Option.getD_none,
            Option.getD_some, List.length_append, List.length_cons, List.length_nil]
          omega
      | some text =>
          simp only [Form.login, Tail.text_lightning, Tail.count, behind, Option.getD_some,
            List.length_append, List.length_cons]
          omega

variable [DecidableEq α]

/-- The length of a name, twice if it starts with a delimiter: then all of it is the payout id. -/
def spread (field : α) (name : List α) : Nat :=
  name.length + if name.head? = some field then name.length else 0

theorem spread_append (name more : List α) :
    spread field name + more.length ≤ spread field (name ++ more) := by
  cases name with
  | nil =>
      rw [List.nil_append, spread, spread, List.length_nil, ite_self]
      omega
  | cons c name =>
      rw [spread, spread, List.cons_append, List.head?_cons, List.head?_cons, ← List.cons_append,
        List.length_append]
      split_ifs <;> omega

theorem spread_name (form : Form α) (h : field ∉ form.head) :
    (form.primary field domain).length + (form.tail.text field domain).length =
      spread field (form.name field domain) := by
  obtain ⟨head, tail⟩ := form
  cases head with
  | nil =>
      cases tail with
      | nothing => rfl
      | suffix text => simp [Form.primary, Form.name, spread]
      | lightning secondary host last => simp [Form.primary, Form.name, spread]
  | cons c head =>
      have hc : c ≠ field := fun hc => h (hc ▸ List.mem_cons_self)
      simp [Form.primary, Form.name, spread, hc]
      omega

theorem size_read (unit : Char → α) {form : Form α} (h : form.Proper field domain) :
    size unit (Parts.read field domain (form.name field domain)) + 5 * form.tail.count =
      spread field (form.name field domain) + 12 := by
  rw [read_name form h, size_login, spread_name form h.1]

/-- A longer name has longer values, but for a few characters. -/
theorem size_append_bound (unit : Char → α) (field domain : α) (name more : List α) :
    size unit (Parts.read field domain name) + more.length ≤
      size unit (Parts.read field domain (name ++ more)) + 15 := by
  have hSpread : spread field name + more.length ≤ spread field (name ++ more) :=
    spread_append name more
  obtain ⟨form, hProper, rfl⟩ := exists_form field domain name
  obtain ⟨longer, hLonger, hMore⟩ := exists_form field domain (form.name field domain ++ more)
  have hSize := size_read unit hProper
  have hSizeLonger := size_read unit hLonger
  have hCount := longer.tail.count_le
  rw [hMore] at hSizeLonger
  omega

/-! ### Names that go on -/

omit [DecidableEq α]

/-- A form with more behind its last part. -/
def Form.extend (form : Form α) (more : List α) : Form α :=
  match form.tail with
  | .nothing => ⟨form.head ++ more, .nothing⟩
  | .suffix text => ⟨form.head, .suffix (text ++ more)⟩
  | .lightning secondary host none => ⟨form.head, .lightning secondary (host ++ more) none⟩
  | .lightning secondary host (some last) =>
    ⟨form.head, .lightning secondary host (some (last ++ more))⟩

theorem Form.name_extend (form : Form α) (more : List α) :
    (form.extend more).name field domain = form.name field domain ++ more := by
  obtain ⟨head, tail⟩ := form
  cases tail with
  | nothing => simp [extend, name]
  | suffix text => simp [extend, name]
  | lightning secondary host last =>
      cases last with
      | none => simp [extend, name, behind]
      | some text => simp [extend, name, behind]

theorem Form.count_extend (form : Form α) (more : List α) :
    (form.extend more).tail.count = form.tail.count := by
  obtain ⟨head, tail⟩ := form
  cases tail with
  | nothing => rfl
  | suffix text => rfl
  | lightning secondary host last => cases last <;> rfl

section

variable {more : List α} (hField : field ∉ more) (hDomain : domain ∉ more)

include hField hDomain

theorem Form.Proper.extend {form : Form α} (h : form.Proper field domain) :
    (form.extend more).Proper field domain := by
  obtain ⟨head, tail⟩ := form
  obtain ⟨hHead, hTail⟩ := h
  cases tail with
  | nothing => exact ⟨List.not_mem_append hHead hField, trivial⟩
  | suffix text => exact ⟨hHead, List.not_mem_append hTail hDomain⟩
  | lightning secondary host last =>
      cases last with
      | none => exact ⟨hHead, hTail.1, List.not_mem_append hTail.2 hField⟩
      | some text => exact ⟨hHead, hTail⟩

/-- Without a delimiter in it, what a name goes on with makes its values longer. -/
theorem size_append [DecidableEq α] (unit : Char → α) (name : List α) :
    size unit (Parts.read field domain name) + more.length ≤
      size unit (Parts.read field domain (name ++ more)) := by
  have hSpread : spread field name + more.length ≤ spread field (name ++ more) :=
    spread_append name more
  obtain ⟨form, hProper, rfl⟩ := exists_form field domain name
  have hSize := size_read unit hProper
  have hSizeLonger := size_read unit (hProper.extend hField hDomain)
  rw [Form.name_extend, Form.count_extend] at hSizeLonger
  omega

end

/-! ### Dumps -/

section

variable [DecidableEq α] (hUnit : Function.Injective unit)

include hUnit

theorem eq_of_dump_eq {name other : List α}
    (h : dumpIn unit name (Parts.read (unit fieldDelimiter) (unit domainDelimiter) name) =
      dumpIn unit other (Parts.read (unit fieldDelimiter) (unit domainDelimiter) other))
    (hLength : name.length ≤ other.length) : name = other := by
  obtain ⟨more, rfl, hMore, hSize⟩ := exists_of_dump_eq unit h hLength
  have hBound := size_append_bound unit (unit fieldDelimiter) (unit domainDelimiter) name more
  -- So few characters reach no further than into the rule, which holds no delimiter.
  have hStart : more <+: ('"' :: '\n' :: rule).map unit :=
    List.prefix_of_prefix_length_le hMore (List.prefix_append _ _) (by
      rw [List.length_map, List.length_cons, List.length_cons, rule, List.length_replicate]
      omega)
  have hFree : ∀ c, c ∉ '"' :: '\n' :: rule → unit c ∉ more := fun c hc hMem =>
    hc ((List.mem_map_of_injective hUnit).mp (hStart.subset hMem))
  have hLonger := size_append (hFree fieldDelimiter (by decide))
    (hFree domainDelimiter (by decide)) unit name
  obtain rfl : more = [] := List.eq_nil_of_length_eq_zero (by omega)
  exact (List.append_nil name).symm

theorem dumpIn_injective : Function.Injective fun name =>
    dumpIn unit name (Parts.read (unit fieldDelimiter) (unit domainDelimiter) name) := by
  intro name other hDump
  rcases Nat.le_total name.length other.length with hLength | hLength
  · exact eq_of_dump_eq hUnit hDump hLength
  · exact (eq_of_dump_eq hUnit hDump.symm hLength).symm

end

end

/-- No name has the dump of another, of names that are made of characters and
of those that may hold surrogates. -/
theorem dump_ne_of_ne :
    (∀ name other : Text, name ≠ other → dump name (parse name) ≠ dump other (parse other)) ∧
    ∀ name other : WideText, name ≠ other →
      dumpWide name (parseWide name) ≠ dumpWide other (parseWide other) :=
  ⟨fun _ _ h => (dumpIn_injective Function.injective_id).ne h,
    fun _ _ h => (dumpIn_injective CodePoint.char_injective).ne h⟩

/-- A name that holds the rest of a dump, so that its own dump starts with all of the other; and two
surrogates. -/
theorem dump_ne_of_forged :
    let forged := "a".toList ++ '"' :: '\n' :: rule ++ '\n' :: valueLines id (parse "a".toList)
    dump "a".toList (parse "a".toList) <+: dump forged (parse forged) ∧
      dump "a".toList (parse "a".toList) ≠ dump forged (parse forged) ∧
      dumpWide [.surrogate 0] (parseWide [.surrogate 0]) ≠
        dumpWide [.surrogate 1] (parseWide [.surrogate 1]) := by
  intro forged
  refine ⟨?_, dump_ne_of_ne.1 _ _ (by decide), dump_ne_of_ne.2 _ _ (by decide)⟩
  rw [dump, dump, dumpIn_eq, dumpIn_eq, List.prefix_append_right_inj, List.map_id]
  exact List.prefix_append forged _

end PoolLogin.Login
