import PoolLogin.Login.Form
import PoolLogin.Proofs.Text.Split

/-! Worker names and their parts determine each other. Every name has a
proper form, reading the name gives the parts of that form, and the name
can be put together again from the parts. -/

namespace PoolLogin.Login

open Text

section

variable {α : Type} [DecidableEq α] {field domain : α}

namespace Tail

omit [DecidableEq α]

@[simp] theorem text_nothing : (Tail.nothing : Tail α).text field domain = [] := rfl

@[simp] theorem text_suffix (text : List α) :
    (Tail.suffix text).text field domain = field :: text := rfl

@[simp] theorem text_lightning (secondary host : List α) (last : Option (List α)) :
    (Tail.lightning secondary host last).text field domain =
      field :: (secondary ++ domain :: (host ++ behind field last)) := by
  simp [Tail.text]

/-- A tail that says something starts with a delimiter. -/
theorem eq_nothing_of_notMem {tail : Tail α} (h : field ∉ tail.text field domain) :
    tail = .nothing := by
  cases tail with
  | nothing => rfl
  | suffix text => simp at h
  | lightning secondary host last => simp at h

end Tail

/-- Before an empty payout id is replaced, the parts are the head and those of the tail. -/
theorem split_name (form : Form α) (h : form.Proper field domain) :
    Parts.split field domain (form.name field domain) =
      { form.login field domain with primary := form.head } := by
  obtain ⟨head, tail⟩ := form
  obtain ⟨hHead, hTail⟩ := h
  cases tail with
  | nothing =>
      rw [Form.name, Tail.text_nothing, List.append_nil, Parts.split, splitOnce_of_notMem hHead]
      rfl
  | suffix text =>
      rw [Form.name, Tail.text_suffix, Parts.split, splitOnce_append text hHead]
      simp only [Parts.readTail, splitOnce_of_notMem hTail]
      rfl
  | lightning secondary host last =>
      obtain ⟨hSecondary, hHost⟩ := hTail
      rw [Form.name, Tail.text_lightning, Parts.split, splitOnce_append _ hHead]
      simp only [Parts.readTail, splitOnce_append _ hSecondary]
      cases last with
      | none =>
          rw [behind, List.append_nil, splitOnce_of_notMem hHost]
          rfl
      | some part =>
          rw [behind, splitOnce_append part hHost]
          rfl

omit [DecidableEq α] in
theorem login_primary (form : Form α) :
    (form.login field domain).primary = form.primary field domain := by
  obtain ⟨head, tail⟩ := form
  cases tail <;> rfl

/-- Reading a name gives the parts of its form, also where the whole name
stands in for an empty head. -/
theorem read_name (form : Form α) (h : form.Proper field domain) :
    Parts.read field domain (form.name field domain) = form.login field domain := by
  have hLogin : { form.login field domain with primary := form.primary field domain } =
      form.login field domain := by
    rw [← login_primary]
  rw [Parts.read, split_name form h, ← hLogin, Form.primary]
  cases form.head.isEmpty with
  | true => simp
  | false => simp

/-- A name is cut at its first delimiter, and what follows at the first
domain delimiter, if there is one. -/
theorem exists_form (field domain : α) (name : List α) :
    ∃ form : Form α, form.Proper field domain ∧ form.name field domain = name := by
  rcases split_cases field name with hPlain | ⟨head, rest, hHead, rfl⟩
  · exact ⟨⟨name, .nothing⟩, ⟨hPlain, trivial⟩, by simp [Form.name]⟩
  rcases split_cases domain rest with hSuffix | ⟨secondary, rest, hSecondary, rfl⟩
  · exact ⟨⟨head, .suffix rest⟩, ⟨hHead, hSuffix⟩, by simp [Form.name]⟩
  rcases split_cases field rest with hHost | ⟨host, last, hHost, rfl⟩
  · exact ⟨⟨head, .lightning secondary rest none⟩, ⟨hHead, hSecondary, hHost⟩, by
      simp [Form.name, behind]⟩
  · exact ⟨⟨head, .lightning secondary host (some last)⟩, ⟨hHead, hSecondary, hHost⟩, by
      simp [Form.name, behind]⟩

/-- Every part of a worker name is made of its units. -/
theorem mem_of_get_read {name text : List α} {part : Field}
    (h : (Parts.read field domain name).get part = some text) {c : α} (hc : c ∈ text) :
    c ∈ name := by
  obtain ⟨form, hProper, rfl⟩ := exists_form field domain name
  rw [read_name form hProper] at h
  have hPrimary : c ∈ form.primary field domain → c ∈ form.name field domain := by
    rw [Form.primary]
    split_ifs
    · exact id
    · exact List.mem_append_left _
  obtain ⟨head, tail⟩ := form
  cases tail with
  | nothing =>
      cases part <;> cases h
      exact hPrimary hc
  | suffix text =>
      cases part <;> cases h
      · exact hPrimary hc
      · simp [Form.name, hc]
  | lightning secondary host last =>
      cases part with
      | primary =>
          cases h
          exact hPrimary hc
      | suffix =>
          obtain rfl : last = some text := h
          simp [Form.name, behind, hc]
      | _ =>
          cases h
          simp [Form.name, hc]

/-- With a head of its own, a login shows the parts of the form one by one. -/
theorem assemble_of_head {form : Form α} (hHead : field ∉ form.head)
    (hEmpty : form.head.isEmpty = false) :
    assemble field domain (form.login field domain) = form.name field domain := by
  have hPrimary : form.primary field domain = form.head := by
    rw [Form.primary, hEmpty]
    rfl
  rw [assemble, login_primary, hPrimary, if_neg hHead]
  obtain ⟨head, tail⟩ := form
  cases tail with
  | nothing => simp [Form.login, Form.name, behind]
  | suffix text => simp [Form.login, Form.name, behind]
  | lightning secondary host last => simp [Form.login, Form.name, behind]

theorem assemble_login (form : Form α) (h : form.Proper field domain) :
    assemble field domain (form.login field domain) = form.name field domain := by
  cases hEmpty : form.head.isEmpty with
  | false => exact assemble_of_head h.1 hEmpty
  | true =>
      have hPrimary : (form.login field domain).primary = form.name field domain := by
        rw [login_primary, Form.primary, hEmpty]
        rfl
      by_cases hMem : field ∈ form.name field domain
      · rw [assemble, hPrimary, if_pos hMem]
      · -- Only the empty name has neither a head nor a delimiter.
        obtain ⟨head, tail⟩ := form
        obtain rfl : head = [] := List.isEmpty_iff.mp hEmpty
        obtain rfl : tail = .nothing := Tail.eq_nothing_of_notMem hMem
        rfl

omit [DecidableEq α] in
/-- A domain is there exactly if a secondary id is. -/
theorem login_domain_isSome (form : Form α) :
    (form.login field domain).domain.isSome = (form.login field domain).secondary.isSome := by
  obtain ⟨head, tail⟩ := form
  cases tail <;> rfl

/-- A way to read names that is a bijection between all names and the logins
of proper forms. A name is its payout id if that holds a delimiter, and is
otherwise put together from the parts; so no two names are read alike. The
other way round, the name of every proper form is read as just that form. -/
structure OntoForms (field domain : α) (parse : List α → Parts (List α)) : Prop where
  assembled : ∀ name, assemble field domain (parse name) = name ∧
    (parse name).domain.isSome = (parse name).secondary.isSome
  injective : Function.Injective parse
  image : ∀ login, (∃ name, parse name = login) ↔
    ∃ form : Form α, form.Proper field domain ∧ form.login field domain = login
  inverse : ∀ form : Form α, form.Proper field domain →
    assemble field domain (form.login field domain) = form.name field domain ∧
    parse (form.name field domain) = form.login field domain

theorem ontoForms_read (field domain : α) :
    OntoForms field domain (Parts.read field domain) := by
  have hAssemble : ∀ name, assemble field domain (Parts.read field domain name) = name := by
    intro name
    obtain ⟨form, hProper, rfl⟩ := exists_form field domain name
    rw [read_name form hProper, assemble_login form hProper]
  refine ⟨?_, Function.LeftInverse.injective hAssemble, ?_, ?_⟩
  · intro name
    obtain ⟨form, hProper, rfl⟩ := exists_form field domain name
    refine ⟨hAssemble _, ?_⟩
    rw [read_name form hProper, login_domain_isSome]
  · intro login
    constructor
    · rintro ⟨name, rfl⟩
      obtain ⟨form, hProper, rfl⟩ := exists_form field domain name
      exact ⟨form, hProper, (read_name form hProper).symm⟩
    · rintro ⟨form, hProper, rfl⟩
      exact ⟨form.name field domain, read_name form hProper⟩
  · intro form hProper
    exact ⟨assemble_login form hProper, read_name form hProper⟩

end

theorem parse_name (form : Form Char) (h : form.Proper fieldDelimiter domainDelimiter) :
    parse (form.name fieldDelimiter domainDelimiter) =
      form.login fieldDelimiter domainDelimiter :=
  read_name form h

theorem mem_of_get_parse {name text : Text} {field : Field}
    (h : (parse name).get field = some text) {c : Char} (hc : c ∈ text) : c ∈ name :=
  mem_of_get_read h hc

/-- Reading is a bijection between all names and the logins of proper forms,
for names that are made of characters and for those that may hold surrogates. -/
theorem parse_bijective_onto_forms :
    OntoForms fieldDelimiter domainDelimiter parse ∧
      OntoForms (.char fieldDelimiter) (.char domainDelimiter) parseWide :=
  ⟨ontoForms_read fieldDelimiter domainDelimiter, ontoForms_read _ _⟩

/-- A form without a head, whose parts hold further delimiters. -/
theorem parse_headless_lightning :
    let form : Form Char := ⟨[], .lightning "a.b".toList "c@d".toList (some "e.f@".toList)⟩
    form.Proper fieldDelimiter domainDelimiter ∧ parse ".a.b@c@d.e.f@".toList =
      { primary := ".a.b@c@d.e.f@".toList, secondary := some "a.b".toList
        domain := some "c@d".toList, suffix := some "e.f@".toList } := by
  have hProper : Form.Proper fieldDelimiter domainDelimiter
      ⟨[], .lightning "a.b".toList "c@d".toList (some "e.f@".toList)⟩ := by
    refine ⟨by decide, ?_⟩
    exact ⟨by decide, by decide⟩
  exact ⟨hProper, (parse_bijective_onto_forms.1.inverse _ hProper).2⟩

end PoolLogin.Login
