import PoolLogin.Login.Scan
import PoolLogin.Proofs.Login.Form
import PoolLogin.Proofs.Text.Utf8

/-! Worker names read byte by byte. No byte of a longer character is one of
ASCII, so one pass over the bytes stops where the text is cut, and the parts it
finds are the encoded parts of the text. -/

namespace PoolLogin

namespace Login

open Utf8

namespace Scan

/-- Bytes that end no part are added to the part that goes on. -/
theorem foldl_step (stage : Bytes → Scan) {bytes : Bytes}
    (hStep : ∀ part, ∀ b ∈ bytes, step (stage part) b = stage (part ++ [b])) (part : Bytes) :
    bytes.foldl step (stage part) = stage (part ++ bytes) := by
  induction bytes generalizing part with
  | nil => simp
  | cons b bytes ih =>
      rw [List.foldl_cons, hStep part b List.mem_cons_self,
        ih fun part c hc => hStep part c (List.mem_cons_of_mem b hc)]
      simp

theorem foldl_primary {bytes : Bytes} (h : fieldByte ∉ bytes) :
    bytes.foldl step (primary []) = primary bytes := by
  apply foldl_step primary
  intro part b hb
  exact if_neg fun hEq : b = fieldByte => h (hEq ▸ hb)

theorem foldl_tail (p : Bytes) {bytes : Bytes} (h : domainByte ∉ bytes) :
    bytes.foldl step (tail p []) = tail p bytes := by
  apply foldl_step (tail p)
  intro part b hb
  exact if_neg fun hEq : b = domainByte => h (hEq ▸ hb)

theorem foldl_domain (p s : Bytes) {bytes : Bytes} (h : fieldByte ∉ bytes) :
    bytes.foldl step (domain p s []) = domain p s bytes := by
  apply foldl_step (domain p s)
  intro part b hb
  exact if_neg fun hEq : b = fieldByte => h (hEq ▸ hb)

theorem foldl_suffix (p s d bytes : Bytes) :
    bytes.foldl step (suffix p s d []) = suffix p s d bytes :=
  foldl_step (suffix p s d) (fun _ _ _ => rfl) []

end Scan

theorem fieldByte_notMem {text : Text} (h : fieldDelimiter ∉ text) :
    Scan.fieldByte ∉ encode text :=
  notMem_encode rfl (by decide) h

theorem domainByte_notMem {text : Text} (h : domainDelimiter ∉ text) :
    Scan.domainByte ∉ encode text :=
  notMem_encode rfl (by decide) h

/-- Before an empty payout id is replaced, the parts are the encoded head and
the encoded parts of the tail. -/
theorem parts_foldl_encode_name (form : Form Char)
    (h : form.Proper fieldDelimiter domainDelimiter) :
    ((encode (form.name fieldDelimiter domainDelimiter)).foldl Scan.step (.primary [])).parts =
      { (form.login fieldDelimiter domainDelimiter).map encode with
        primary := encode form.head } := by
  obtain ⟨head, tail⟩ := form
  obtain ⟨hHead, hTail⟩ := h
  have hField : encodeChar fieldDelimiter = [Scan.fieldByte] := rfl
  have hDomain : encodeChar domainDelimiter = [Scan.domainByte] := rfl
  cases tail with
  | nothing =>
      rw [Form.name, Tail.text_nothing, List.append_nil,
        Scan.foldl_primary (fieldByte_notMem hHead)]
      rfl
  | suffix text =>
      rw [Form.name, Tail.text_suffix, encode_append, encode_cons, hField, List.foldl_append,
        Scan.foldl_primary (fieldByte_notMem hHead), List.singleton_append, List.foldl_cons]
      change ((encode text).foldl Scan.step (.tail (encode head) [])).parts = _
      rw [Scan.foldl_tail _ (domainByte_notMem hTail)]
      rfl
  | lightning secondary host last =>
      rw [Form.name, Tail.text_lightning, encode_append, encode_cons, hField, List.foldl_append,
        Scan.foldl_primary (fieldByte_notMem hHead), List.singleton_append, List.foldl_cons]
      change ((encode _).foldl Scan.step (.tail (encode head) [])).parts = _
      rw [encode_append, encode_cons, hDomain, List.foldl_append,
        Scan.foldl_tail _ (domainByte_notMem hTail.1), List.singleton_append, List.foldl_cons]
      change ((encode _).foldl Scan.step (.domain (encode head) (encode secondary) [])).parts = _
      rw [encode_append, List.foldl_append, Scan.foldl_domain _ _ (fieldByte_notMem hTail.2)]
      cases last with
      | none => rfl
      | some part =>
          rw [behind, encode_cons, hField, List.singleton_append, List.foldl_cons]
          change ((encode part).foldl Scan.step
            (.suffix (encode head) (encode secondary) (encode host) [])).parts = _
          rw [Scan.foldl_suffix]
          rfl

/-- The parts of the bytes of a worker name, which are read in one pass, are the
encoded parts of the name, absent ones staying absent. So every part is
well-formed, and decoded it is the part of the text. -/
theorem scan_encode (name : Text) :
    scan (encode name) = (parse name).map encode ∧
      (scan (encode name)).map decode = (parse name).map .ok := by
  have hScan : scan (encode name) = (parse name).map encode := by
    obtain ⟨form, hProper, rfl⟩ := exists_form fieldDelimiter domainDelimiter name
    have hLogin : { form.login fieldDelimiter domainDelimiter with
        primary := form.primary fieldDelimiter domainDelimiter } =
        form.login fieldDelimiter domainDelimiter := by
      rw [← login_primary]
    rw [scan, parts_foldl_encode_name form hProper, parse_name form hProper, ← hLogin, Form.primary]
    simp only [isEmpty_encode]
    cases form.head.isEmpty <;> simp [Parts.map]
  refine ⟨hScan, ?_⟩
  rw [hScan]
  simp [Parts.map, Function.comp_def, decode_encode]

end Login

end PoolLogin
