import PoolLogin.Proofs.Json.Characters
import PoolLogin.Proofs.Json.RoundTrip
import PoolLogin.Proofs.Text.Lines
import PoolLogin.Proofs.Text.Utf8

/-! JSON in files. A file holds one value at most, and what is written to it is
the value that it holds. -/

namespace PoolLogin.Json

/-- The bytes of a file hold a value if they are UTF-8, and with all newlines written alike JSON
that is read as that value. -/
def Holds (content : Bytes) (value : Json) : Prop :=
  ∃ text, Utf8.decode content = .ok text ∧ read (Text.unifyNewlines text) = .ok value

theorem Holds.unique {content : Bytes} {first second : Json} (hFirst : Holds content first)
    (hSecond : Holds content second) : first = second := by
  obtain ⟨a, ha, hFirst⟩ := hFirst
  obtain ⟨b, hb, hSecond⟩ := hSecond
  cases ha.symm.trans hb
  exact Except.ok.inj (hFirst.symm.trans hSecond)

/-- No newline of other systems is written. -/
theorem return_notMem_write {style : Style} {P : Char → Prop} (hWrites : style.Writes P)
    (hReturn : ¬P '\r') {value : Json} (h : Readable 0 value) {spaces : Text}
    (hNoReturn : '\r' ∉ spaces) : '\r' ∉ write style value ++ spaces := by
  rw [List.mem_append, not_or]
  exact ⟨fun hMem => hReturn (forall_writeAt hWrites value 0 h _ hMem), hNoReturn⟩

/-- A value is held by the file that it is written to, in a style that can be
read and that has no newlines of other systems. -/
theorem holds_write {style : Style} (hStyle : style.Legible) {P : Char → Prop}
    (hWrites : style.Writes P) (hReturn : ¬P '\r') {value : Json} (h : Readable 0 value)
    {spaces : Text} (hSpaces : IsSpaces spaces) (hNoReturn : '\r' ∉ spaces) :
    Holds (Utf8.encode (write style value ++ spaces)) value := by
  refine ⟨_, Utf8.decode_encode _, ?_⟩
  rw [Text.unifyNewlines_of_notMem (return_notMem_write hWrites hReturn h hNoReturn)]
  exact read_write hStyle h hSpaces

theorem holds_write_ascii {value : Json} (h : Readable 0 value) :
    Holds (Utf8.encode (write .ascii value)) value := by
  have hHolds := holds_write legible_ascii writes_ascii (by decide) h
    (show IsSpaces [] by simp [IsSpaces]) (by simp)
  rwa [List.append_nil] at hHolds

theorem holds_write_indented {value : Json} (h : Readable 0 value) :
    Holds (Utf8.encode (write .indented value)) value := by
  have hHolds := holds_write legible_indented writes_indented (by decide) h
    (show IsSpaces [] by simp [IsSpaces]) (by simp)
  rwa [List.append_nil] at hHolds

theorem holds_write_line {value : Json} (h : Readable 0 value) :
    Holds (Utf8.encode (write .indented value ++ ['\n'])) value :=
  holds_write legible_indented writes_indented (by decide) h
    (show IsSpaces ['\n'] by simp [IsSpaces, isSpace]) (by decide)

end PoolLogin.Json
