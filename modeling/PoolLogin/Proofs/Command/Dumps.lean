import PoolLogin.Proofs.Command.Arguments
import PoolLogin.Proofs.Command.Limit
import PoolLogin.Proofs.Command.Session
import PoolLogin.Proofs.Console.Tabs
import PoolLogin.Proofs.Login.Form
import PoolLogin.Proofs.Login.Truncate

/-! What is printed of dumps. Worker names stand in them as they are, so the
console drops and changes nothing but the control characters of the names. -/

namespace PoolLogin.Command

open Console Login Text

/-! ### One dump -/

theorem isShown_of_mem_label {field : Field} : ∀ c ∈ field.label, IsShown c := by
  cases field <;> exact List.forall_iff_forall_mem.mp (by decide +kernel)

/-- A dump adds nothing to a name and its parts that is not shown. -/
theorem isShown_of_mem_dump {name : Text} {login : Login} (hName : ∀ c ∈ name, IsShown c)
    (hParts : ∀ field part, login.get field = some part → ∀ c ∈ part, IsShown c) :
    ∀ c ∈ dump name login, IsShown c := by
  have hHead : ∀ c ∈ "Parsing results for: \"".toList, IsShown c :=
    List.forall_iff_forall_mem.mp (by decide +kernel)
  have hRule : ∀ c ∈ rule, IsShown c := List.forall_iff_forall_mem.mp (by decide +kernel)
  have hAbsent : ∀ c ∈ absent, IsShown c := List.forall_iff_forall_mem.mp (by decide +kernel)
  have hValue : ∀ field, ∀ c ∈ (login.get field).getD absent, IsShown c := by
    intro field
    cases hPart : login.get field with
    | none => exact hAbsent
    | some part => exact hParts field part hPart
  intro c hc
  rcases mem_joinWith hc with hNewline | ⟨line, hLine, hc⟩
  · rw [List.mem_singleton.mp hNewline]
    decide
  · simp only [dumpLines, List.map_id, id_eq, List.mem_append, List.mem_cons, List.mem_map,
      List.not_mem_nil, or_false] at hLine
    rcases hLine with ((rfl | rfl) | ⟨field, _, rfl⟩) | rfl
    · simp only [List.mem_append, List.mem_cons, List.not_mem_nil, or_false] at hc
      rcases hc with (hc | hc) | rfl
      · exact hHead c hc
      · exact hName c hc
      · decide
    · exact hRule c hc
    · simp only [List.mem_append, List.mem_cons, List.not_mem_nil, or_false] at hc
      rcases hc with (hc | rfl | rfl) | hc
      · exact isShown_of_mem_label c hc
      · decide
      · decide
      · exact hValue field c hc
    · exact hRule c hc

/-- A name of which the console changes nothing has such a dump. -/
theorem isShown_of_mem_dump_parse {name : Text} (h : ∀ c ∈ name, IsShown c) :
    ∀ c ∈ dump name (Login.parse name), IsShown c :=
  isShown_of_mem_dump h fun _ _ hPart c hc => h c (mem_of_get_parse hPart hc)

/-! ### All dumps -/

/-- The dump of a name that is cut to a limit. -/
def dumpOf (limit : Int) (name : Text) : Text :=
  dump (truncate limit name) (Login.parse (truncate limit name))

/-- Names that are shown as text are dumps that are printed one after another. -/
theorem runArguments_textLine {text : Text} {limit : Int} (hLimit : limitOfText? text = some limit)
    (hSign : 0 ≤ limit) {names : List Text} (hNames : names ≠ []) (tree : FileTree) :
    runArguments tree (textLine text names) =
      { printed := (names.map (dumpOf limit)).flatMap print, tree, exit := .ok 0 } := by
  have hShown : shown "text".toList (names.map (readName limit)) =
      (names.map (dumpOf limit)).flatMap print := by
    rw [shown, if_pos rfl, List.flatMap_map, List.flatMap_map]
    rfl
  have hFormat : knownFormat shownFormats "text".toList = .ok "text".toList :=
    knownFormat_of_mem (by decide +kernel) (by decide)
  rw [runArguments, ofArguments?_textLine hLimit hNames]
  simp only [run, Run.outcome, run_runParse, hFormat, if_neg (Int.not_lt.mpr hSign), hShown]
  rfl

/-- Names are shown literally. One dump after another is printed, each with a
newline at its end, and if the names hold no control characters that the console
drops or changes, nothing else is. Otherwise just these characters are left out,
and in every line tabs are set. -/
theorem dumps_shown_literally {text : Text} {limit : Int} (hLimit : limitOfText? text = some limit)
    (hSign : 0 ≤ limit) {names : List Text} (hNames : names ≠ []) (tree : FileTree) :
    let dumps := names.flatMap fun name =>
      dump (truncate limit name) (Login.parse (truncate limit name)) ++ ['\n']
    let outcome := runArguments tree (textLine text names)
    outcome.exit = .ok 0 ∧
    ((∀ name ∈ names, ∀ c ∈ name, c.toNat ∉ [7, 8, 9, 11, 12, 13]) → outcome.printed = dumps) ∧
    outcome.printed = joinWith ['\n'] ((splitLines
      (dumps.filter fun c => c.toNat ∉ [7, 8, 11, 12, 13])).map expandTabs) ∧
    SetsTabs expandTabs := by
  intro dumps outcome
  have hDumps : (names.map (dumpOf limit)).flatMap (· ++ ['\n']) = dumps := List.flatMap_map ..
  simp only [outcome, runArguments_textLine hLimit hSign hNames]
  refine ⟨trivial, fun hPlain => ?_, ?_, setsTabs_expandTabs⟩
  · rw [← hDumps]
    apply List.flatMap_congr
    intro shown hShown
    obtain ⟨name, hName, rfl⟩ := List.mem_map.mp hShown
    apply print_of_shown
    apply isShown_of_mem_dump_parse
    intro c hc
    exact isShown_of_toNat (hPlain name hName c ((truncate_isPrefix hSign name).subset hc))
  · rw [flatMap_print, hDumps, typeset, dropControls_eq]

/-- A name with a newline, brackets and a wide character, and a tab behind a line with another. -/
theorem dumps_shown_of_wide :
    let names := ["[b]\n:x:.表".toList]
    let line := "Parsing results for: \"表".toList
    limitOfText? ['0'] = some 0 ∧ (∀ name ∈ names, ∀ c ∈ name, c.toNat ∉ [7, 8, 9, 11, 12, 13]) ∧
      (runArguments {} (textLine ['0'] names)).printed =
        names.flatMap (fun name => dump name (Login.parse name) ++ ['\n']) ∧
      ¬[joiner, '\t'] <:+: line ++ ['\t'] ∧
      ∃ count, expandTabs (line ++ ['\t', '"']) = line ++ blanks count ++ ['"'] ∧
        Text.cells line + count = 32 := by
  intro names line
  have hLimit : limitOfText? ['0'] = some 0 := limitOfText?_natural (n := 0) (by decide)
  have hNames : ∀ name ∈ names, ∀ c ∈ name, c.toNat ∉ [7, 8, 9, 11, 12, 13] :=
    List.forall_mem_singleton.mpr (List.forall_iff_forall_mem.mp (by decide +kernel))
  have hLine : ¬[joiner, '\t'] <:+: line ++ ['\t'] := by decide +kernel
  obtain ⟨-, hPlain, -, hTabs⟩ :=
    dumps_shown_literally hLimit (by decide) (show names ≠ [] by decide) {}
  obtain ⟨count, -, -, hSet, hStop⟩ := hTabs.stops line ['"'] hLine
  have hShort : expandTabs line = line := hTabs.plain line (by decide +kernel)
  have hCells : Text.cells line = 24 := by decide +kernel
  rw [hShort] at hSet hStop
  refine ⟨hLimit, hNames, (hPlain hNames).trans (by decide +kernel), hLine, count, hSet, ?_⟩
  rw [hStop, hCells]

/-- The line in front of the tab takes 24 cells, and the joiner at its end
takes the only blank that stands for the tab. The next tab stop, eight blanks
further on, is not reached. -/
theorem tab_behind_joiner_stays :
    let line := "Parsing results for: \"ab\u200D".toList
    let printed := (runArguments {} (textLine ['0'] ["ab\u200D\t".toList])).printed
    Text.cells line = 24 ∧ line ++ [' ', '"'] <+: printed ∧
      ¬∃ count, Text.cells line + count = 8 * (Text.cells line / 8 + 1) ∧
        line ++ blanks count ++ ['"'] <+: printed := by
  intro line printed
  have hCells : Text.cells line = 24 := by decide +kernel
  refine ⟨hCells, by decide +kernel, ?_⟩
  rintro ⟨count, hStop, hPrinted⟩
  rw [hCells] at hStop
  obtain rfl : count = 8 := by omega
  exact absurd hPrinted (by decide +kernel)

end PoolLogin.Command
