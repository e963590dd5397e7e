import PoolLogin.Command.Arguments

/-! Command lines as they are usually written, and what each of them asks
for. -/

namespace PoolLogin.Command

/-! ### Lines -/

/-- The option of a format by its name or by its letter. -/
def formatOptions : List Text := ["--format".toList, "-f".toList]

/-- The line that shows names as JSON. -/
def parseLine (option limit : Text) (names : List Text) : List Text :=
  ["parse".toList, option, "json".toList, "--max-length".toList, limit, ['-', '-']] ++ names

/-- The line that shows names as text. -/
def textLine (limit : Text) (names : List Text) : List Text :=
  ["parse".toList, "--max-length".toList, limit, ['-', '-']] ++ names

/-- The line that checks the scenarios of a file and no others. -/
def checkLine (cases : Text) : List Text :=
  ["check".toList, "--no-predefined".toList, "--cases".toList, cases]

/-- The line that writes the rows of the names in a file to another one. -/
def writeLine (input output format limit : Text) : List Text :=
  ["batch".toList, input, "-o".toList, output, "-f".toList, format, "--max-length".toList, limit]

/-! ### What they ask for -/

theorem pathOfText?_of_notMem {text : Text} (h : '\x00' ∉ text) :
    pathOfText? text = some (.ofText text) := by
  rw [pathOfText?, if_neg (by simpa using h)]

/-- What does not look like an option is an argument. -/
theorem given?_cons {input : Text} (hInput : usesFlag input = false) (verb : Verb)
    (rest : List Text) :
    verb.given? (input :: rest) =
      (verb.given? rest).map fun g => { g with arguments := input :: g.arguments } := by
  have hDashes : input ≠ ['-', '-'] := by
    rintro rfl
    cases hInput
  rw [Verb.given?, if_neg hDashes, hInput, if_neg Bool.false_ne_true]

theorem ofArguments?_checkLine {cases : Text} (hCases : '\x00' ∉ cases) :
    ofArguments? (checkLine cases) = some (.check (some (.ofText cases)) false none) := by
  change (((pathOfText? cases).map some).bind fun cases =>
    some (Command.check cases false none)) = _
  rw [pathOfText?_of_notMem hCases]
  rfl

section

variable {text : Text} {limit : Int} (hLimit : limitOfText? text = some limit)

include hLimit

theorem ofArguments?_textLine {names : List Text} (hNames : names ≠ []) :
    ofArguments? (textLine text names) = some (.parse names "text".toList limit) := by
  obtain ⟨name, rest, rfl⟩ := List.exists_cons_of_ne_nil hNames
  change ((limitOfText? text).bind fun limit =>
    some (Command.parse (name :: rest) "text".toList limit)) = _
  rw [hLimit]
  rfl

theorem ofArguments?_parseLine {option : Text} (hOption : option ∈ formatOptions)
    {names : List Text} (hNames : names ≠ []) :
    ofArguments? (parseLine option text names) = some (.parse names "json".toList limit) := by
  obtain ⟨name, rest, rfl⟩ := List.exists_cons_of_ne_nil hNames
  simp only [formatOptions, List.mem_cons, List.not_mem_nil, or_false] at hOption
  rcases hOption with rfl | rfl
  all_goals
    change ((limitOfText? text).bind fun limit =>
      some (Command.parse (name :: rest) "json".toList limit)) = _
    rw [hLimit]
    rfl

section

variable {input : Text} (hInput : usesFlag input = false) (hNul : '\x00' ∉ input)

include hInput hNul

theorem ofArguments?_writeLine {output : Text} (hOutput : '\x00' ∉ output) (format : Text) :
    ofArguments? (writeLine input output format text) =
      some (.batch (.ofText input) (some (.ofText output)) format limit) := by
  change ((Verb.batch.given? (input :: ["-o".toList, output, "-f".toList, format,
    "--max-length".toList, text])).bind (ofGiven? .batch)) = _
  rw [given?_cons hInput]
  change ((pathOfText? input).bind fun input => ((pathOfText? output).map some).bind fun output =>
    (limitOfText? text).bind fun limit => some (Command.batch input output format limit)) = _
  rw [pathOfText?_of_notMem hNul, pathOfText?_of_notMem hOutput, hLimit]
  rfl

end

end

end PoolLogin.Command
