import PoolLogin.Proofs.Log.Lines
import PoolLogin.Proofs.Log.Records

/-! Logs over any number of calls, whichever of them fail. A call that fails
changes no file, and any other one only goes behind the content of its own
file. What a file holds is therefore told by the calls that were carried out
on it, in order. -/

namespace PoolLogin.Log

open FileTree

/-- A record or a JSON value for the log at a path. -/
inductive Call where
  | record (path : Path) (row : List (Text × Cell))
  | json (path : Path) (payload : Json)

namespace Call

def path : Call → Path
  | record path _ => path
  | json path _ => path

def act : Call → FileTree.Act Unit
  | record path row => appendCsv path row
  | json path payload => appendJson path payload

def addition : Call → Addition
  | record _ row => recordAddition row
  | json _ payload => jsonAddition payload

/-- The bytes of a call. Only in front of a new file does a header belong to them. -/
def bytes (call : Call) (isNew : Bool) : Bytes :=
  Utf8.encode ((if isNew then call.addition.lead else []) ++ call.addition.text)

theorem run_act (call : Call) (tree : FileTree) :
    call.act.run tree =
      (revise call.path (added call.addition.lead call.addition.text)).run tree := by
  cases call with
  | record path row => exact run_appendCsv path row tree
  | json path payload => exact run_appendJson path payload tree

end Call

/-! ### One call -/

/-- What a call may come to: it fails and no file changes, or only its own
file changes, where its bytes follow the old content. -/
inductive Effect (call : Call) (before : FileTree) : Except Fault Unit × FileTree → Prop
  | failed {fault : Fault} {after : FileTree}
      (hFiles : ∀ place, after.fileAt? place = before.fileAt? place) :
      Effect call before (.error fault, after)
  | done {after : FileTree} (hLeads : after.place call.path = .ok call.path)
      (hOthers : ∀ place, place ≠ call.path → after.fileAt? place = before.fileAt? place)
      (hContent : after.fileAt? call.path = some ((before.fileAt? call.path).getD [] ++
        call.bytes (before.fileAt? call.path).isNone)) :
      Effect call before (.ok (), after)

theorem effect_run {call : Call} (hPath : Path.upward ∉ call.path.names) (tree : FileTree) :
    Effect call tree (call.act.run tree) := by
  rw [call.run_act]
  rcases revise_cases (f := added call.addition.lead call.addition.text) hPath tree with
    ⟨fault, after, hRun, hAgrees⟩ | ⟨after, hRun, hAgrees, hLeads, hNode⟩
  · rw [hRun]
    exact .failed fun place => hAgrees.files place (by simp)
  · rw [hRun]
    refine .done hLeads (fun place hPlace => hAgrees.files place (by simpa using hPlace)) ?_
    rw [fileAt?_of_file hNode, added_eq]
    rfl

/-- The content of any file after a call, seen from the place of that file. -/
theorem Effect.fileAt?_eq {call : Call} {before : FileTree}
    {outcome : Except Fault Unit × FileTree} (h : Effect call before outcome) (place : Path) :
    outcome.2.fileAt? place =
      if outcome.1.isOk ∧ call.path = place
      then grown (before.fileAt? place) [call.addition] else before.fileAt? place := by
  cases h with
  | failed hFiles => exact hFiles place
  | done _ hOthers hContent =>
      by_cases hPlace : place = call.path
      · subst hPlace
        rw [hContent, if_pos ⟨rfl, rfl⟩]
        exact congrArg some (added_eq _ _ _).symm
      · rw [hOthers place hPlace, if_neg fun h => hPlace h.2.symm]

/-! ### Many calls -/

/-- The tree after calls. Those that fail do not keep the later ones from being tried. -/
def afterCalls (tree : FileTree) (calls : List Call) : FileTree :=
  calls.foldl (fun tree call => (call.act.run tree).2) tree

theorem afterCalls_append (tree : FileTree) (earlier later : List Call) :
    afterCalls tree (earlier ++ later) = afterCalls (afterCalls tree earlier) later :=
  List.foldl_append

/-- The calls that put their bytes into the file at a place, in order. -/
def callsOn (place : Path) (tree : FileTree) : List Call → List Call
  | [] => []
  | call :: calls =>
    if (call.act.run tree).1.isOk ∧ call.path = place then
      call :: callsOn place (call.act.run tree).2 calls
    else callsOn place (call.act.run tree).2 calls

/-- A file holds what it held before and then the additions of the calls on it. -/
theorem fileAt?_afterCalls (place : Path) {calls : List Call}
    (hCalls : ∀ call ∈ calls, Path.upward ∉ call.path.names) (tree : FileTree) :
    (afterCalls tree calls).fileAt? place =
      grown (tree.fileAt? place) ((callsOn place tree calls).map Call.addition) := by
  induction calls generalizing tree with
  | nil => rfl
  | cons call calls ih =>
      rw [List.forall_mem_cons] at hCalls
      -- The later calls start from what this one leaves, whether it failed or not.
      have hAfter := (effect_run hCalls.1 tree).fileAt?_eq place
      have hLater := ih hCalls.2 (call.act.run tree).2
      rw [hAfter] at hLater
      rw [callsOn]
      split_ifs at hLater ⊢ with hDone
      · exact hLater
      · exact hLater

/-- Every file is still there, with what it held in front of what it holds now. -/
def Grows (before after : FileTree) : Prop :=
  ∀ place content, before.fileAt? place = some content →
    ∃ more, after.fileAt? place = some (content ++ more)

theorem grows_afterCalls {calls : List Call}
    (hCalls : ∀ call ∈ calls, Path.upward ∉ call.path.names) (tree : FileTree) :
    Grows tree (afterCalls tree calls) := by
  intro place content hBefore
  rw [fileAt?_afterCalls place hCalls, hBefore, grown_some]
  exact ⟨_, rfl⟩

/-- Whatever calls are made one after another, each of them fails with no file
changed or puts its bytes behind the content of its own file, so that what a
file holds at any time stays in front of what it holds later. A file that was
there takes no header, and one that was not takes that of the call that makes it. -/
theorem logs_only_grow (tree : FileTree) {calls : List Call}
    (hCalls : ∀ call ∈ calls, Path.upward ∉ call.path.names) :
    (∀ earlier call later, calls = earlier ++ call :: later →
      Effect call (afterCalls tree earlier) (call.act.run (afterCalls tree earlier))) ∧
    (∀ earlier middle later, calls = earlier ++ middle ++ later →
      Grows (afterCalls tree earlier) (afterCalls tree (earlier ++ middle))) ∧
    ∀ place, (afterCalls tree calls).fileAt? place =
      match tree.fileAt? place, callsOn place tree calls with
      | some content, on => some (content ++ Utf8.encode (on.flatMap (·.addition.text)))
      | none, first :: later => some (Utf8.encode (first.addition.lead ++
          (first :: later).flatMap (·.addition.text)))
      | none, [] => none := by
  refine ⟨?_, ?_, fun place => ?_⟩
  · rintro earlier call later rfl
    exact effect_run (hCalls call (by simp)) _
  · rintro earlier middle later rfl
    rw [afterCalls_append]
    exact grows_afterCalls (fun call hCall => hCalls call (by simp [hCall])) _
  · rw [fileAt?_afterCalls place hCalls]
    cases tree.fileAt? place with
    | some content => rw [grown_some, List.flatMap_map]
    | none =>
        cases callsOn place tree calls with
        | nil => rfl
        | cons first later =>
            rw [List.map_cons, grown_none, ← List.map_cons, List.flatMap_map]

/-- Two records for a new file and a value for an old one, after a record for
which there can be no directory. -/
theorem logs_after_failed_call :
    let old := Path.ofText "a".toList
    let rows := Path.ofText "d/rows.csv".toList
    let tree : FileTree := { entries := [(old, .file (Utf8.encode "x\n".toList))] }
    let calls : List Call :=
      [.record (old.child "rows.csv".toList) [(['k'], .int 1)], .record rows [(['k'], .text ['v'])],
        .json old (.obj []), .record rows [(['k'], .absent)]]
    (afterCalls tree calls).fileAt? rows = some (Utf8.encode "k\r\nv\r\nNULL\r\n".toList) ∧
      (afterCalls tree calls).fileAt? old = some (Utf8.encode "x\n\x7b\x7d\n".toList) ∧
      (afterCalls tree calls).fileAt? (old.child "rows.csv".toList) = none := by
  intro old rows tree calls
  have hCalls : ∀ call ∈ calls, Path.upward ∉ call.path.names := by decide +kernel
  obtain ⟨_, _, hFiles⟩ := logs_only_grow tree hCalls
  exact ⟨(hFiles rows).trans (by decide +kernel), (hFiles old).trans (by decide +kernel),
    (hFiles _).trans (by decide +kernel)⟩

end PoolLogin.Log
