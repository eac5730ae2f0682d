import Mathlib.Data.Fintype.EquivFin
import Mathlib.Data.Fintype.Sets
import ModemDialog.Proofs.Script.Block
import ModemDialog.Script.File

/-! What a script means, apart from the machine that runs it: its lines are statements,
and statements are commands, if no script runs itself through others. -/
namespace ModemDialog
namespace Script

/-- What is left of a script's lines: a command, a loop that can be run, or another
script. -/
inductive Statement where
  | command (text : Text)
  | loop (rounds : Rounds) (body : List Text)
  | run (path : Text)
  deriving DecidableEq, Repr

/-- A block that is no loop is passed over, and so is a single line that neither sends
nor runs anything. Nothing behind a line that leaves the script counts. -/
def statements : List ScriptLine → List Statement
  | [] => []
  | line :: rest =>
      match Directive.parse line.text with
      | .command text => .command text :: statements rest
      | .run (some path) => .run path :: statements rest
      | .leave => []
      | .loopBegin rounds =>
          match loopBody? rest with
          | some body => .loop rounds body :: statements (behindBlock rest)
          | none => statements (behindBlock rest)
      | .invalid .loopBegin _ => statements (behindBlock rest)
      | _ => statements rest
termination_by lines => lines.length
decreasing_by
  all_goals have := behindBlock_length_le rest
  all_goals simp only [List.length_cons]
  all_goals omega

def Bounded (lines : List ScriptLine) : Prop :=
  ∀ body, Statement.loop .unbounded body ∉ statements lines

def Runs (files : FileTree) (path other : Text) : Prop :=
  ∃ s, load files path = .ok s ∧ .run other ∈ statements s.pending

/-- No script runs itself, however many others lie between. -/
def Acyclic (files : FileTree) : Prop := ∀ path, ¬ Relation.TransGen (Runs files) path path

def texts (files : FileTree) : List Text :=
  files.nodes.filterMap fun (_, node) =>
    match node with
    | .file data => Utf8.decode? data
    | _ => none

theorem load_eq_ok {files : FileTree} {path : Text} {s : Script}
    (loaded : load files path = .ok s) : ∃ text ∈ texts files, s = ofText path text := by
  simp only [load, validate, FileTree.readText, FileTree.find, FileTree.node?, bind,
    Except.bind] at loaded
  cases resolved : files.resolve path with
  | error fault => simp [resolved] at loaded
  | ok names =>
      cases found : files.nodes.find? (·.1 = names) with
      | none => simp [resolved, found] at loaded
      | some entry =>
          obtain ⟨place, node⟩ := entry
          have member := List.mem_of_find?_eq_some found
          cases node with
          | file data =>
              by_cases right : extensionOf? path = some extension
              · cases decoded : Utf8.decode? data with
                | none => simp [resolved, found, right, decoded] at loaded
                | some text =>
                    simp only [resolved, found, right, decoded, Option.map_some, if_true,
                      Except.ok.injEq] at loaded
                    exact ⟨text, List.mem_filterMap.mpr ⟨_, member, decoded⟩, loaded.symm⟩
              · simp [resolved, found, right] at loaded
          | _ => simp [resolved, found] at loaded

def mentioned (files : FileTree) : List Text :=
  (texts files).flatMap fun text =>
    (statements (ofText [] text).pending).filterMap fun
      | .run path => some path
      | _ => none

theorem Runs.mem_mentioned {files : FileTree} {path other : Text} (h : Runs files path other) :
    other ∈ mentioned files := by
  obtain ⟨s, loaded, runs⟩ := h
  obtain ⟨text, member, rfl⟩ := load_eq_ok loaded
  exact List.mem_flatMap.mpr ⟨text, member, List.mem_filterMap.mpr ⟨_, runs, rfl⟩⟩

/-- The tree is finite: without a cycle, no chain of scripts that run each other goes on
for ever. -/
theorem Acyclic.wellFounded {files : FileTree} (h : Acyclic files) :
    WellFounded fun other path => Runs files path other := by
  let Below (q p : { path // path ∈ mentioned files }) : Prop :=
    Relation.TransGen (Runs files) p.1 q.1
  have : IsTrans _ Below := ⟨fun _ _ _ first second => second.trans first⟩
  have : Std.Irrefl Below := ⟨fun p => h p.1⟩
  have mentions := Finite.wellFounded_of_trans_of_irrefl Below
  refine ⟨fun path => .intro path fun other runs => ?_⟩
  generalize eq : (⟨other, runs.mem_mentioned⟩ : { path // path ∈ mentioned files }) = start
  obtain rfl : start.1 = other := by rw [← eq]
  clear eq runs
  induction start using mentions.induction with
  | _ p ih => exact .intro _ fun q runs => ih ⟨q, runs.mem_mentioned⟩ (.single runs)

namespace Statement

/-- The commands of a statement, when `within` says what a path stands for. A loop
without end stands for none here. -/
def commands (within : Text → List Text) : Statement → List Text
  | .command text => [text]
  | .loop (.count n) body => (List.replicate n body).flatten
  | .loop .unbounded _ => []
  | .run path => within path

end Statement

def commandsAt {files : FileTree} (acyclic : Acyclic files) (path : Text) : List Text :=
  match _loaded : load files path with
  | .error _ => []
  | .ok s =>
      (statements s.pending).attach.flatMap fun ⟨st, _member⟩ =>
        match st with
        | .run other => commandsAt acyclic other
        | st => st.commands fun _ => []
termination_by acyclic.wellFounded.wrap path
decreasing_by exact ⟨s, _loaded, _member⟩

def commandsOf {files : FileTree} (acyclic : Acyclic files) (lines : List ScriptLine) :
    List Text :=
  (statements lines).flatMap (Statement.commands (commandsAt acyclic))

def commandsOfStack {files : FileTree} (acyclic : Acyclic files) (stack : List Script) :
    List Text :=
  stack.flatMap fun s => commandsOf acyclic s.pending

theorem commandsAt_eq {files : FileTree} (acyclic : Acyclic files) (path : Text) :
    commandsAt acyclic path =
      match load files path with
      | .error _ => []
      | .ok s => commandsOf acyclic s.pending := by
  rw [commandsAt]
  split
  · rename_i loaded
    rw [loaded]
  · rename_i s loaded
    rw [loaded]
    dsimp only
    rw [commandsOf]
    refine (List.flatMap_subtype fun st member => ?_).trans (by rw [List.unattach_attach])
    cases st with
    | loop rounds body => cases rounds <;> rfl
    | _ => rfl

end Script
end ModemDialog
