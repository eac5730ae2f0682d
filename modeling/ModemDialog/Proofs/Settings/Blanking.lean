import ModemDialog.Proofs.Settings.Meaning
import ModemDialog.Proofs.Text.Lines
import Mathlib.Data.List.Forall2

/-! Changes to a settings file that do not change its meaning: invalid lines may be blanked,
and lines of different keys may change places. -/
namespace ModemDialog.Settings

/-! Blanked lines. -/

/-- The second line says nothing where the first is invalid, and is the first elsewhere. -/
inductive Blanked : Text → Text → Prop where
  | kept {raw : Text} (valid : ∀ text, statement? raw = some text → Valid text) : Blanked raw raw
  | emptied {raw text raw' : Text} (stated : statement? raw = some text) (invalid : ¬ Valid text)
      (silent : statement? raw' = none) : Blanked raw raw'

theorem Key.value?_of_silent {raw : Text} (silent : statement? raw = none) (k : Key) :
    k.value? raw = none := by
  unfold Key.value? keyed?
  rw [silent]
  rfl

theorem Key.value?_of_invalid {raw text : Text} (stated : statement? raw = some text)
    (invalid : ¬ Valid text) (k : Key) : k.value? raw = none := by
  unfold Key.value? keyed?
  rw [stated]
  dsimp only [Option.bind_some]
  rcases paired : pair? text with _ | ⟨key, value⟩
  · rfl
  · dsimp only
    split
    case isTrue word =>
      cases read : k.read value with
      | error fault => rfl
      | ok v => exact absurd ⟨key, value, paired, k, word, v, read⟩ invalid
    case isFalse => rfl

theorem Blanked.value? {raw raw' : Text} (h : Blanked raw raw') (k : Key) :
    k.value? raw' = k.value? raw := by
  cases h with
  | kept => rfl
  | emptied stated invalid silent =>
      rw [Key.value?_of_silent silent, Key.value?_of_invalid stated invalid]

theorem Blanked.problem? {raw raw' : Text} (h : Blanked raw raw') (number : Nat) :
    (statement? raw').bind (problem? number) = none := by
  cases h with
  | kept valid =>
      cases stated : statement? raw with
      | none => rfl
      | some text => exact problem?_eq_none.mpr (valid text stated)
  | emptied stated invalid silent =>
      rw [silent]
      rfl

def Blanks (content content' : Text) : Prop :=
  List.Forall₂ Blanked (Text.lines content) (Text.lines content')

theorem filterMap_value?_of_blanked {ls ls' : List Text} (h : List.Forall₂ Blanked ls ls')
    (k : Key) : ls'.filterMap k.value? = ls.filterMap k.value? := by
  induction h with
  | nil => rfl
  | cons line _ ih => simp only [List.filterMap_cons, line.value?, ih]

theorem problems_of_blanked {ls ls' : List Text} (h : List.Forall₂ Blanked ls ls')
    (number : Nat) : Settings.problems (judgements number ls') = [] := by
  induction h generalizing number with
  | nil => rfl
  | cons line _ ih =>
      rw [judgements, problems_append, judge_problem, line.problem?, ih]
      rfl

theorem Blanks.parse {content content' : Text} (h : Blanks content content') :
    parse content' = ((parse content).1, []) := by
  refine Prod.ext ?_ (problems_of_blanked h 1)
  exact parse_settings_eq fun k => filterMap_value?_of_blanked h k

def blankLine (raw : Text) : Text :=
  match (statement? raw).bind (problem? 0) with
  | some _ => []
  | none => raw

theorem blanked_blankLine (raw : Text) : Blanked raw (blankLine raw) := by
  unfold blankLine
  split
  case h_1 p reported =>
    obtain ⟨text, stated, reported⟩ := Option.bind_eq_some_iff.mp reported
    refine .emptied stated (fun valid => ?_) rfl
    rw [problem?_eq_none.mpr valid] at reported
    exact nomatch reported
  case h_2 silent =>
    refine .kept fun text stated => ?_
    rw [stated] at silent
    exact problem?_eq_none.mp silent

def blank (content : Text) : Text :=
  (Text.lines content).flatMap fun raw => blankLine raw ++ ['\r', '\n']

theorem lines_flatMap {f : Text → Text} {ls : List Text} (unbroken : ∀ line ∈ ls, '\n' ∉ f line) :
    Text.lines (ls.flatMap fun line => f line ++ ['\r', '\n']) = ls.map f := by
  induction ls with
  | nil => rfl
  | cons line ls ih =>
      rw [List.flatMap_cons, List.append_assoc]
      show Text.lines (f line ++ '\r' :: '\n' :: ls.flatMap _) = _
      rw [Text.lines_append (unbroken line (by simp)), ih (fun l mem => unbroken l (by simp [mem]))]
      rfl

theorem blanks_of_lines {content content' : Text}
    (lines : Text.lines content' = (Text.lines content).map blankLine) :
    Blanks content content' := by
  unfold Blanks
  rw [lines, List.forall₂_map_right_iff, List.forall₂_same]
  exact fun raw _ => blanked_blankLine raw

theorem blanks_blank (content : Text) : Blanks content (blank content) := by
  refine blanks_of_lines (lines_flatMap fun line mem => ?_)
  unfold blankLine
  split
  · simp
  · exact Text.unbroken_of_mem_lines content line mem

/-! Lines in another order. -/

def linesOf (key content : Text) : List Text :=
  (Text.lines content).filter fun raw => (keyed? raw).map (·.1) = some key

theorem Key.values_eq (k : Key) (content : Text) :
    k.values content = (linesOf k.word content).filterMap k.value? := by
  unfold Key.values linesOf
  rw [List.filterMap_filter]
  congr 1
  funext raw
  unfold Key.value?
  rcases keyed? raw with _ | ⟨key, value⟩
  · rfl
  · by_cases word : k.word = key
    · simp [word]
    · have other : ¬ key = k.word := fun same => word same.symm
      simp [word, other]

/-- For every text: its settings are those of the last valid lines, its problems those of
its invalid lines; both stay when the invalid lines are blanked, but for the problems, and
the settings stay under every change that leaves the lines of each key in their order. -/
theorem parse_last_valid_lines (content : Text) :
    Means content (parse content).1 (parse content).2 ∧
      (∀ number text, problem? number text = none ↔ Valid text) ∧
      (∃ content', Blanks content content') ∧
      (∀ content', Blanks content content' → parse content' = ((parse content).1, [])) ∧
      ∀ content', (∀ key, linesOf key content' = linesOf key content) →
        (parse content').1 = (parse content).1 := by
  refine ⟨parse_means content, fun _ _ => problem?_eq_none, ⟨_, blanks_blank content⟩,
    fun content' blanks => blanks.parse, fun content' same => ?_⟩
  refine parse_settings_eq fun k => ?_
  rw [Key.values_eq, Key.values_eq, same]

def mixedFile : Text :=
  "baudrt=9600\nbaudrt=12345\nnonsense\n# note\nsentry= OK\nbaudrt=300".toList

def mixedFileBlanked : Text := "baudrt=9600\n\n\n# note\nsentry= OK\nbaudrt=300".toList

def mixedFileSwapped : Text := "sentry= OK\nbaudrt=9600\nbaudrt=12345\nbaudrt=300".toList

theorem linesOf_eq_nil {key content : Text}
    (absent : some key ∉ (Text.lines content).map fun raw => (keyed? raw).map (·.1)) :
    linesOf key content = [] := by
  unfold linesOf
  rw [List.filter_eq_nil_iff]
  intro raw mem same
  exact absent (List.mem_map.mpr ⟨raw, mem, by simpa using same⟩)

theorem parse_last_valid_lines_of_mixedFile :
    Blanks mixedFile mixedFileBlanked ∧ parse mixedFileBlanked = ((parse mixedFile).1, []) ∧
      (∀ key, linesOf key mixedFileSwapped = linesOf key mixedFile) ∧
      (parse mixedFileSwapped).1 = (parse mixedFile).1 := by
  have blanks : Blanks mixedFile mixedFileBlanked := blanks_of_lines (by decide +kernel)
  have same : ∀ key, linesOf key mixedFileSwapped = linesOf key mixedFile := by
    intro key
    by_cases baud : key = "baudrt".toList
    · rw [baud]
      decide +kernel
    by_cases sentry : key = "sentry".toList
    · rw [sentry]
      decide +kernel
    have keys : ((Text.lines mixedFile).map fun raw => (keyed? raw).map (·.1)) =
        [some "baudrt".toList, some "baudrt".toList, none, none, some "sentry".toList,
          some "baudrt".toList] := by decide +kernel
    have keys' : ((Text.lines mixedFileSwapped).map fun raw => (keyed? raw).map (·.1)) =
        [some "sentry".toList, some "baudrt".toList, some "baudrt".toList,
          some "baudrt".toList] := by decide +kernel
    have absent : linesOf key mixedFile = [] := by
      apply linesOf_eq_nil
      rw [keys]
      simp only [List.mem_cons, Option.some.injEq, baud, sentry, reduceCtorEq, List.not_mem_nil,
        or_self, not_false_eq_true]
    rw [absent]
    apply linesOf_eq_nil
    rw [keys']
    simp only [List.mem_cons, Option.some.injEq, baud, sentry, List.not_mem_nil, or_self,
      not_false_eq_true]
  obtain ⟨_, _, _, blanked, swapped⟩ := parse_last_valid_lines mixedFile
  exact ⟨blanks, blanked _ blanks, same, swapped _ same⟩

end ModemDialog.Settings
