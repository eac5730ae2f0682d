import ModemDialog.Settings.Parser
import Mathlib.Data.List.Basic

/-! What a settings file says, line by line. The last valid line of a key gives its value,
the valid sentry lines together replace the default set, and every other significant line is
reported at its number. -/
namespace ModemDialog.Settings

inductive Scalar where
  | command
  | expect
  | baud
  | charSize
  | parity
  | stopBits
  | flow
  | readTimeout
  | writeTimeout

inductive Key where
  | scalar (x : Scalar)
  | sentry

namespace Scalar

abbrev Value : Scalar → Type
  | .command | .expect => Text
  | .baud => Nat
  | .charSize => CharSize
  | .parity => Parity
  | .stopBits => StopBits
  | .flow => FlowControl
  | .readTimeout | .writeTimeout => Duration

def word : Scalar → Text
  | .command => "scvcmd".toList
  | .expect => "scvrsp".toList
  | .baud => "baudrt".toList
  | .charSize => "bytesz".toList
  | .parity => "parity".toList
  | .stopBits => "stpbit".toList
  | .flow => "flowct".toList
  | .readTimeout => "rdtout".toList
  | .writeTimeout => "wrtout".toList

def read : (x : Scalar) → Text → Except ValueFault x.Value
  | .command, value | .expect, value => .ok value
  | .baud, value => Value.parseRate value
  | .charSize, value => Value.choose Value.charSizes value
  | .parity, value => Value.choose Value.parities value
  | .stopBits, value => Value.choose Value.stopBits value
  | .flow, value => Value.choose Value.flowControls value
  | .readTimeout, value | .writeTimeout, value => Value.parseSeconds value

def get : (x : Scalar) → Settings → x.Value
  | .command, s => s.linkCheck.command
  | .expect, s => s.linkCheck.expect
  | .baud, s => s.line.baud
  | .charSize, s => s.line.charSize
  | .parity, s => s.line.parity
  | .stopBits, s => s.line.stopBits
  | .flow, s => s.line.flow
  | .readTimeout, s => s.line.readTimeout
  | .writeTimeout, s => s.line.writeTimeout

end Scalar

namespace Key

abbrev Value : Key → Type
  | .scalar x => x.Value
  | .sentry => Sentry

def word : Key → Text
  | .scalar x => x.word
  | .sentry => Assignment.sentryKey

def read : (k : Key) → Text → Except ValueFault k.Value
  | .scalar x, value => x.read value
  | .sentry, value => Value.parseSentry value

def all : List Key :=
  [.scalar .command, .scalar .expect, .scalar .baud, .scalar .charSize, .scalar .parity,
    .scalar .stopBits, .scalar .flow, .scalar .readTimeout, .scalar .writeTimeout, .sentry]

def ofWord? (word : Text) : Option Key := all.find? (·.word = word)

theorem ofWord?_word (k : Key) : ofWord? k.word = some k := by
  cases k with
  | scalar x => cases x <;> rfl
  | sentry => rfl

theorem ofWord?_eq_some {word : Text} {k : Key} : ofWord? word = some k ↔ k.word = word := by
  constructor
  · intro found
    simpa using List.find?_some found
  · intro same
    rw [← same, ofWord?_word]

end Key

/-! The judgement of a line. -/

def statement? (raw : Text) : Option Text :=
  let text := Text.trim raw
  if text.isEmpty || text.head? = some '#' then none else some text

/-- The key and the value of a statement. Only a sentry keeps the blanks around it. -/
def pair? (text : Text) : Option (Text × Text) :=
  (Text.cut? '=' text).map fun (front, back) =>
    (Text.trim front, if Text.trim front = Assignment.sentryKey then back else Text.trim back)

def keyed? (raw : Text) : Option (Text × Text) := (statement? raw).bind pair?

def Accepted (key value : Text) : Prop :=
  ∃ k : Key, k.word = key ∧ ∃ v, k.read value = .ok v

def Valid (text : Text) : Prop :=
  ∃ key value, pair? text = some (key, value) ∧ Accepted key value

def problem? (number : Nat) (text : Text) : Option SettingsProblem :=
  match pair? text with
  | none => some (.notAPair number text)
  | some (key, value) =>
      match Key.ofWord? key with
      | none => some (.unknownKey number key)
      | some k =>
          match k.read value with
          | .error fault => some (.badValue number key value fault)
          | .ok _ => none

def Key.value? (k : Key) (raw : Text) : Option k.Value :=
  match keyed? raw with
  | some (key, value) => if k.word = key then (k.read value).toOption else none
  | none => none

/-- The valid values of a key, in the order of their lines. -/
def Key.values (k : Key) (content : Text) : List k.Value :=
  (Text.lines content).filterMap k.value?

def statements (content : Text) : List (Text × Nat) :=
  ((Text.lines content).zipIdx 1).filterMap fun (raw, number) =>
    (statement? raw).map (·, number)

theorem accepted_iff {k : Key} {key value : Text} (word : k.word = key) :
    Accepted key value ↔ ∃ v, k.read value = .ok v := by
  constructor
  · rintro ⟨k', word', read⟩
    have same : some k' = some k := by
      rw [← Key.ofWord?_eq_some.mpr word', Key.ofWord?_eq_some.mpr word]
    cases same
    exact read
  · intro read
    exact ⟨k, word, read⟩

theorem problem?_eq_none {number : Nat} {text : Text} :
    problem? number text = none ↔ Valid text := by
  unfold problem? Valid
  rcases pair? text with _ | ⟨key, value⟩
  · simp
  · have only : (∃ key' value', some (key, value) = some (key', value') ∧
        Accepted key' value') ↔ Accepted key value := by simp
    rw [only]
    dsimp only
    rcases known : Key.ofWord? key with _ | k
    · have refused : ¬ Accepted key value := by
        rintro ⟨k, word, _⟩
        rw [Key.ofWord?_eq_some.mpr word] at known
        exact nomatch known
      simp [refused]
    · rw [accepted_iff (Key.ofWord?_eq_some.mp known)]
      dsimp only
      cases k.read value <;> simp

/-! The judgement against the parser's. -/

namespace Key

def assignment : (k : Key) → k.Value → Assignment
  | .scalar .command, t => .command t
  | .scalar .expect, t => .expect t
  | .scalar .baud, rate => .baud rate
  | .scalar .charSize, x => .charSize x
  | .scalar .parity, x => .parity x
  | .scalar .stopBits, x => .stopBits x
  | .scalar .flow, x => .flow x
  | .scalar .readTimeout, d => .readTimeout d
  | .scalar .writeTimeout, d => .writeTimeout d
  | .sentry, s => .sentry s

def assigned? : (k : Key) → Assignment → Option k.Value
  | .scalar .command, .command t => some t
  | .scalar .expect, .expect t => some t
  | .scalar .baud, .baud rate => some rate
  | .scalar .charSize, .charSize x => some x
  | .scalar .parity, .parity x => some x
  | .scalar .stopBits, .stopBits x => some x
  | .scalar .flow, .flow x => some x
  | .scalar .readTimeout, .readTimeout d => some d
  | .scalar .writeTimeout, .writeTimeout d => some d
  | .sentry, .sentry s => some s
  | _, _ => none

theorem assigned?_assignment (k : Key) (v : k.Value) : k.assigned? (k.assignment v) = some v := by
  cases k with
  | scalar x => cases x <;> rfl
  | sentry => rfl

theorem assigned?_eq_none {k k' : Key} (other : k ≠ k') (v : k'.Value) :
    k.assigned? (k'.assignment v) = none := by
  rcases k with x | _ <;> rcases k' with y | _
  · cases x <;> cases y <;> first | rfl | exact absurd rfl other
  · cases x <;> rfl
  · cases y <;> rfl
  · exact absurd rfl other

theorem parse?_eq (key value : Text) :
    Assignment.parse? key value =
      (ofWord? key).map fun k => (k.read value).map k.assignment := by
  rcases known : ofWord? key with _ | k
  · have unknown : ∀ k : Key, key ≠ k.word := by
      intro k word
      rw [ofWord?_eq_some.mpr word.symm] at known
      exact nomatch known
    unfold Assignment.parse?
    refine (if_neg (unknown (.scalar .command))).trans ?_
    refine (if_neg (unknown (.scalar .expect))).trans ?_
    refine (if_neg (unknown (.scalar .baud))).trans ?_
    refine (if_neg (unknown (.scalar .charSize))).trans ?_
    refine (if_neg (unknown (.scalar .parity))).trans ?_
    refine (if_neg (unknown (.scalar .stopBits))).trans ?_
    refine (if_neg (unknown (.scalar .flow))).trans ?_
    refine (if_neg (unknown (.scalar .readTimeout))).trans ?_
    refine (if_neg (unknown (.scalar .writeTimeout))).trans ?_
    refine (if_neg (unknown .sentry)).trans ?_
    rfl
  · rw [← ofWord?_eq_some.mp known]
    cases k with
    | scalar x => cases x <;> rfl
    | sentry => rfl

end Key

theorem judge_eq (number : Nat) (raw : Text) :
    judge number raw = (statement? raw).map fun text =>
      match pair? text with
      | none => .error (.notAPair number text)
      | some (key, value) =>
          match Assignment.parse? key value with
          | none => .error (.unknownKey number key)
          | some (.error fault) => .error (.badValue number key value fault)
          | some (.ok a) => .ok a := by
  unfold judge statement? pair?
  dsimp only
  split
  · rfl
  · rw [Option.map_some]
    cases Text.cut? '=' (Text.trim raw) <;> rfl

theorem judge_problem (number : Nat) (raw : Text) :
    problems (judge number raw).toList =
      ((statement? raw).bind (problem? number)).toList := by
  rw [judge_eq]
  cases statement? raw with
  | none => rfl
  | some text =>
      dsimp only [Option.map_some, Option.bind_some]
      unfold problem?
      rcases pair? text with _ | ⟨key, value⟩
      · rfl
      · dsimp only
        rw [Key.parse?_eq]
        rcases Key.ofWord? key with _ | k
        · rfl
        · dsimp only [Option.map_some]
          cases k.read value <;> rfl

theorem judge_value (number : Nat) (raw : Text) (k : Key) :
    (valid (judge number raw).toList).filterMap k.assigned? = (k.value? raw).toList := by
  rw [judge_eq]
  unfold Key.value? keyed?
  cases statement? raw with
  | none => rfl
  | some text =>
      dsimp only [Option.map_some, Option.bind_some]
      rcases pair? text with _ | ⟨key, value⟩
      · rfl
      · dsimp only
        rw [Key.parse?_eq]
        rcases known : Key.ofWord? key with _ | k'
        · have unknown : k.word ≠ key := by
            intro word
            rw [Key.ofWord?_eq_some.mpr word] at known
            exact nomatch known
          rw [if_neg unknown]
          rfl
        · have word := Key.ofWord?_eq_some.mp known
          by_cases same : k = k'
          · subst same
            rw [if_pos word]
            dsimp only [Option.map_some]
            cases k.read value with
            | error fault => rfl
            | ok v => simp [valid, Except.map, Except.toOption, Key.assigned?_assignment]
          · have other : k.word ≠ key := by
              intro word'
              have : some k = some k' := by rw [← Key.ofWord?_eq_some.mpr word', known]
              exact same (Option.some.inj this)
            rw [if_neg other]
            dsimp only [Option.map_some]
            cases k'.read value with
            | error fault => rfl
            | ok v => simp [valid, Except.map, Key.assigned?_eq_none same]

theorem problems_append (js more : List (Except SettingsProblem Assignment)) :
    problems (js ++ more) = problems js ++ problems more := List.filterMap_append

theorem valid_append (js more : List (Except SettingsProblem Assignment)) :
    valid (js ++ more) = valid js ++ valid more := List.filterMap_append

theorem problems_judgements (number : Nat) (lines : List Text) :
    problems (judgements number lines) =
      ((lines.zipIdx number).filterMap fun (raw, number) =>
        (statement? raw).bind (problem? number)) := by
  induction lines generalizing number with
  | nil => rfl
  | cons raw more ih =>
      rw [judgements, problems_append, judge_problem, ih, List.zipIdx_cons, List.filterMap_cons]
      dsimp only
      cases (statement? raw).bind (problem? number) <;> rfl

theorem valid_judgements (number : Nat) (lines : List Text) (k : Key) :
    (valid (judgements number lines)).filterMap k.assigned? = lines.filterMap k.value? := by
  induction lines generalizing number with
  | nil => rfl
  | cons raw more ih =>
      rw [judgements, valid_append, List.filterMap_append, judge_value, ih, List.filterMap_cons]
      cases k.value? raw <;> rfl

/-! Assignments in order: the last one of a key stays. -/

theorem get_assign (x : Scalar) (s : Settings) (a : Assignment) :
    x.get (s.assign a) = ((Key.scalar x).assigned? a).getD (x.get s) := by
  cases x <;> cases a <;> rfl

theorem get_foldl_assign (x : Scalar) (s : Settings) (as : List Assignment) :
    x.get (as.foldl assign s) =
      ((as.filterMap (Key.scalar x).assigned?).getLast?).getD (x.get s) := by
  induction as generalizing s with
  | nil => rfl
  | cons a as ih =>
      rw [List.foldl_cons, ih, get_assign, List.filterMap_cons]
      cases (Key.scalar x).assigned? a with
      | none => rfl
      | some v => rw [List.getLast?_cons]; rfl

theorem foldl_assign_rest (s : Settings) (as : List Assignment) :
    as.foldl assign s =
      { s with line := (as.foldl assign s).line, linkCheck := (as.foldl assign s).linkCheck } := by
  induction as generalizing s with
  | nil => rfl
  | cons a as ih =>
      rw [List.foldl_cons]
      conv_lhs => rw [ih]
      cases a <;> rfl

theorem get_assignAll (x : Scalar) (s : Settings) (as : List Assignment) :
    x.get (s.assignAll as) =
      ((as.filterMap (Key.scalar x).assigned?).getLast?).getD (x.get s) := by
  rw [← get_foldl_assign]
  unfold assignAll
  dsimp only
  split
  · rfl
  · cases x <;> rfl

theorem sentries_assignAll (s : Settings) (as : List Assignment) :
    (s.assignAll as).sentries =
      if (as.filterMap Key.sentry.assigned?).isEmpty then s.sentries
      else as.filterMap Key.sentry.assigned? := by
  have own : Assignment.sentry? = Key.sentry.assigned? := by
    funext a
    cases a <;> rfl
  unfold assignAll
  dsimp only
  rw [own]
  split
  · rw [foldl_assign_rest]
  · rfl

theorem assignAll_rest (s : Settings) (as : List Assignment) :
    s.assignAll as =
      { s with
        line := (s.assignAll as).line
        sentries := (s.assignAll as).sentries
        linkCheck := (s.assignAll as).linkCheck } := by
  unfold assignAll
  dsimp only
  split <;> rw [foldl_assign_rest]

/-- The settings and the problems a text stands for. -/
structure Means (content : Text) (s : Settings) (ps : List SettingsProblem) : Prop where
  scalar : ∀ x : Scalar,
    x.get s = (((Key.scalar x).values content).getLast?).getD (x.get Settings.default)
  sentries : s.sentries =
    if (Key.sentry.values content).isEmpty then Settings.default.sentries
    else Key.sentry.values content
  rest : s =
    { Settings.default with line := s.line, sentries := s.sentries, linkCheck := s.linkCheck }
  problems : ps = (statements content).filterMap fun (text, number) => problem? number text

theorem parse_means (content : Text) : Means content (parse content).1 (parse content).2 where
  scalar x := by
    show x.get (Settings.default.assignAll _) = _
    rw [get_assignAll, valid_judgements]
    rfl
  sentries := by
    show (Settings.default.assignAll _).sentries = _
    rw [sentries_assignAll, valid_judgements]
    rfl
  rest := assignAll_rest _ _
  problems := by
    show Settings.problems _ = _
    rw [problems_judgements, statements, List.filterMap_filterMap]
    congr 1
    funext ⟨raw, number⟩
    dsimp only
    cases statement? raw <;> rfl

theorem eq_of_get {s s' : Settings} (get : ∀ x : Scalar, x.get s' = x.get s) :
    s'.line = s.line ∧ s'.linkCheck = s.linkCheck := by
  constructor
  · show LineSettings.mk (Scalar.baud.get s') (Scalar.charSize.get s') (Scalar.parity.get s')
        (Scalar.stopBits.get s') (Scalar.flow.get s') (Scalar.readTimeout.get s')
        (Scalar.writeTimeout.get s') = s.line
    simp only [get]
    rfl
  · show LinkCheck.mk (Scalar.command.get s') (Scalar.expect.get s') = s.linkCheck
    simp only [get]
    rfl

theorem parse_settings_eq {content content' : Text}
    (same : ∀ k : Key, k.values content' = k.values content) :
    (parse content').1 = (parse content).1 := by
  have means := parse_means content
  have means' := parse_means content'
  have get : ∀ x : Scalar, x.get (parse content').1 = x.get (parse content).1 := by
    intro x
    rw [means'.scalar, means.scalar, same]
  have sentries : (parse content').1.sentries = (parse content).1.sentries := by
    rw [means'.sentries, means.sentries, same]
  obtain ⟨line, linkCheck⟩ := eq_of_get get
  rw [means'.rest, line, linkCheck, sentries]
  exact means.rest.symm

end ModemDialog.Settings
