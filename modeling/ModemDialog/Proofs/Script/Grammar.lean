import ModemDialog.Proofs.Number.Numerals
import ModemDialog.Proofs.Script.Outcome
import ModemDialog.Proofs.Text.Words

/-! The grammar of script lines. A line is a command unless its first word is a keyword, and a
keyword with arguments that it takes is one directive; what is read is just that, and any other
line with a keyword is refused. So whatever a run of scripts writes stands on a line whose first
word is no keyword. -/
namespace ModemDialog.Script

open Text (Splits Trimmed firstWord headWord)

variable {raw line arguments : Text} {k : Keyword} {d : Directive}

namespace Keyword

/-- The arguments that go with a keyword, and the directive they make. -/
inductive Takes : Keyword → Text → Directive → Prop where
  | endless : Takes .loopBegin [] (.loopBegin .unbounded)
  | counted {arguments numeral : Text} {n : Nat} (iter : Splits arguments "iter".toList numeral)
      (denotes : Numeral.Denotes numeral n) (positive : 0 < n) (fits : n < 2 ^ 32) :
      Takes .loopBegin arguments (.loopBegin (.count n))
  | loopEnd : Takes .loopEnd [] .loopEnd
  | sleep {arguments : Text} {d : Duration} (lasts : Directive.duration arguments = .ok d) :
      Takes .sleep arguments (.sleep d)
  | leave : Takes .leave [] .leave
  | manual : Takes .manual [] .manual
  | resume : Takes .run [] (.run none)
  | run {path : Text} (named : path ≠ []) : Takes .run path (.run (some path))

theorem word_solid (k : Keyword) : ∀ c ∈ k.word, Text.isBlank c = false := by
  have solid : k.word.all (!Text.isBlank ·) = true := by cases k <;> decide
  simpa using List.all_eq_true.mp solid

theorem ofWord?_eq_some_iff {w : Text} : ofWord? w = some k ↔ w = k.word := by
  constructor
  · intro found
    have same := List.find?_some found
    exact (of_decide_eq_true same).symm
  · rintro rfl
    cases k <;> decide

theorem word_inj {k l : Keyword} (same : k.word = l.word) : k = l :=
  Option.some.inj ((ofWord?_eq_some_iff.mpr rfl).symm.trans (ofWord?_eq_some_iff.mpr same))

theorem ofWord?_eq_none_iff {w : Text} : ofWord? w = none ↔ ∀ k : Keyword, w ≠ k.word := by
  rw [Option.eq_none_iff_forall_ne_some]
  simp only [ne_eq, ofWord?_eq_some_iff]

end Keyword

/-- What a trimmed line stands for, if it is well formed. -/
inductive Grammar : Text → Directive → Prop where
  | command {line : Text} (other : ∀ k : Keyword, firstWord line ≠ k.word) :
      Grammar line (.command line)
  | directive {line arguments : Text} {k : Keyword} {d : Directive}
      (splits : Splits line k.word arguments) (takes : k.Takes arguments d) : Grammar line d

namespace Directive

theorem bare_eq_ok_iff {e : Directive} : bare d arguments = .ok e ↔ arguments = [] ∧ d = e := by
  unfold bare
  simp only [List.isEmpty_iff]
  split
  · next empty => simp [empty]
  · next given => simp [given]

theorem count_iff {numeral : Text} {n : Nat} :
    Numeral.parseCount numeral = .ok n ↔ Numeral.Denotes numeral n ∧ n < 2 ^ 32 := by
  rw [Numeral.parseCount, Numeral.parse_eq_ok_iff, Numeral.largestCount]
  apply and_congr_right
  intro _
  omega

theorem loopHeader_eq_ok_iff (trimmed : Trimmed arguments) {rounds : Rounds} :
    loopHeader arguments = .ok rounds ↔ Keyword.Takes .loopBegin arguments (.loopBegin rounds) := by
  constructor
  · intro read
    unfold loopHeader at read
    split at read
    · next empty =>
      rw [List.isEmpty_iff.mp empty]
      obtain rfl := Except.ok.inj read
      exact .endless
    · split at read
      · next c rest behind =>
        rw [List.isPrefixOf?_eq_some_iff_append_eq] at behind
        subst behind
        split at read
        · next blank =>
          dsimp only at read
          split at read
          · cases read
          · cases read
          · next n positive counted =>
            obtain rfl := Except.ok.inj read
            obtain ⟨denotes, fits⟩ := count_iff.mp counted
            exact .counted (Text.splits_of_blank trimmed blank) denotes
              (Nat.pos_of_ne_zero positive) fits
        · cases read
      · cases read
  · intro takes
    cases takes with
    | endless => rfl
    | @counted _ numeral n iter denotes positive fits =>
        have counted := count_iff.mpr ⟨denotes, fits⟩
        obtain ⟨c, t, rfl, blank, rfl⟩ := iter.exists_blank denotes.ne_nil
        have behind : "iter".toList.isPrefixOf? ("iter".toList ++ c :: t) = some (c :: t) :=
          List.isPrefixOf?_eq_some_iff_append_eq.mpr rfl
        have given : ("iter".toList ++ c :: t).isEmpty = false := rfl
        unfold loopHeader
        rw [given, behind]
        simp only [Bool.false_eq_true, if_false, blank, if_true, counted]
        cases n with
        | zero => cases positive
        | succ n => rfl

theorem map_eq_ok_iff {ε α β : Type} {f : α → β} {x : Except ε α} {b : β} :
    x.map f = .ok b ↔ ∃ a, x = .ok a ∧ f a = b := by
  cases x <;> simp [Except.map]

theorem ofKeyword_eq_ok_iff (trimmed : Trimmed arguments) :
    ofKeyword k arguments = .ok d ↔ k.Takes arguments d := by
  cases k with
  | loopBegin =>
      rw [ofKeyword, map_eq_ok_iff]
      constructor
      · rintro ⟨rounds, read, rfl⟩
        exact (loopHeader_eq_ok_iff trimmed).mp read
      · intro takes
        obtain ⟨rounds, rfl⟩ : ∃ rounds, d = .loopBegin rounds := by cases takes <;> exact ⟨_, rfl⟩
        exact ⟨rounds, (loopHeader_eq_ok_iff trimmed).mpr takes, rfl⟩
  | sleep =>
      rw [ofKeyword, map_eq_ok_iff]
      constructor
      · rintro ⟨d, lasts, rfl⟩
        exact .sleep lasts
      · intro takes
        cases takes with
        | sleep lasts => exact ⟨_, lasts, rfl⟩
  | run =>
      rw [ofKeyword, Except.ok.injEq]
      constructor
      · rintro rfl
        cases arguments with
        | nil => exact .resume
        | cons c rest => exact .run (List.cons_ne_nil c rest)
      · intro takes
        cases takes with
        | resume => rfl
        | run named => rw [if_neg (by simpa using named)]
  | _ =>
      rw [ofKeyword, bare_eq_ok_iff]
      constructor
      · rintro ⟨rfl, rfl⟩
        constructor
      · intro takes
        cases takes
        exact ⟨rfl, rfl⟩

theorem wellFormed_of_takes (takes : k.Takes arguments d) :
    (∀ text, d ≠ .command text) ∧ ∀ l fault, d ≠ .invalid l fault := by
  cases takes <;> simp

theorem parse_of_other (other : ∀ k : Keyword, firstWord raw ≠ k.word) :
    parse raw = .command (Text.trim raw) := by
  have unknown : Keyword.ofWord? (headWord (Text.trim raw)).1 = none :=
    Keyword.ofWord?_eq_none_iff.mpr other
  unfold parse
  simp only [unknown]

theorem parse_of_ok (opens : firstWord raw = k.word)
    (read : ofKeyword k (headWord (Text.trim raw)).2 = .ok d) : parse raw = d := by
  have found : Keyword.ofWord? (headWord (Text.trim raw)).1 = some k :=
    Keyword.ofWord?_eq_some_iff.mpr opens
  unfold parse
  simp only [found, read]

theorem parse_of_error {fault : DirectiveFault} (opens : firstWord raw = k.word)
    (read : ofKeyword k (headWord (Text.trim raw)).2 = .error fault) :
    parse raw = .invalid k fault := by
  have found : Keyword.ofWord? (headWord (Text.trim raw)).1 = some k :=
    Keyword.ofWord?_eq_some_iff.mpr opens
  unfold parse
  simp only [found, read]

end Directive

theorem splits_word_iff : Splits (Text.trim raw) k.word arguments ↔
    firstWord raw = k.word ∧ (headWord (Text.trim raw)).2 = arguments :=
  Text.splits_trim_iff k.word_solid

theorem firstWord_trim (raw : Text) : firstWord (Text.trim raw) = firstWord raw := by
  rw [firstWord, firstWord, (Text.trimmed_trim raw).trim_eq]

theorem grammar_iff_of_other (other : ∀ k : Keyword, firstWord raw ≠ k.word) :
    Grammar (Text.trim raw) d ↔ .command (Text.trim raw) = d := by
  constructor
  · rintro (_ | ⟨splits, -⟩)
    · rfl
    · exact absurd (splits_word_iff.mp splits).1 (other _)
  · rintro rfl
    exact .command ((firstWord_trim raw).symm ▸ other)

theorem grammar_iff_of_keyword (opens : firstWord raw = k.word) :
    Grammar (Text.trim raw) d ↔ Directive.ofKeyword k (headWord (Text.trim raw)).2 = .ok d := by
  have trimmed : Trimmed (headWord (Text.trim raw)).2 := Text.trimmed_trim _
  rw [Directive.ofKeyword_eq_ok_iff trimmed]
  constructor
  · rintro (other | ⟨splits, takes⟩)
    · rw [firstWord_trim] at other
      exact absurd opens (other k)
    · obtain ⟨same, rfl⟩ := splits_word_iff.mp splits
      rw [Keyword.word_inj (opens.symm.trans same)]
      exact takes
  · exact .directive (splits_word_iff.mpr ⟨opens, rfl⟩)

theorem keyword_or_other (raw : Text) :
    (∃ k : Keyword, firstWord raw = k.word) ∨ ∀ k : Keyword, firstWord raw ≠ k.word := by
  rw [← not_exists]
  exact Classical.em _

namespace Directive

theorem grammar_iff_parse :
    Grammar (Text.trim raw) d ↔ parse raw = d ∧ ∀ k fault, d ≠ .invalid k fault := by
  rcases keyword_or_other raw with ⟨k, opens⟩ | other
  · rw [grammar_iff_of_keyword opens]
    have trimmed : Trimmed (headWord (Text.trim raw)).2 := Text.trimmed_trim _
    cases read : ofKeyword k (headWord (Text.trim raw)).2 with
    | ok e =>
        have wellFormed := (wellFormed_of_takes ((ofKeyword_eq_ok_iff trimmed).mp read)).2
        rw [parse_of_ok opens read]
        constructor
        · rintro ⟨⟩
          exact ⟨rfl, wellFormed⟩
        · rintro ⟨rfl, -⟩
          rfl
    | error fault =>
        rw [parse_of_error opens read]
        constructor
        · rintro ⟨⟩
        · rintro ⟨rfl, wellFormed⟩
          exact absurd rfl (wellFormed k fault)
  · rw [grammar_iff_of_other other, parse_of_other other]
    constructor
    · rintro rfl
      simp
    · exact And.left

theorem parse_eq_invalid_iff : (∃ fault, parse raw = .invalid k fault) ↔
    firstWord raw = k.word ∧ ∀ d, ¬ Grammar (Text.trim raw) d := by
  rcases keyword_or_other raw with ⟨l, opens⟩ | other
  · simp only [grammar_iff_of_keyword opens]
    have trimmed : Trimmed (headWord (Text.trim raw)).2 := Text.trimmed_trim _
    cases read : ofKeyword l (headWord (Text.trim raw)).2 with
    | ok e =>
        have wellFormed := (wellFormed_of_takes ((ofKeyword_eq_ok_iff trimmed).mp read)).2
        rw [parse_of_ok opens read]
        simp [wellFormed]
    | error fault =>
        rw [parse_of_error opens read, opens]
        constructor
        · rintro ⟨fault, ⟨⟩⟩
          simp
        · rintro ⟨same, -⟩
          exact ⟨fault, Keyword.word_inj same ▸ rfl⟩
  · rw [parse_of_other other]
    constructor
    · rintro ⟨fault, ⟨⟩⟩
    · exact fun refused => absurd refused.1 (other k)

theorem parse_eq_command_iff {text : Text} :
    parse raw = .command text ↔ text = Text.trim raw ∧ ∀ k : Keyword, firstWord raw ≠ k.word := by
  constructor
  · intro parsed
    have grammar := grammar_iff_parse.mpr ⟨parsed, by simp⟩
    rcases keyword_or_other raw with ⟨k, opens⟩ | other
    · have takes := (ofKeyword_eq_ok_iff (Text.trimmed_trim _)).mp
        ((grammar_iff_of_keyword opens).mp grammar)
      exact absurd rfl ((wellFormed_of_takes takes).1 text)
    · rw [parse_of_other other] at parsed
      exact ⟨(Directive.command.inj parsed).symm, other⟩
  · rintro ⟨rfl, other⟩
    exact parse_of_other other

theorem parse_surrounded {front behind : Text} (ahead : ∀ c ∈ front, Text.isBlank c = true)
    (after : ∀ c ∈ behind, Text.isBlank c = true) : parse (front ++ raw ++ behind) = parse raw := by
  rw [parse, parse, Text.trim_surrounded ahead after]

end Directive

theorem Reading.exists_line {r : Reading} {command : Text} (member : command ∈ r.commands) :
    ∃ line ∈ r.line :: r.rest, Directive.parse line.text = .command command := by
  unfold Reading.commands at member
  split at member
  · next text parsed =>
    obtain rfl := List.mem_singleton.mp member
    exact ⟨r.line, List.mem_cons_self, parsed⟩
  · unfold loopBody? block? at member
    cases closed : (List.range r.rest.length).find? (endsBlock 0 r.rest) with
    | none => simp [closed] at member
    | some i =>
        rw [closed] at member
        dsimp only [Option.map_some] at member
        split at member
        · obtain ⟨line, inside, same⟩ := List.mem_filterMap.mp member
          refine ⟨line, List.mem_cons_of_mem _ (List.mem_of_mem_take inside), ?_⟩
          unfold ScriptLine.command? at same
          split at same
          · next parsed => rw [parsed, Option.some.inj same]
          · cases same
        · cases member
  · cases member

namespace Stage

variable {setup : Setup} {s t : Stage} {n : Nat}

/-- The write is a line as it stands, without white space around it, and no directive. -/
def Verbatim (lines : List ScriptLine) (w : Write) : Prop :=
  ∃ line ∈ lines, w.data = wire (Text.trim line.text) ∧ ∀ k : Keyword, firstWord line.text ≠ k.word

/-- Within `n` steps the run has come to the lines that the write stands on. -/
def Sanctioned (setup : Setup) (s : Stage) (n : Nat) (w : Write) : Prop :=
  ∃ r below, Reads setup s n r below ∧ Verbatim (r.line :: r.rest) w

theorem Sanctioned.succ {w : Write} (h : Sanctioned setup s n w) : Sanctioned setup s (n + 1) w := by
  obtain ⟨r, below, ⟨k, lt, reached⟩, verbatim⟩ := h
  exact ⟨r, below, ⟨k, Nat.lt_succ_of_lt lt, reached⟩, verbatim⟩

theorem UnderWay.writes (h : UnderWay setup s n t)
    (reached : advance (Stage.step setup) n s = (t, none)) :
    (t.step setup).1.bench.writes = t.bench.writes ∨
      ∃ w, (t.step setup).1.bench.writes = w :: t.bench.writes ∧ Sanctioned setup s (n + 1) w := by
  by_cases sends : t.bench.alive = true ∧ ∃ command, t.machine.step.2.2 = .send command
  · obtain ⟨alive, command, request⟩ := sends
    obtain ⟨w, data, writes, -⟩ := step_sent setup alive request
    obtain ⟨r, below, read, member, -⟩ := h.busy.sends request
    obtain ⟨line, inside, parsed⟩ := Reading.exists_line member
    obtain ⟨rfl, other⟩ := Directive.parse_eq_command_iff.mp parsed
    exact .inr ⟨w, writes, r, below, reads_succ reached read, line, inside, data, other⟩
  · exact .inl (step_unsent setup fun alive command same => sends ⟨alive, command, same⟩).2.1

theorem advance_writes (idle : s.machine.loop = none) (n : Nat) :
    ∃ sent, (advance (step setup) n s).1.bench.writes = sent ++ s.bench.writes ∧
      ∀ w ∈ sent, Sanctioned setup s n w := by
  induction n with
  | zero => exact ⟨[], rfl, by simp⟩
  | succ n ih =>
      obtain ⟨sent, writes, sanctioned⟩ := ih
      have earlier : ∀ w ∈ sent, Sanctioned setup s (n + 1) w :=
        fun w inside => (sanctioned w inside).succ
      rw [advance_succ]
      cases reached : advance (step setup) n s with
      | mk t ending =>
          rw [reached] at writes
          cases ending with
          | some ending => exact ⟨sent, writes, earlier⟩
          | none =>
              rcases (advance_underWay idle reached).writes reached with same | ⟨w, more, allowed⟩
              · exact ⟨sent, same.trans writes, earlier⟩
              · refine ⟨w :: sent, by rw [more, writes]; rfl, ?_⟩
                exact List.forall_mem_cons.mpr ⟨allowed, earlier⟩

end Stage

/-- A line is read by its grammar: the directives and commands are those of well-formed lines, and
any other line is refused for its keyword; white space around a line makes no difference. Hence a
run of scripts writes no line with a keyword. -/
theorem lines_are_read_by_grammar :
    (∀ (raw : Text) (d : Directive), Directive.parse raw = d ∧ (∀ k fault, d ≠ .invalid k fault) ↔
      Grammar (Text.trim raw) d) ∧
    (∀ raw text : Text, Directive.parse raw = .command text ↔
      text = Text.trim raw ∧ ∀ k : Keyword, firstWord raw ≠ k.word) ∧
    (∀ (raw : Text) (k : Keyword), (∃ fault, Directive.parse raw = .invalid k fault) ↔
      firstWord raw = k.word ∧ ∀ d, ¬ Grammar (Text.trim raw) d) ∧
    (∀ front raw behind : Text, (∀ c ∈ front, Text.isBlank c = true) →
      (∀ c ∈ behind, Text.isBlank c = true) →
      Directive.parse (front ++ raw ++ behind) = Directive.parse raw) ∧
    ∀ (setup : Setup) (b : Bench) (stack : List Script) (n : Nat),
      ∃ sent, (advance (Stage.step setup) n ⟨b, ⟨stack, none⟩⟩).1.bench.writes = sent ++ b.writes ∧
        ∀ w ∈ sent, Stage.Sanctioned setup ⟨b, ⟨stack, none⟩⟩ n w :=
  ⟨fun _ _ => Directive.grammar_iff_parse.symm, fun _ _ => Directive.parse_eq_command_iff,
    fun _ _ => Directive.parse_eq_invalid_iff, fun _ _ _ => Directive.parse_surrounded,
    fun _ b stack n => Stage.advance_writes (s := ⟨b, ⟨stack, none⟩⟩) rfl n⟩

example : Directive.parse "\u3000loopbegin\titer +007 ".toList = .loopBegin (.count 7) := by decide

end ModemDialog.Script
