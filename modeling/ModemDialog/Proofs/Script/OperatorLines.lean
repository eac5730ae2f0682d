import ModemDialog.OperatorLine
import ModemDialog.Proofs.Script.Grammar

/-! Lines of the operator next to lines of scripts. The two are read apart from each other, but
what the operator's line asks for is settled by what it says in a script: only a blank line and
the two words that end a session are the operator's own. -/
namespace ModemDialog

open Script (Directive Keyword)
open Text (headWord firstWord)

variable {raw line text path : Text} {path? : Option Text} {d : Directive}

theorem Script.Keyword.Takes.eq_run {k : Keyword} {arguments : Text}
    (takes : k.Takes arguments (.run path?)) : k = .run := by
  cases takes <;> rfl

theorem Script.Directive.parse_eq_run_iff : parse raw = .run path? ↔
    firstWord raw = Keyword.run.word ∧
      (if (headWord (Text.trim raw)).2.isEmpty then none else some (headWord (Text.trim raw)).2) =
        path? := by
  constructor
  · intro parsed
    have grammar := grammar_iff_parse.mpr ⟨parsed, by simp⟩
    rcases keyword_or_other raw with ⟨k, opens⟩ | other
    · have read := (grammar_iff_of_keyword opens).mp grammar
      obtain rfl := ((ofKeyword_eq_ok_iff (Text.trimmed_trim _)).mp read).eq_run
      exact ⟨opens, Directive.run.inj (Except.ok.inj read)⟩
    · cases (grammar_iff_of_other other).mp grammar
  · rintro ⟨opens, rfl⟩
    exact parse_of_ok opens rfl

namespace OperatorLine

def endWords : List Text := ["exit".toList, "break".toList]

def chain (path? : Option Text) : OperatorLine := path?.elim .resume .runScript

/-- What a line asks for that is neither blank nor the end, by what it says in a script: a
directive other than the one that chains scripts goes to the device as it stands. -/
def ofDirective (line : Text) : Directive → OperatorLine
  | .run path? => chain path?
  | _ => .send line

theorem chain_injective : Function.Injective chain := by
  rintro (_ | p) (_ | q) same
  · rfl
  · cases same
  · cases same
  · exact congrArg some (runScript.inj same)

theorem ofDirective_eq_chain_iff : ofDirective line d = chain path? ↔ d = .run path? := by
  cases d with
  | run other => simp [ofDirective, chain_injective.eq_iff]
  | _ => cases path? <;> simp [ofDirective, chain]

theorem ofDirective_eq_send_iff :
    ofDirective line d = .send text ↔ text = line ∧ ∀ path?, d ≠ .run path? := by
  cases d with
  | run other => cases other <;> simp [ofDirective, chain]
  | _ => simp [ofDirective, eq_comm]

theorem ofDirective_ne_halt : ofDirective line d ≠ .halt := by
  cases d with
  | run other => cases other <;> simp [ofDirective, chain]
  | _ => simp [ofDirective]

theorem mem_endWords_iff : text ∈ endWords ↔ text = "exit".toList ∨ text = "break".toList :=
  List.mem_pair

theorem endWords_solid (ends : text ∈ endWords) : ∀ c ∈ text, Text.isBlank c = false := by
  have solid : endWords.all (·.all (!Text.isBlank ·)) = true := by decide
  simpa using List.all_eq_true.mp (List.all_eq_true.mp solid text ends)

theorem trim_mem_endWords_iff : Text.trim raw ∈ endWords ↔
    firstWord raw ∈ endWords ∧ (headWord (Text.trim raw)).2 = [] := by
  constructor
  · intro ends
    obtain ⟨first, alone⟩ := (Text.trim_eq_word_iff (endWords_solid ends)).mp rfl
    exact ⟨first.symm ▸ ends, alone⟩
  · rintro ⟨ends, alone⟩
    rw [(Text.trim_eq_word_iff (endWords_solid ends)).mpr ⟨rfl, alone⟩]
    exact ends

theorem parse_eq (raw : Text) :
    parse raw =
      if Text.trim raw = [] then .blank
      else if Text.trim raw ∈ endWords then .halt
      else ofDirective (Text.trim raw) (Directive.parse raw) := by
  have ends : ((headWord (Text.trim raw)).1 = "exit".toList ∨
      (headWord (Text.trim raw)).1 = "break".toList) ∧ (headWord (Text.trim raw)).2 = [] ↔
      Text.trim raw ∈ endWords := by
    rw [trim_mem_endWords_iff, mem_endWords_iff, firstWord]
  simp only [parse, List.isEmpty_iff, Bool.and_eq_true, Bool.or_eq_true, decide_eq_true_eq, ends]
  congr 2
  -- Both readers go by the first word, so the one word that chains scripts parts the cases.
  by_cases chains : firstWord raw = Keyword.run.word
  · have parsed := Directive.parse_eq_run_iff.mpr ⟨chains, rfl⟩
    have word : (headWord (Text.trim raw)).1 = "enscom".toList := chains
    rw [if_pos word, parsed]
    split
    · next alone => simp [alone, ofDirective, chain]
    · next named => simp [named, ofDirective, chain]
  · have word : ¬ (headWord (Text.trim raw)).1 = "enscom".toList := chains
    rw [if_neg word, eq_comm, ofDirective_eq_send_iff]
    exact ⟨rfl, fun path? parsed => chains (Directive.parse_eq_run_iff.mp parsed).1⟩

theorem trim_of_run (chains : Directive.parse raw = .run path?) :
    Text.trim raw ≠ [] ∧ Text.trim raw ∉ endWords := by
  have opens := (Directive.parse_eq_run_iff.mp chains).1
  constructor
  · intro blank
    have first := ((Text.trim_eq_word_iff (by simp)).mp blank).1
    exact absurd (opens.symm.trans first) (by decide)
  · intro ends
    have first := (trim_mem_endWords_iff.mp ends).1
    rw [opens] at first
    exact absurd first (by decide)

theorem parse_eq_chain_iff (raw : Text) (path? : Option Text) :
    parse raw = chain path? ↔ Directive.parse raw = .run path? := by
  constructor
  · intro asked
    rw [parse_eq] at asked
    split at asked
    · cases path? <;> cases asked
    split at asked
    · cases path? <;> cases asked
    · exact ofDirective_eq_chain_iff.mp asked
  · intro chains
    obtain ⟨filled, goesOn⟩ := trim_of_run chains
    rw [parse_eq, if_neg filled, if_neg goesOn, chains]
    rfl

theorem parse_eq_send_iff : parse raw = .send text ↔
    text = Text.trim raw ∧ text ≠ [] ∧ text ∉ endWords ∧
      ∀ path?, Directive.parse raw ≠ .run path? := by
  rw [parse_eq]
  constructor
  · intro asked
    split at asked
    · cases asked
    next filled =>
    split at asked
    · cases asked
    next goesOn =>
    obtain ⟨rfl, other⟩ := ofDirective_eq_send_iff.mp asked
    exact ⟨rfl, filled, goesOn, other⟩
  · rintro ⟨rfl, filled, goesOn, other⟩
    rw [if_neg filled, if_neg goesOn, ofDirective_eq_send_iff]
    exact ⟨rfl, other⟩

theorem parse_eq_halt_iff : parse raw = .halt ↔ Text.trim raw ∈ endWords := by
  rw [parse_eq]
  constructor
  · intro asked
    split at asked
    · cases asked
    split at asked
    · assumption
    · exact absurd asked ofDirective_ne_halt
  · intro ends
    have filled : Text.trim raw ≠ [] := by
      intro blank
      rw [blank] at ends
      exact absurd ends (by decide)
    rw [if_neg filled, if_pos ends]

/-- Lines of the operator are read as lines of scripts are. The same lines run another script, by
the same path, or go on with those that wait. The lines that are the same command for the device
in both are those that are not blank, have no keyword as their first word, and are not `exit`
alone, which means nothing in a script. Only `exit` and `break` alone end the session. -/
theorem lines_are_read_as_in_scripts :
    (∀ raw path : Text, parse raw = .runScript path ↔ Directive.parse raw = .run (some path)) ∧
    (∀ raw : Text, parse raw = .resume ↔ Directive.parse raw = .run none) ∧
    (∀ raw text : Text, parse raw = .send text ∧ Directive.parse raw = .command text ↔
      text = Text.trim raw ∧ text ≠ [] ∧ text ≠ "exit".toList ∧
        ∀ k : Keyword, firstWord raw ≠ k.word) ∧
    ∀ raw : Text, parse raw = .halt ↔
      Text.trim raw = "exit".toList ∨ Text.trim raw = "break".toList := by
  refine ⟨fun raw path => parse_eq_chain_iff raw (some path),
    fun raw => parse_eq_chain_iff raw none, ?_, ?_⟩
  · intro raw text
    rw [parse_eq_send_iff, Directive.parse_eq_command_iff]
    constructor
    · rintro ⟨⟨rfl, filled, goesOn, -⟩, -, other⟩
      refine ⟨rfl, filled, fun ends => goesOn ?_, other⟩
      rw [ends]
      decide
    · rintro ⟨rfl, filled, goesOn, other⟩
      have command := Directive.parse_of_other other
      refine ⟨⟨rfl, filled, ?_, by simp [command]⟩, rfl, other⟩
      rw [mem_endWords_iff, not_or]
      refine ⟨goesOn, fun leaves => other .leave ?_⟩
      exact ((Text.trim_eq_word_iff (Keyword.word_solid .leave)).mp leaves).1
  · intro raw
    rw [parse_eq_halt_iff, mem_endWords_iff]

example : parse "\u3000enscom\u2003 a b\t".toList = .runScript "a b".toList := by decide

end OperatorLine
end ModemDialog
