import ModemDialog.Transcript
import ModemDialog.Proofs.Text.Decoding
import ModemDialog.Proofs.Text.Escaping
import ModemDialog.Proofs.Text.Lines

/-! A transcript without time stamps, read back. Each thing sent or received has one line,
whatever its bytes are, and the line tells who it was moved for, in which direction, and what
text was seen in it. -/
namespace ModemDialog

def Origin.ofTag? : Char → Option Origin
  | 'M' => some .operator
  | 'A' => some .script
  | _ => none

def Direction.ofTag? : Char → Option Direction
  | 'O' => some .outward
  | 'I' => some .inward
  | _ => none

theorem Origin.ofTag?_tag (o : Origin) : ofTag? o.tag = some o := by
  cases o <;> rfl

theorem Direction.ofTag?_tag (d : Direction) : ofTag? d.tag = some d := by
  cases d <;> rfl

namespace Transcript

structure Move where
  origin : Origin
  direction : Direction
  data : Bytes

structure Shown where
  origin : Origin
  direction : Direction
  text : Text
  deriving DecidableEq

namespace Move

def entry (m : Move) : Entry := .moved m.origin m.direction m.data

def shown (m : Move) : Shown := ⟨m.origin, m.direction, Utf8.decodeLossy m.data⟩

end Move

def written (moves : List Move) : Text := moves.flatMap fun m => m.entry.line []

def shown? : Text → Option Shown
  | ' ' :: '[' :: o :: d :: ']' :: ' ' :: '\x27' :: field =>
      match Origin.ofTag? o, Direction.ofTag? d, Escaped.field? field with
      | some origin, some direction, some (text, []) => some ⟨origin, direction, text⟩
      | _, _, _ => none
  | _ => none

variable {data : Bytes}

theorem escape_encode (t : Text) : escape (Utf8.encode t) = Escaped.encode t := by
  rw [escape, Utf8.decodeLossy_encode]

theorem not_mem_escape {c : Char} (control : c.toNat < 0x20) : c ∉ escape data := by
  intro mem
  have visible := (Escaped.visible_of_mem_encode mem).1
  omega

theorem line_eq (m : Move) :
    ' ' :: m.entry.body =
      ' ' :: '[' :: m.origin.tag :: m.direction.tag :: ']' :: ' ' :: '\x27' ::
        (escape m.data ++ ['\x27']) := by
  simp [Move.entry, Entry.body]

theorem unbroken_line (m : Move) : '\n' ∉ ' ' :: m.entry.body := by
  have field : '\n' ∉ escape m.data := not_mem_escape (by decide)
  have origin : '\n' ≠ m.origin.tag := by cases m.origin <;> decide
  have direction : '\n' ≠ m.direction.tag := by cases m.direction <;> decide
  rw [line_eq]
  simp [field, origin, direction]

theorem getLast?_line (m : Move) : (' ' :: m.entry.body).getLast? = some '\x27' := by
  rw [line_eq]
  simp only [← List.cons_append, List.getLast?_concat]

theorem written_cons (m : Move) (moves : List Move) :
    written (m :: moves) = (' ' :: m.entry.body) ++ '\n' :: written moves := by
  simp [written, Entry.line]

theorem lines_written (moves : List Move) :
    Text.lines (written moves) = moves.map fun m => ' ' :: m.entry.body := by
  induction moves with
  | nil => rfl
  | cons m moves ih =>
      rw [written_cons, Text.lines_append_feed (unbroken_line m), ih, List.map_cons]
      rw [getLast?_line]
      decide

theorem count_feed_written (moves : List Move) : (written moves).count '\n' = moves.length := by
  induction moves with
  | nil => rfl
  | cons m moves ih =>
      rw [written_cons, List.count_append, List.count_eq_zero.mpr (unbroken_line m),
        List.count_cons_self, ih, List.length_cons, Nat.zero_add]

theorem shown?_line (m : Move) : shown? (' ' :: m.entry.body) = some m.shown := by
  have field := Escaped.field?_encode (Utf8.decodeLossy m.data) []
  rw [line_eq, escape]
  simp only [shown?, Origin.ofTag?_tag, Direction.ofTag?_tag, field]
  rfl

theorem map_shown?_lines (moves : List Move) :
    (Text.lines (written moves)).map shown? = moves.map fun m => some m.shown := by
  rw [lines_written, List.map_map]
  apply List.map_congr_left
  intro m _
  exact shown?_line m

theorem shown_eq_of_written_eq {moves moves' : List Move} (same : written moves' = written moves) :
    moves'.map Move.shown = moves.map Move.shown := by
  have read := map_shown?_lines moves
  rw [← same, map_shown?_lines] at read
  apply List.map_injective_iff.mpr fun _ _ same => Option.some.inj same
  rw [List.map_map, List.map_map]
  exact read

/-- The transcript of any moves has one line for each of them, and from that line its origin, its
direction and the text decoded from its bytes are read back; so the bytes of the transcript tell
apart any two runs of moves that differ in one of these. Escaped data holds no control character,
and no quote but behind a backslash that stands there for this quote alone. -/
theorem transcript_reads_back (moves : List Move) :
    (Text.lines (written moves)).length = moves.length ∧
    (written moves).count '\n' = moves.length ∧
    (Text.lines (written moves)).map shown? = moves.map (fun m => some m.shown) ∧
    (∀ moves', Utf8.encode (written moves') = Utf8.encode (written moves) →
      moves'.map Move.shown = moves.map Move.shown) ∧
    (Function.Injective fun t => escape (Utf8.encode t)) ∧
    ∀ data,
      (∀ c ∈ escape data, 0x20 ≤ c.toNat ∧ c.toNat ≠ 0x7F) ∧
      ∀ front back, escape data = front ++ '\x27' :: back →
        ∃ t₁ t₂, Utf8.decodeLossy data = t₁ ++ '\x27' :: t₂ ∧
          front = Escaped.encode t₁ ++ ['\\'] ∧ back = Escaped.encode t₂ := by
  refine ⟨?_, count_feed_written moves, map_shown?_lines moves, ?_, ?_, ?_⟩
  · rw [lines_written, List.length_map]
  · intro moves' same
    exact shown_eq_of_written_eq (Utf8.encode_injective same)
  · intro s t same
    simp only [escape_encode] at same
    exact Escaped.encode_injective same
  · intro data
    constructor
    · intro c mem
      exact Escaped.visible_of_mem_encode mem
    · intro front back split
      exact Escaped.split_encode_at_quote split

/-- Data that looks like the end of a field and a new line stays within its own. -/
example :
    let forged : Move := ⟨.operator, .inward, Utf8.encode "OK'\n [AO] 'AT\\'".toList⟩
    written [forged] = " [MI] 'OK\\'\\n [AO] \\'AT\\\\\\''\n".toList ∧
      (Text.lines (written [forged])).map shown? = [some forged.shown] := by
  decide +kernel

end Transcript
end ModemDialog
