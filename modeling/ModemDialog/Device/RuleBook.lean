import ModemDialog.Device

/-! A device that answers by a list of replies, then by rules on the command. -/
namespace ModemDialog

structure Answer where
  echo : Bool
  stops : Bool
  fails : Option Text
  data : Bytes
  loses : Option Text
  later : List (Nat × Arrival)
  deriving DecidableEq, Repr

namespace Answer

def ofData (data : Bytes) : Answer := ⟨true, false, none, data, none, []⟩

def reply (a : Answer) (written : Bytes) : Reply where
  stops := a.stops
  fails := a.fails
  data := (if a.echo then written else []) ++ a.data
  loses := a.loses
  later := a.later

end Answer

structure Rule where
  command : Bytes
  answers : List Answer
  deriving DecidableEq, Repr

/-- The first answers in order, then the first rule for the command, then a
default. After `limit` writes the session is stopped before an answer. -/
structure RuleBook where
  queue : List Answer
  rules : List Rule
  fallback : Answer
  limit : Nat
  deriving DecidableEq, Repr

namespace RuleBook

def command (data : Bytes) : Bytes := ([0x0D].isSuffixOf? data).getD data

def rule? (book : RuleBook) (data : Bytes) : Option Rule :=
  book.rules.find? (·.command = command data)

def uses (book : RuleBook) (earlier : List Write) (data : Bytes) : Nat :=
  ((earlier.reverse.drop book.queue.length).filter fun w => command w.data = command data).length

def answer (book : RuleBook) (earlier : List Write) (data : Bytes) : Answer :=
  match book.queue[earlier.length]? with
  | some a => a
  | none =>
      match book.rule? data with
      | none => book.fallback
      | some r =>
          (r.answers[min (book.uses earlier data) (r.answers.length - 1)]?).getD book.fallback

def device (book : RuleBook) : Device := fun earlier w =>
  let reply := (book.answer earlier w.data).reply w.data
  if book.limit ≤ earlier.length then { reply with stops := true } else reply

def lines : Bytes → List Bytes
  | [] => []
  | b :: rest =>
      if b = 0x0D then [b] :: lines rest
      else match lines rest with
        | [] => []
        | line :: more => (b :: line) :: more

/-- A device that answers line by line instead of write by write. -/
def lineDevice (book : RuleBook) : Device := fun earlier w =>
  let before := earlier.flatMap fun e => ((lines e.data).map (⟨e.time, ·⟩)).reverse
  let (_, reply) := (lines w.data).foldl (fun (before, (reply : Reply)) line =>
    let one := book.device before ⟨w.time, line⟩
    (⟨w.time, line⟩ :: before,
      { reply with
        data := reply.data ++ one.data
        loses := reply.loses.or one.loses
        later := reply.later ++ one.later })) (before, Reply.silence)
  reply

end RuleBook
end ModemDialog
