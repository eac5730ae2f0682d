import ModemDialog.Shell.Word

/-! Shell commands and their grammar. The shell serves only the command line. -/
namespace ModemDialog.Shell

structure Redirection where
  channel : Option Nat
  arrow : Text
  target : Word
  deriving DecidableEq, Repr

inductive Command where
  | nothing
  | simple (assignments : List (Text × Word)) (words : List Word)
      (redirections : List Redirection)
  | redirected (body : Command) (redirections : List Redirection)
  | sequence (first second : Command)
  | background (body : Command)
  | both (first second : Command)
  | either (first second : Command)
  | negated (body : Command)
  | pipe (left right : Command)
  | choose (condition yes no : Command)
  /-- Run the body while the condition has the status wanted. -/
  | cycle (wanted : Bool) (condition body : Command)
  /-- Run the body for each word, or for each parameter. -/
  | each (name : Text) (words : Option (List Word)) (body : Command)
  /-- Run the first arm with a pattern for the subject. -/
  | select (subject : Word) (arms : Command)
  | arm (patterns : List Word) (body next : Command)
  | subshell (body : Command)
  | define (name : Text) (body : Command)
  deriving Repr, Inhabited

namespace Command

abbrev Parsed := Option (Command × List Token)

def keywords : List Text :=
  ["if", "then", "else", "elif", "fi", "while", "until", "do", "done", "for", "case", "esac",
    "!", "\x7b", "\x7d"].map String.toList

def keyword? : List Token → Option Text
  | .word [.bare t] :: _ => if keywords.any (· = t) then some t else none
  | _ => none

def expect (k : Text) (tokens : List Token) : Option (List Token) :=
  if keyword? tokens = some k then some tokens.tail else none

def skipLines (tokens : List Token) : List Token := tokens.dropWhile (· = .newline)

def assignment? : Word → Option (Text × Word)
  | .bare t :: more =>
      match Text.cut? '=' t with
      | some (name, value) =>
          if name.head?.any Lexer.isNameStart && name.all Lexer.isName then
            some (name, if value.isEmpty then more else .bare value :: more)
          else none
      | none => none
  | _ => none

def redirections : List Token → List Redirection × List Token
  | .arrow channel arrow :: .word target :: rest =>
      let (more, rest) := redirections rest
      (⟨channel, arrow, target⟩ :: more, rest)
  | tokens => ([], tokens)

def simpleTail (assignments : List (Text × Word)) (words : List Word) (rs : List Redirection) :
    List Token → Command × List Token
  | .arrow channel arrow :: .word target :: rest =>
      simpleTail assignments words (rs ++ [⟨channel, arrow, target⟩]) rest
  | .word w :: rest =>
      match if words.isEmpty then assignment? w else none with
      | some a => simpleTail (assignments ++ [a]) words rs rest
      | none => simpleTail assignments (words ++ [w]) rs rest
  | tokens => (.simple assignments words rs, tokens)

def patterns : List Token → Option (List Word × List Token)
  | .word w :: .sign [')'] :: rest => some ([w], rest)
  | .word w :: .sign ['|'] :: rest => (patterns rest).map fun (ws, rest) => (w :: ws, rest)
  | _ => none

def eachWords : List Token → List Word × List Token
  | .word w :: rest =>
      let (ws, rest) := eachWords rest
      (w :: ws, rest)
  | tokens => ([], tokens)

def skipEnd : List Token → List Token
  | .sign [';'] :: rest => skipLines rest
  | tokens => skipLines tokens

inductive Part where
  | list
  | chain
  | pipeline
  | single
  | alternatives
  | arms
  deriving DecidableEq

def closers : List Text :=
  ["then", "else", "elif", "fi", "do", "done", "esac", "\x7d"].map String.toList

def atEnd : List Token → Bool
  | [] => true
  | .sign t :: _ => t = [')'] || t = [';', ';']
  | tokens => (keyword? tokens).any fun k => closers.any (· = k)

def joined (first second : Command) : Command :=
  match second with
  | .nothing => first
  | _ => .sequence first second

def parse : (fuel : Nat) → Part → List Token → Parsed
  | 0, _, _ => none
  | fuel + 1, .list, tokens =>
      let tokens := skipLines tokens
      if atEnd tokens then some (.nothing, tokens)
      else do
        let (first, rest) ← parse fuel .chain tokens
        match rest with
        | .sign [';'] :: rest =>
            let (more, rest) ← parse fuel .list rest
            some (joined first more, rest)
        | .newline :: rest =>
            let (more, rest) ← parse fuel .list rest
            some (joined first more, rest)
        | .sign ['&'] :: rest =>
            let (more, rest) ← parse fuel .list rest
            some (joined (.background first) more, rest)
        | rest => if atEnd rest then some (first, rest) else none
  | fuel + 1, .chain, tokens => do
      let (first, rest) ← parse fuel .pipeline tokens
      chainTail fuel first rest
  | fuel + 1, .pipeline, tokens =>
      match expect ['!'] tokens with
      | some tokens => do
          let (c, rest) ← parse fuel .pipeline tokens
          some (.negated c, rest)
      | none => do
          let (first, rest) ← parse fuel .single tokens
          match rest with
          | .sign ['|'] :: rest => do
              let (second, rest) ← parse fuel .pipeline (skipLines rest)
              some (.pipe first second, rest)
          | rest => some (first, rest)
  | fuel + 1, .alternatives, tokens => do
      let (condition, rest) ← parse fuel .list tokens
      let rest ← expect "then".toList rest
      let (yes, rest) ← parse fuel .list rest
      if let some rest := expect "elif".toList rest then
        let (no, rest) ← parse fuel .alternatives rest
        some (.choose condition yes no, rest)
      else if let some rest := expect "else".toList rest then
        let (no, rest) ← parse fuel .list rest
        some (.choose condition yes no, ← expect "fi".toList rest)
      else some (.choose condition yes .nothing, ← expect "fi".toList rest)
  | fuel + 1, .arms, tokens =>
      let tokens := skipLines tokens
      match expect "esac".toList tokens with
      | some rest => some (.nothing, rest)
      | none => do
          let (ps, rest) ← patterns (if tokens.head? = some (.sign ['(']) then tokens.tail else tokens)
          let (body, rest) ← parse fuel .list rest
          match rest with
          | .sign [';', ';'] :: rest =>
              let (next, rest) ← parse fuel .arms rest
              some (.arm ps body next, rest)
          | rest => some (.arm ps body .nothing, ← expect "esac".toList rest)
  | fuel + 1, .single, tokens =>
      let finish (c : Command) (rest : List Token) : Parsed :=
        match redirections rest with
        | ([], rest) => some (c, rest)
        | (rs, rest) => some (.redirected c rs, rest)
      match tokens with
      | .sign ['('] :: rest => do
          let (body, rest) ← parse fuel .list rest
          match rest with
          | .sign [')'] :: rest => finish (.subshell body) rest
          | _ => none
      | .word [.bare name] :: .sign ['('] :: .sign [')'] :: rest => do
          let (body, rest) ← parse fuel .single (skipLines rest)
          some (.define name body, rest)
      | .word _ :: _ =>
          match keyword? tokens with
          | none => some (simpleTail [] [] [] tokens)
          | some k =>
              let rest := tokens.tail
              if k = "if".toList then do
                let (c, rest) ← parse fuel .alternatives rest
                finish c rest
              else if k = "while".toList || k = "until".toList then do
                let (condition, rest) ← parse fuel .list rest
                let (body, rest) ← parse fuel .list (← expect "do".toList rest)
                finish (.cycle (k = "while".toList) condition body)
                  (← expect "done".toList rest)
              else if k = "for".toList then
                match rest with
                | .word [.bare name] :: rest => do
                    let rest := skipLines rest
                    let (ws, rest) := match rest with
                      | .word [.bare ['i', 'n']] :: rest =>
                          let (ws, rest) := eachWords rest
                          (some ws, rest)
                      | rest => (none, rest)
                    let (body, rest) ← parse fuel .list (← expect "do".toList (skipEnd rest))
                    finish (.each name ws body) (← expect "done".toList rest)
                | _ => none
              else if k = "case".toList then
                match rest with
                | .word subject :: rest =>
                    match skipLines rest with
                    | .word [.bare ['i', 'n']] :: rest => do
                        let (arms, rest) ← parse fuel .arms rest
                        finish (.select subject arms) rest
                    | _ => none
                | _ => none
              else if k = ['\x7b'] then do
                let (body, rest) ← parse fuel .list rest
                finish body (← expect ['\x7d'] rest)
              else none
      | .arrow _ _ :: _ => some (simpleTail [] [] [] tokens)
      | _ => none
where
  /-- Pipelines joined by success or failure, from the left. -/
  chainTail (fuel : Nat) (first : Command) : List Token → Parsed
    | .sign ['&', '&'] :: rest =>
        match fuel with
        | 0 => none
        | fuel + 1 => do
            let (second, rest) ← parse fuel .pipeline (skipLines rest)
            chainTail fuel (.both first second) rest
    | .sign ['|', '|'] :: rest =>
        match fuel with
        | 0 => none
        | fuel + 1 => do
            let (second, rest) ← parse fuel .pipeline (skipLines rest)
            chainTail fuel (.either first second) rest
    | rest => some (first, rest)

def ofText (t : Text) : Option Command := do
  let tokens ← Token.ofText t
  let (c, rest) ← parse (4 * tokens.length + 8) .list tokens
  if rest.isEmpty then some c else none

end Command
end ModemDialog.Shell
