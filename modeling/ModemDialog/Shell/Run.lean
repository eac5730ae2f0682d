import ModemDialog.Shell.Scope
import ModemDialog.Shell.Utility

/-! Running commands. The shell serves only the command line. -/
namespace ModemDialog.Shell
namespace Run

inductive Task where
  | expand (w : Word)
  | command (c : Command)
  | words (ws : List Word)
  | source (t : Text)
  | arms (subject : Text) (arms : Command)
  | invoke (words : List Text)

structure Outcome where
  status : Nat
  segments : List Segment
  fields : List Text

def done (status : Nat) : Outcome := ⟨status, [], []⟩

def exec : (fuel : Nat) → Task → Run Outcome
  | 0, _ => throw .spent
  | _ + 1, .expand [] => return ⟨0, [], []⟩
  | fuel + 1, .expand (p :: rest) => do
      let here : List Segment ← match p with
        | .bare t => pure [(⟨t, false⟩ : Segment)]
        | .quoted t => pure [⟨t, true⟩]
        | .arithmetic inner _ => do
            let t := textOf (← exec fuel (.expand (Word.ofText inner))).segments
            match Arithmetic.value? (numbers (← get)) t with
            | none =>
                complainOf "arithmetic expression".toList ("expecting primary: ".toList ++ t)
                modify fun s => { s with status := 2 }
                throw .exited
            | some (v, store) =>
                for (name, value) in (store.take (store.length - (← get).bindings.length)).reverse do
                  assign name (Arithmetic.display value)
                pure [⟨Arithmetic.display v, true⟩]
        | .command inner quoted => do
            let before := (← get).kept
            let _ ← withChannels (fun s => { s with stdout := .kept, kept := [] })
              (inSubshell do return (← exec fuel (.source inner)).status)
            let out := ((← get).kept.dropWhile (· = '\n')).reverse
            modify fun s => { s with kept := before }
            pure [⟨out, quoted⟩]
        | .parameter inner quoted => do
            if inner.head? = some '#' && 1 < inner.length then
              let value := (← parameter? inner.tail).getD []
              pure [⟨Text.ofNat value.length, true⟩]
            else
              let name := nameOf inner
              let value ← parameter? name
              match Lexer.starting operators (inner.drop name.length) with
              | none => pure [⟨value.getD [], quoted⟩]
              | some (op, other) =>
                  let segments := (← exec fuel (.expand (Word.ofText other))).segments
                  let pattern := patternOf (segments.map fun s => { s with fixed := false })
                  let result := operated value op (textOf segments) pattern
                  if op.getLast? = some '=' then assign name (result.getD [])
                  pure [⟨result.getD [], quoted⟩]
      let more ← exec fuel (.expand rest)
      return ⟨0, here ++ more.segments, []⟩
  | _ + 1, .words [] => return ⟨0, [], []⟩
  | fuel + 1, .words (w :: ws) => do
      let here ← match w with
        | [.quoted [], .parameter ['@'] true, .quoted []] => pure (← get).parameters
        | w =>
            let segments := (← exec fuel (.expand w)).segments
            let fixed := w.all fun p => match p with
              | .bare _ => true
              | .quoted _ => true
              | _ => false
            if fixed then pure [textOf segments]
            else
              let literal := w.zip segments |>.map fun (p, s) => match p with
                | .bare _ => { s with fixed := true }
                | _ => s
              pure (fieldsOf (← separators) literal [] false)
      let more ← exec fuel (.words ws)
      return ⟨0, [], here ++ more.fields⟩
  | fuel + 1, .source t =>
      match Command.ofText t with
      | none => do
          let what := if (Token.ofText t).isNone then ": Unterminated quoted string" else ""
          complain ((← get).name ++ ": 1: Syntax error".toList ++ what.toList ++ ['\n'])
          return done (← record 2)
      | some c => exec fuel (.command c)
  | _ + 1, .arms _ .nothing => return done 0
  | fuel + 1, .arms subject (.arm patterns body next) => do
      let mut fits := false
      for p in patterns do
        unless fits do
          let segments := (← exec fuel (.expand p)).segments
          fits := Pattern.matches? (patternOf segments) subject
      if fits then exec fuel (.command body) else exec fuel (.arms subject next)
  | _ + 1, .arms _ _ => return done 0
  | _ + 1, .invoke [] => return done 0
  | fuel + 1, .invoke (name :: words) => do
      match (← get).functions.find? (·.1 = name) with
      | some (_, body) =>
          let before := (← get).parameters
          modify fun s => { s with parameters := words }
          let status : Nat ← tryCatch (do return (← exec fuel (.command body)).status) fun stop =>
            match stop with
            | .returned => do return (← get).status
            | stop => throw stop
          modify fun s => { s with parameters := before }
          return done status
      | none =>
          match String.ofList name with
          | "eval" => exec fuel (.source (Text.join [' '] words))
          | "exec" =>
              closeIfUnused
              if words.isEmpty then return done 0
              else
                let status := (← exec fuel (.invoke words)).status
                discard (record status)
                throw .exited
          | "command" => exec fuel (.invoke words)
          | "sh" | "dash" | "bash" | "/bin/sh" =>
              match words with
              | ['-', 'c'] :: source :: more => do
                  let status ← inSubshell do
                    let before := (← get).name
                    modify fun s => { s with name := more.headD name, parameters := more.tail }
                    let status : Nat ← tryCatch (do return (← exec fuel (.source source)).status)
                      fun stop => do
                        modify fun s => { s with name := before }
                        throw stop
                    modify fun s => { s with name := before }
                    return status
                  return done status
              | _ => return done 0
          | _ =>
              match builtin? name words with
              | some run => return done (← run)
              | none =>
                  match program? name words with
                  | some run => return done (← run)
                  | none =>
                      complainOf name "not found".toList
                      return done 127
  | fuel + 1, .command c => do
      let status ← match c with
        | .nothing => do pure (← get).status
        | .simple assignments words redirections => do
            let fields := (← exec fuel (.words words)).fields
            let mut values := []
            for (name, w) in assignments do
              values := values ++ [(name, textOf (← exec fuel (.expand w)).segments)]
            let mut targets := []
            for r in redirections do
              targets := targets ++
                [(r.channel, r.arrow, textOf (← exec fuel (.expand r.target)).segments)]
            let arrange : Run Unit := do
              for (channel, arrow, target) in targets do redirect channel arrow target
            if fields.isEmpty then
              for (name, value) in values do assign name value
              let status := (← get).status
              let asked := assignments.any fun (_, w) => w.any fun p => match p with
                | .command .. => true
                | _ => false
              pure (if asked then status else 0)
            else if fields.head? = some "exec".toList then
              arrange
              pure (← exec fuel (.invoke fields)).status
            else
              withChannels id do
                arrange
                let before := (← get).bindings
                for (name, value) in values do assign name value
                let status := (← exec fuel (.invoke fields)).status
                for (name, _) in values do
                  modify fun s =>
                    { s with
                      bindings := before.filter (·.1 = name) ++ s.bindings.filter (·.1 ≠ name) }
                return status
        | .redirected body redirections =>
            withChannels id do
              for r in redirections do
                redirect r.channel r.arrow (textOf (← exec fuel (.expand r.target)).segments)
              return (← exec fuel (.command body)).status
        | .sequence first second => do
            discard (exec fuel (.command first))
            pure (← exec fuel (.command second)).status
        | .background body => do
            let time := (← get).clock
            discard (withChannels (fun s => { s with stdin := .nowhere })
              (inSubshell do return (← exec fuel (.command body)).status))
            modify fun s => { s with clock := time }
            pure 0
        | .both first second => do
            let status := (← exec fuel (.command first)).status
            if status = 0 then pure (← exec fuel (.command second)).status else pure status
        | .either first second => do
            let status := (← exec fuel (.command first)).status
            if status = 0 then pure 0 else pure (← exec fuel (.command second)).status
        | .negated body => do
            pure (truthOf ((← exec fuel (.command body)).status ≠ 0))
        | .pipe left right => do
            let before := (← get).kept
            discard (withChannels (fun s => { s with stdout := .kept, kept := [] })
              (inSubshell do return (← exec fuel (.command left)).status))
            let out := (← get).kept.reverse
            modify fun s => { s with kept := before }
            withChannels (fun s => { s with stdin := .given, input := out })
              (inSubshell do return (← exec fuel (.command right)).status)
        | .choose condition yes no => do
            let status := (← exec fuel (.command condition)).status
            if status = 0 then pure (← exec fuel (.command yes)).status
            else match no with
              | .nothing => pure 0
              | no => pure (← exec fuel (.command no)).status
        | .cycle wanted condition body => do
            let status := (← exec fuel (.command condition)).status
            if (status = 0) ≠ wanted then pure 0
            else
              let stop : Option Stop ← tryCatch (do
                discard (exec fuel (.command body))
                return none) fun stop => return some stop
              match stop with
              | some (.left 0) => pure 0
              | some (.left (n + 1)) => throw (.left n)
              | some (.again (n + 1)) => throw (.again n)
              | some (.again 0) => pure (← exec fuel (.command c)).status
              | none => pure (← exec fuel (.command c)).status
              | some stop => throw stop
        | .each name words body => do
            let fields ← match words with
              | some ws => pure (← exec fuel (.words ws)).fields
              | none => pure (← get).parameters
            let mut ended : Option Stop := none
            for value in fields do
              if ended.isNone then
                assign name value
                ended ← tryCatch (do
                  discard (exec fuel (.command body))
                  return none) fun stop => match stop with
                    | .again 0 => return none
                    | stop => return some stop
            match ended with
            | none => pure (← get).status
            | some (.left 0) => pure 0
            | some (.left (n + 1)) => throw (.left n)
            | some (.again (n + 1)) => throw (.again n)
            | some stop => throw stop
        | .select subject arms => do
            let t := textOf (← exec fuel (.expand subject)).segments
            pure (← exec fuel (.arms t arms)).status
        | .arm .. => pure 0
        | .subshell body =>
            inSubshell do return (← exec fuel (.command body)).status
        | .define name body => do
            modify fun s => { s with functions := (name, body) :: s.functions }
            pure 0
      return done (← record status)

end Run
end ModemDialog.Shell
