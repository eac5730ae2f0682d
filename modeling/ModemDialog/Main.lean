import ModemDialog.CommandLine.Run

/-! The program. A session with a device runs on its terminal line in real time; the modes
of that line have to be set before, raw and so that a read ends after a tenth of a second
of silence. What is decided is decided by the library; here things are read, written and
waited for. -/
namespace ModemDialog.Main

open CommandLine

structure Live where
  line : IO.FS.Handle
  arrivals : IO.Ref (List Arrival)
  log : Option IO.FS.Handle
  verbose : Bool
  begun : Nat

def bytesOf (data : ByteArray) : Bytes := data.toList

def arrayOf (data : Bytes) : ByteArray := ⟨data.toArray⟩

def Live.now (l : Live) : IO Nat := return (← IO.monoMsNow) - l.begun

def stamp (t : Nat) : Text := Duration.padded 15 t

def fetch (files : FileTree) (path : Text) : IO FileTree := do
  let node? : Option Node ← try
      pure (some (.file (bytesOf (← IO.FS.readBinFile (String.ofList path)))))
    catch e => pure (if e matches .inappropriateType .. then some .directory else none)
  match node? with
  | some node => return files.plant path node
  | none => return files

def openLine (path : Text) : IO (Option (IO.FS.Handle × IO.FS.Handle)) := do
  try
    let reader ← IO.FS.Handle.mk (String.ofList path) .read
    let writer ← IO.FS.Handle.mk (String.ofList path) .readWrite
    return if ← reader.isTty then some (reader, writer) else none
  catch _ => return none

partial def listen (line : IO.FS.Handle) (arrivals : IO.Ref (List Arrival))
    (wanted : IO.Ref Bool) : IO Unit := do
  if ← wanted.get then
    let chunk ← try pure (some (← line.read 4096)) catch _ => pure none
    match chunk with
    | some data =>
        unless data.isEmpty do arrivals.modify (.data (bytesOf data) :: ·)
        listen line arrivals wanted
    | none => arrivals.modify (.lost SerialLine.hungUp :: ·)

namespace Live

def showEvent (l : Live) : Nat × Event → IO Unit
  | (_, .printed data) => do
      let out ← IO.getStdout
      out.write (arrayOf data)
      out.flush
  | (t, .recorded entry) => do
      if let some log := l.log then
        log.putStr (String.ofList (entry.line (stamp t)))
        log.flush
  | (_, .noticed n) => do
      if l.verbose || n.level ≠ .debug then
        IO.eprintln (String.ofList (n.level.name ++ ' ' :: n.message))
  | _ => return ()

def flush (l : Live) (b : Bench) : IO Bench := do
  for e in b.trace.reverse do l.showEvent e
  return { b with trace := [] }

def pull (l : Live) (b : Bench) : IO Bench := do
  let arrivals ← l.arrivals.modifyGet fun a => (a.reverse, [])
  l.flush (arrivals.foldl Bench.arrive (b.setClock (← l.now)))

def sleep (d : Duration) : IO Unit := IO.sleep d.ceilMillis.toUInt32

partial def await (l : Live) (b : Bench) (origin : Origin) (timeout : Duration) (x : Exchange) :
    IO (Bench × Response) := do
  let b ← l.pull b
  match x.check b.sentries b.inbox b.alive with
  | .answered taken rest =>
      let (b, response) := { b with inbox := rest }.deliver origin x.command taken
      return (← l.flush b, response)
  | .stopped => return (← l.flush (b.notice (.abandoned x.command)), .missing)
  | .expired => return (← l.flush (b.expire x.command timeout), .missing)
  | .wait next => do
      sleep b.poll
      await l b origin timeout next

def send (l : Live) (b : Bench) (origin : Origin) (command : Text) (timeout : Duration) :
    IO (Bench × Except SendFault Response) := do
  let b ← l.pull b
  let b := b.notice (.sending origin command)
  let mark := b.inbox.data.length
  let b ← l.flush (b.record (.moved origin .outward (wire command)))
  let failure? : Option Text ← try
      l.line.write (arrayOf (wire command))
      l.line.flush
      pure none
    catch e => pure (some (toString e).toList)
  match failure? with
  | some cause => return (b, .error ⟨command, cause⟩)
  | none =>
      let budget := patience timeout b.poll
      let (b, r) ← l.await b origin timeout ⟨command, mark, budget, budget, b.inbox.received⟩
      return (b, .ok r)

partial def pause (l : Live) (b : Bench) (wake : Option Nat) : IO Bench := do
  let b ← l.pull b
  if !b.alive || wake.any (· ≤ b.clock) then return b
  IO.sleep 10
  pause l b wake

def hear : IO (Option Text) := do
  let line ← (← IO.getStdin).getLine
  return if line.isEmpty then none
    else match Text.lines line.toList with
      | t :: _ => some t
      | [] => some []

def serve (l : Live) (e : Engine) : Dialogue.Request → IO (Engine × Option Engine.Ending)
  | .checkLink => do
      let (bench, r) ← l.send e.bench .script e.linkCheck.command e.timeout
      let e := { e with bench }
      match r with
      | .error fault => return (e, some (.error (.link (.send fault))))
      | .ok response =>
          match e.linkCheck.judge response with
          | .error fault => return (e, some (.error (.link fault)))
          | .ok () =>
              let (dialogue, notices) := e.dialogue.link
              let bench := bench.notices (.linkAnswered e.linkCheck.command :: notices)
              return ({ e with dialogue, bench }, none)
  | .script (.send command) => do
      let (bench, r) ← l.send e.bench .script command e.timeout
      match r with
      | .ok _ => return ({ e with bench }, none)
      | .error fault => return ({ e with bench }, some (.error (.send fault)))
  | .script (.pause d) => do
      return ({ e with bench := ← l.pause e.bench (some (e.bench.clock + d.ceilMillis)) }, none)
  | .script .hold => do return ({ e with bench := ← l.pause e.bench none }, none)
  | .script (.load path script line) => do
      let e := { e with files := ← fetch e.files path }
      return e.serve (.script (.load path script line))
  | .ask => do
      let line? : Except Text (Option Text) ← try pure (.ok (← hear))
        catch e => pure (.error (toString e).toList)
      let bench ← l.pull e.bench
      match line? with
      | .error cause => return ({ e with bench }, some (.error (.operator cause)))
      | .ok line =>
          let (dialogue, notices, deed) := e.dialogue.hear (if bench.alive then line else none)
          let e := { e with bench := bench.notices notices, dialogue }
          match deed with
          | .send command => do
              let (bench, r) ← l.send e.bench .operator command e.timeout
              match r with
              | .ok _ => return ({ e with bench }, none)
              | .error fault => return ({ e with bench }, some (.error (.send fault)))
          | .load path => do
              let e := { e with files := ← fetch e.files path }
              return e.act (.load path)
          | deed => return e.act deed
  | request => return e.serve request

partial def run (l : Live) (e : Engine) : IO (Engine × Engine.Ending) := do
  let bench ← l.pull e.bench
  let (dialogue, notices, request) := e.dialogue.next bench.alive
  let (e, ending?) ← l.serve { e with dialogue, bench := bench.notices notices } request
  let e := { e with bench := ← l.flush e.bench }
  match ending? with
  | some ending => return (e, ending)
  | none => run l e

end Live

def present (r : Report) : IO UInt32 := do
  (← IO.getStdout).write (arrayOf r.output)
  unless r.complaint.isEmpty do IO.eprintln (String.ofList r.complaint)
  return UInt32.ofNat r.code

def runProgram (arguments : List Text) (files : FileTree) : IO UInt32 := do
  let input ← (← IO.getStdin).readToEnd
  let world : World := ⟨files, fun _ _ => .silence, Utf8.encode input.toList, false, stamp⟩
  match run 1000000 world arguments with
  | none => return 1
  | some r => do
      match Arguments.parse arguments with
      | .ok a =>
          if a.log then
            if let .ok (.file data) := r.files.find a.logFile then
              IO.FS.writeBinFile (String.ofList a.logFile) (arrayOf data)
      | .error _ => pure ()
      present r

def runDevice (p : Prepared) (a : Arguments) (reader writer : IO.FS.Handle) : IO UInt32 := do
  let arrivals ← IO.mkRef []
  let wanted ← IO.mkRef true
  let log ← if a.log then some <$> IO.FS.Handle.mk (String.ofList a.logFile) .write else pure none
  let task ← IO.asTask (listen reader arrivals wanted) Task.Priority.dedicated
  let live : Live := ⟨writer, arrivals, log, a.verbose, ← IO.monoMsNow⟩
  let (e, ending) ← live.run p.engine
  wanted.set false
  discard (IO.wait task)
  let r := p.report stamp e ending
  unless r.complaint.isEmpty do IO.eprintln (String.ofList r.complaint)
  return UInt32.ofNat r.code

def start (arguments : List Text) : IO UInt32 := do
  match Arguments.parse arguments with
  | .error halt => present (.ofHalt .bare halt)
  | .ok a =>
      let paths := a.config.toList ++ a.script.toList ++ (if a.log then [a.logFile] else [])
      let files ← paths.foldlM fetch .bare
      match a.device with
      | none => runProgram arguments files
      | some device => do
          let line? ← openLine device
          let files ← match line? with
            | some _ => pure (files.plant device .terminal)
            | none => fetch files device
          let world : World := ⟨files, fun _ _ => .silence, [], false, stamp⟩
          match prepare world arguments, line? with
          | .error r, _ => present r
          | .ok _, none => return 1
          | .ok p, some (reader, writer) => runDevice p a reader writer

end ModemDialog.Main

def main (arguments : List String) : IO UInt32 :=
  ModemDialog.Main.start (arguments.map String.toList)
