import ModemDialog.Main
import ModemDialog.Reader
import ModemDialog.Device.RuleBook
import ModemDialog.Proofs.Framing.Growth
import ModemDialog.Proofs.Framing.Closing
import ModemDialog.Proofs.Framing.Appending
import ModemDialog.Proofs.Framing.Prepending
import ModemDialog.Proofs.Text.Decoding
import ModemDialog.Proofs.Text.Lines
import ModemDialog.Proofs.Session.History
import ModemDialog.Proofs.Session.Waiting
import ModemDialog.Proofs.Session.Sending
import ModemDialog.Proofs.Session.Accounting
import ModemDialog.Proofs.Session.Delivery
import ModemDialog.Proofs.Session.LateReply
import ModemDialog.Proofs.Script.Block
import ModemDialog.Proofs.Script.Meaning
import ModemDialog.Proofs.Session.Calm
import ModemDialog.Proofs.Session.Written
import ModemDialog.Proofs.Script.Rerun
import ModemDialog.Proofs.Script.Agreement
import ModemDialog.Proofs.Session.Attribution
import ModemDialog.Proofs.Session.Timeline
import ModemDialog.Proofs.Advance
import ModemDialog.Proofs.Script.Stack
import ModemDialog.Proofs.Script.Serving
import ModemDialog.Proofs.Engine.Turns
import ModemDialog.Proofs.Engine.Chaining
import ModemDialog.Proofs.Engine.Shutdown
import ModemDialog.Proofs.Session.Blind
import ModemDialog.Proofs.Session.Settling
import ModemDialog.Proofs.Session.Interruption
import ModemDialog.Proofs.Session.Parting
import ModemDialog.Proofs.Script.Truncation
import ModemDialog.Proofs.Script.Reading
import ModemDialog.Proofs.Session.Idling
import ModemDialog.Proofs.Script.Outcome
import ModemDialog.Proofs.Script.Diagnosis
import ModemDialog.Proofs.Engine.Dealing
import ModemDialog.Proofs.Engine.OperatorTurns
import ModemDialog.Proofs.Engine.Gate
import ModemDialog.Proofs.Engine.Muting
import ModemDialog.Proofs.Settings.Meaning
import ModemDialog.Proofs.Settings.Blanking
import ModemDialog.Proofs.Loopback.Delivery
import ModemDialog.Proofs.Session.Unrecorded
import ModemDialog.Proofs.Engine.Unrecorded
import ModemDialog.Proofs.Session.Failing
import ModemDialog.Proofs.Engine.Failing
import ModemDialog.Proofs.Engine.Halting
import ModemDialog.Proofs.Engine.Ending
import ModemDialog.Proofs.Session.Polling
import ModemDialog.Proofs.Session.IdleTimeout
import ModemDialog.Proofs.Session.Elapsed
import ModemDialog.Proofs.Session.Stripping
import ModemDialog.Proofs.Session.Anchoring
import ModemDialog.Proofs.Session.Echo
import ModemDialog.Proofs.Script.LoopBlock
import ModemDialog.Proofs.Settings.SentryValue
import ModemDialog.Proofs.Settings.Firing
import ModemDialog.Proofs.Inbox.Taking
import ModemDialog.Proofs.Text.Escaping
import ModemDialog.Proofs.Transcript.Reading
import ModemDialog.Proofs.Reader.Draining
import ModemDialog.Proofs.Settings.SentryPattern
import ModemDialog.Proofs.Number.Numerals
import ModemDialog.Proofs.Text.Words
import ModemDialog.Proofs.Script.Grammar
import ModemDialog.Proofs.Script.OperatorLines
import ModemDialog.Proofs.Session.Interleaving
import ModemDialog.Proofs.Terminal.Bursts
