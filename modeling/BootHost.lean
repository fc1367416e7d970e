import BootHost.Main
import BootHost.Port.Queued
import BootHost.Port.Scripted
import BootHost.Proofs.Spelling
import BootHost.Proofs.Transfer
import BootHost.Storage.Directory
import BootHost.Proofs.Tape
import BootHost.Proofs.Tape.Dialogue
import BootHost.Proofs.Likeness
import BootHost.Proofs.Tape.Ports
import BootHost.Proofs.Fragmentation
import BootHost.Proofs.Conversation
import BootHost.Proofs.Conversation.Request
import BootHost.Proofs.Greeting
import BootHost.Proofs.Stream
import BootHost.Proofs.Tape.Greeting
import BootHost.Proofs.Lockstep
import BootHost.Proofs.Language
import BootHost.Proofs.Session
import BootHost.Proofs.Session.Cursor
import BootHost.Proofs.Dispatch
import BootHost.Proofs.Tape.Grammar
import BootHost.Proofs.Session.Refusal
import BootHost.Connection.Machine
import BootHost.Proofs.Framing
import BootHost.Proofs.Waiting
import BootHost.Proofs.Life.LineFailure
import BootHost.Proofs.Chunks
import BootHost.Proofs.Chunks.Halts
import BootHost.Proofs.Chunks.Acknowledged
import BootHost.Proofs.Quiet
import BootHost.Proofs.Transfer.Calls
import BootHost.Proofs.Transfer.Script
import BootHost.Proofs.Chunks.Room
import BootHost.Proofs.Session.Immediate
import BootHost.Proofs.Session.Lifting
import BootHost.Proofs.Life.Patience
import BootHost.Proofs.Numerals
import BootHost.Proofs.HexView
import BootHost.Proofs.Chunks.Progress
import BootHost.Proofs.Chunks.Strides
import BootHost.Proofs.CommandLine
import BootHost.Proofs.Custody
import BootHost.Proofs.Pace.Finite
import BootHost.Proofs.Chunks.Extent
