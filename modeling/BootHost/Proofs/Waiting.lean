import BootHost.Proofs.Tape.Grammar

/-!
# Waiting for the board

A run that waits for the board is a run that does not, begun behind the ready byte. All that the
wait leaves behind is its deliveries: the tape of the greeting goes on where the other one starts,
with the wait in front of it (`Tape.greet_later`), and from there the two runs are alike.
-/

namespace BootHost

namespace Connection

variable {σ τ : Type} [Port σ] [Port τ] [Taped σ] [Taped τ]

/-- Greetings of fresh connections, the one without a wait and the other with one. -/
theorem connect_behind {noise rest : Bytes} {room : Option Nat} {p : σ} {q : τ}
    (quiet : Protocol.ready ∉ noise) (hp : Taped.Plays rest room p)
    (hq : Taped.Plays (noise ++ Protocol.ready :: rest) room q) :
    Agree (Behind (noise.length + 1)) ((ofPort p).connect .nock) ((ofPort q).connect .awaitBoard) := by
  have fresh : (ofPort p).line.Follows ⟨rest, room, {}⟩ := ⟨hp, rfl⟩
  have fresh' : (ofPort q).line.Follows ⟨noise ++ Protocol.ready :: rest, room, {}⟩ := ⟨hq, rfl⟩
  have greetings := Line.agree_alike (Line.greet_follows .nock fresh) (Line.greet_follows .awaitBoard fresh')
    (Tape.greet_later quiet rest room)
  obtain ⟨r, l, m, hl, hm, alike⟩ := greetings.cases
  have idle : (ofPort p).phase = .idle := rfl
  have idle' : (ofPort q).phase = .idle := rfl
  unfold connect
  rw [if_pos idle, if_pos idle', hl, hm]
  cases r with
  | error e => exact .of ⟨alike, rfl⟩
  | ok _ => exact .of ⟨alike, rfl⟩

/-- A run ends as another one does, behind a number of bytes that were delivered before. -/
structure EndsBehind (d : Nat) (x y : Except Fault Report × Connection Queued) : Prop where
  result : x.1 = y.1
  phase : x.2.phase = y.2.phase
  written : x.2.line.traffic.written = y.2.line.traffic.written
  /-- The same bytes were pushed out together, each time that many deliveries later. -/
  groups : x.2.line.traffic.groups = y.2.line.traffic.groups.map fun g => { g with after := g.after + d }
  delivered : x.2.line.traffic.delivered = y.2.line.traffic.delivered + d
  /-- The same bytes are still to come. -/
  incoming : x.2.line.port.incoming = y.2.line.port.incoming

theorem endsBehind_of_agree {d : Nat} {x y : Except Fault Report × Connection Queued}
    (h : Agree (Behind d) y x) : EndsBehind d x y := by
  obtain ⟨t, follows, follows'⟩ := h.state.line
  have traffic := h.state.line.traffic
  constructor
  case result => exact h.result.symm
  case phase => exact h.state.phase.symm
  case written => rw [traffic, Traffic.later]
  case groups =>
    rw [traffic]
    simp only [Traffic.groups, Traffic.later, List.map_reverse]
  case delivered => rw [traffic, Traffic.later]
  case incoming =>
    have left : y.2.line.port.incoming = t.incoming := follows.port.1
    have left' : x.2.line.port.incoming = t.incoming := follows'.port.1
    rw [left', left]

/-- Waiting for the board changes nothing but the number of bytes that were delivered: with whatever
noise ahead of the ready byte, a run goes as one that is told not to wait and hears the rest. -/
theorem run_behind_wait (storage : Storage) (setup : Setup) (noise rest : Bytes)
    (quiet : Protocol.ready ∉ noise) (readLimit writeLimit : Option Nat) (stalls : Nat) (room : Option Nat) :
    EndsBehind (noise.length + 1)
      ((ofPort (Queued.mk (noise ++ Protocol.ready :: rest) readLimit writeLimit stalls room)).run storage
        { setup with skipWait := false })
      ((ofPort (Queued.mk rest readLimit writeLimit stalls room)).run storage
        { setup with skipWait := true }) := by
  apply endsBehind_of_agree
  refine run_behind storage ?_ ?_ ?_
  · rfl
  · rfl
  · exact connect_behind quiet (Queued.plays _) (Queued.plays _)

/-- A board that makes noise, among it what would be an acknowledgment, over a line that is cut in
the middle of the jump. -/
theorem run_behind_wait_of_noisy_board :
    Protocol.ready ∉ [0x59, 0x00, 0x4E] ∧
      EndsBehind 4
        ((ofPort (Queued.mk [0x59, 0x00, 0x4E, 0x41, 0x41, 0x59, 0x07] (some 1) (some 3) 5 (some 12))).run
          noFiles { address := 0x40, skipWait := false, request := { readLength := some 0, jump := true } })
        ((ofPort (Queued.mk [0x41, 0x59, 0x07] (some 1) (some 3) 5 (some 12))).run
          noFiles { address := 0x40, skipWait := true, request := { readLength := some 0, jump := true } }) := by
  have quiet : Protocol.ready ∉ [0x59, 0x00, 0x4E] := by decide
  refine ⟨quiet, ?_⟩
  exact run_behind_wait noFiles { address := 0x40, request := { readLength := some 0, jump := true } }
    [0x59, 0x00, 0x4E] [0x41, 0x59, 0x07] quiet (some 1) (some 3) 5 (some 12)

end Connection

end BootHost
