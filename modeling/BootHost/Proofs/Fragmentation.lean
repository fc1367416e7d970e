import BootHost.Proofs.Likeness
import BootHost.Proofs.Tape.Ports

/-!
# Fragmentation is invisible

Two ports that play the same tape, the one with other limits, other cuts and other delays than the
other, make a run end in the same way: with the same report or fault, in the same phase, and with
the same bytes in the same groups behind it. The calls made on the two ports may be quite
different, so the runs are not compared call by call but through the tape that both follow.
-/

namespace BootHost

variable {σ τ : Type} [Port σ] [Port τ]

/-- Two runs end in the same way, whatever their ports are. -/
structure Connection.SameEnd (x : Except Fault Report × Connection σ)
    (y : Except Fault Report × Connection τ) : Prop where
  result : x.1 = y.1
  phase : x.2.phase = y.2.phase
  /-- The same counts of bytes in both directions, and the same groups. -/
  traffic : x.2.line.traffic = y.2.line.traffic

namespace Connection

variable [Taped σ] [Taped τ]

/-- Two connections in the same phase over lines that are alike. -/
structure Alike (conn : Connection σ) (conn' : Connection τ) : Prop where
  line : Line.Alike 0 conn.line conn'.line
  phase : conn.phase = conn'.phase

theorem alike_of_plays {incoming : Bytes} {room : Option Nat} {p : σ} {q : τ}
    (hp : Taped.Plays incoming room p) (hq : Taped.Plays incoming room q) :
    Alike (ofPort p) (ofPort q) :=
  ⟨⟨⟨incoming, room, {}⟩, ⟨hp, rfl⟩, ⟨hq, by simp [Tape.later, ofPort]⟩⟩, rfl⟩

theorem connect_alike {conn : Connection σ} {conn' : Connection τ} (start : Start)
    (h : Alike conn conn') : Agree Alike (conn.connect start) (conn'.connect start) := by
  unfold connect
  rw [← h.phase]
  split
  · obtain ⟨t, hl, hm⟩ := h.line
    rw [Tape.later_zero] at hm
    obtain ⟨r, t', ht⟩ : ∃ r t', t.greet start = (r, t') := ⟨_, _, rfl⟩
    obtain ⟨l', hl', follows⟩ := (ht ▸ Line.greet_follows start hl).left
    obtain ⟨m', hm', follows'⟩ := (ht ▸ Line.greet_follows start hm).left
    have alike : Line.Alike 0 l' m' := ⟨t', follows, by rwa [Tape.later_zero]⟩
    rw [hl', hm']
    cases r <;> exact .of ⟨alike, rfl⟩
  · exact .of h

/-- Ports that play the same tape make a run end in the same way. -/
theorem sameEnd_of_plays {incoming : Bytes} {room : Option Nat} {p : σ} {q : τ} (storage : Storage)
    (setup : Setup) (hp : Taped.Plays incoming room p) (hq : Taped.Plays incoming room q) :
    SameEnd ((ofPort p).run storage setup) ((ofPort q).run storage setup) := by
  have greeted : Agree (Behind 0) ((ofPort p).connect (.ofSkipWait setup.skipWait))
      ((ofPort q).connect (.ofSkipWait setup.skipWait)) := by
    have agree := connect_alike (.ofSkipWait setup.skipWait) (alike_of_plays hp hq)
    exact ⟨agree.result, agree.state.line, agree.state.phase⟩
  have runs := run_behind storage rfl rfl greeted
  refine ⟨runs.result, runs.state.phase, ?_⟩
  rw [runs.state.line.traffic, Traffic.later_zero]

/-- However the incoming bytes and the written ones are cut, and however often a call has to be
made again, a run ends in the same way. -/
theorem run_ignores_fragmentation (storage : Storage) (setup : Setup) (incoming : Bytes)
    (readLimit writeLimit : Option Nat) (stalls : Nat) :
    (∀ (room readLimit' writeLimit' : Option Nat) (stalls' : Nat),
      SameEnd ((ofPort (Queued.mk incoming readLimit writeLimit stalls room)).run storage setup)
        ((ofPort (Queued.mk incoming readLimit' writeLimit' stalls' room)).run storage setup)) ∧
    ∀ s : Scripted, s.Fragments incoming →
      SameEnd ((ofPort (Queued.mk incoming readLimit writeLimit stalls none)).run storage setup)
        ((ofPort s).run storage setup) := by
  constructor
  · intro room readLimit' writeLimit' stalls'
    exact sameEnd_of_plays storage setup (Queued.plays _) (Queued.plays _)
  · intro s fragments
    exact sameEnd_of_plays storage setup (Queued.plays _) fragments.plays

/-- A board that stutters, and a line that takes three bytes at a time. -/
theorem run_ignores_fragmentation_of_stuttering_board :
    Scripted.Fragments
        ⟨[.fault (.plain .timedOut), .data [0x41], .fault (.plain .interrupted), .data [0x59, 0x59]],
          [.upTo 3, .fault (.plain .timedOut), .upTo 3], []⟩ [0x41, 0x59, 0x59] ∧
      SameEnd
        ((ofPort (Queued.mk [0x41, 0x59, 0x59] (some 1) none 4 none)).run
          (fun _ => .ok (.regular [1, 2, 3])) { address := 0x40, request := { writeFile := some "a" } })
        ((ofPort (Scripted.mk
          [.fault (.plain .timedOut), .data [0x41], .fault (.plain .interrupted), .data [0x59, 0x59]]
          [.upTo 3, .fault (.plain .timedOut), .upTo 3] [])).run
          (fun _ => .ok (.regular [1, 2, 3])) { address := 0x40, request := { writeFile := some "a" } }) := by
  have fragments : Scripted.Fragments
      ⟨[.fault (.plain .timedOut), .data [0x41], .fault (.plain .interrupted), .data [0x59, 0x59]],
        [.upTo 3, .fault (.plain .timedOut), .upTo 3], []⟩ [0x41, 0x59, 0x59] :=
    { reads := .fault rfl (@Piece.Spells.data _ _ [] _ _ (.fault rfl (@Piece.Spells.data _ _ [0x59] _ _ .nil)))
      writes := by simp [Acceptance.IsSmooth, DeviceFault.isTransient, DeviceFault.plain]
      flushes := by simp }
  exact ⟨fragments, (run_ignores_fragmentation _ _ _ _ _ _).2 _ fragments⟩

end Connection

end BootHost
