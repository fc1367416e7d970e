import BootHost.Port.Endless
import BootHost.Proofs.Conversation.Request
import BootHost.Proofs.Greeting

/-!
# The stream of a run

Whatever a port does, the bytes that it takes during a run are a front of one stream, which is told
by the set-up and the content of the file alone: the magic, and then the commands of the plan. A
conversation takes a front of its plan, the whole plan when it is complete, and the greeting takes a
front of the magic; a run whose report is a success has sent the whole stream.
-/

namespace BootHost

variable {σ : Type} [Port σ]

/-- A conversation takes a front of its plan, and all of it when it is complete. -/
theorem Conversation.taken {plan : List Command} {answers : List Bytes} {complete : Bool} {w w' : Wire σ}
    (h : Conversation plan answers complete w w') :
    w'.traffic.taken <+: w.traffic.taken ++ plan.flatMap Command.encode ∧
      (complete = true → w'.traffic.taken = w.traffic.taken ++ plan.flatMap Command.encode) := by
  induction h with
  | done => simp
  | @broken c plan w w' breaks =>
    refine ⟨?_, by simp⟩
    rw [List.flatMap_cons]
    rcases breaks.traffic with ⟨part, hp, traffic⟩ | ⟨n, -, traffic⟩
    · rw [traffic, Traffic.taken_take, List.prefix_append_right_inj]
      exact hp.trans (List.prefix_append ..)
    · rw [traffic, Traffic.taken_deliver, Traffic.taken_flush, Traffic.taken_take,
        List.prefix_append_right_inj]
      exact List.prefix_append ..
  | @step c plan answer answers complete w w' w'' answered _ ih =>
    have first : w'.traffic.taken = w.traffic.taken ++ c.encode := by
      rw [answered.traffic, Traffic.taken_deliver, Traffic.taken_flush, Traffic.taken_take]
    rw [first, List.append_assoc, ← List.flatMap_cons] at ih
    exact ih

namespace Connection

/-- What a port takes during a run is a front of the stream of its set-up, and the whole stream when
nothing failed. -/
theorem run_sends_stream (storage : Storage) (setup : Setup) (content : Bytes) (port : σ)
    (hf : storage.Provides setup.request content) :
    ((ofPort port).run storage setup).2.line.traffic.taken <+: setup.stream content ∧
      ∀ report, ((ofPort port).run storage setup).1 = .ok report → report.isSuccess = true →
        ((ofPort port).run storage setup).2.line.traffic.taken = setup.stream content := by
  rcases hc : (ofPort port).connect (.ofSkipWait setup.skipWait) with ⟨e | _, conn'⟩
  · have greeted := greet_of_connect_error rfl hc
    rw [run_of_connect_error hc]
    refine ⟨?_, by simp⟩
    obtain ⟨m, ⟨part, hp, traffic⟩ | ⟨n, traffic⟩⟩ := Line.traffic_of_greet_error greeted
    · rw [traffic, Traffic.taken_take, Traffic.taken_deliver]
      exact hp.trans (List.prefix_append ..)
    · rw [traffic, Traffic.taken_deliver, Traffic.taken_flush, Traffic.taken_take, Traffic.taken_deliver]
      exact List.prefix_append ..
  · obtain ⟨m, n, traffic⟩ := Line.traffic_of_greet_ok (greet_of_connect_ok hc)
    have greeting : conn'.line.traffic.taken = Protocol.magic := by
      rw [traffic, Traffic.taken_deliver, Traffic.taken_flush, Traffic.taken_take, Traffic.taken_deliver]
      rfl
    obtain ⟨report, ended, answers, run, conversation, -⟩ := run_works hf hc
    have taken := conversation.taken
    rw [Line.wire_traffic, Line.wire_traffic, greeting] at taken
    rw [run]
    refine ⟨taken.1, ?_⟩
    intro report' same success
    obtain rfl : report = report' := by simpa using same
    exact taken.2 success

/-- A board that says for ever that it is ready, over a line that takes three bytes at a time. -/
theorem run_sends_stream_of_babbling_board :
    Storage.Provides (fun _ => .ok (.regular [1, 2, 3])) { writeFile := some "a", jump := true } [1, 2, 3] ∧
      ((ofPort (Endless.mk (fun _ => .data [0x41]) (fun _ => .upTo 3) (fun _ => .ok ()) 0 100)).run
          (fun _ => .ok (.regular [1, 2, 3]))
          { address := 0x40, request := { writeFile := some "a", jump := true } }).2.line.traffic.taken <+:
        Setup.stream { address := 0x40, request := { writeFile := some "a", jump := true } } [1, 2, 3] := by
  have provides : Storage.Provides (fun _ => .ok (.regular [1, 2, 3]))
      { writeFile := some "a", jump := true } [1, 2, 3] := by
    intro path _
    exact ⟨_, rfl, OpenFile.regular_holds _⟩
  exact ⟨provides, (run_sends_stream _ _ _ _ provides).1⟩

end Connection

end BootHost
