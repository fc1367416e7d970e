import BootHost.Proofs.Conversation.Request
import BootHost.Proofs.Tape.Greeting
import BootHost.Proofs.Tape.Ports

/-!
# Lockstep

A host never sends ahead. What it pushes out is the magic and then one command at a time, and each
command goes out when the whole answer to the one before it has been delivered, and nothing more.
`Command.ledger` is the list of groups that this makes; a conversation adds the ledger of the
commands that went out, and its deliveries stay within the answers to them.
-/

namespace BootHost

namespace Command

/-- The groups of commands that go out in lockstep, when the first one goes out behind a number of
delivered bytes. -/
def ledger (delivered : Nat) : List Command → List Group
  | [] => []
  | c :: rest => ⟨delivered, c.encode⟩ :: ledger (delivered + c.answerLength) rest

/-- How many bytes the answers to commands have together. -/
def answersLength : List Command → Nat
  | [] => 0
  | c :: rest => c.answerLength + answersLength rest

end Command

namespace Traffic

variable {t : Traffic} {bytes : Bytes}

/-- Bytes that are flushed right behind an earlier flush are a group of their own. -/
theorem groups_of_flush (pending : t.pendingRev = []) (hb : bytes ≠ []) (count : Nat) :
    ((t.take bytes).flush.deliver count).groups = t.groups ++ [⟨t.delivered, bytes⟩] := by
  obtain ⟨first, rest, hr⟩ := List.exists_cons_of_ne_nil (List.reverse_ne_nil_iff.2 hb)
  have same : bytes = (first :: rest).reverse := by rw [← hr, List.reverse_reverse]
  simp [flush, take, deliver, groups, pending, List.reverseAux_eq, same]

end Traffic

theorem Command.encode_ne_nil (c : Command) : c.encode ≠ [] := List.cons_ne_nil _ _

variable {σ : Type} [Port σ]

/-- A conversation goes on in lockstep: the commands that went out are those at the front of its
plan, all of them when it is complete. -/
theorem Conversation.lockstep {plan : List Command} {answers : List Bytes} {complete : Bool}
    {w w' : Wire σ} (h : Conversation plan answers complete w w') (pending : w.traffic.pendingRev = []) :
    ∃ sent, sent <+: plan ∧
      w'.traffic.groups = w.traffic.groups ++ Command.ledger w.traffic.delivered sent ∧
      w'.traffic.delivered ≤ w.traffic.delivered + Command.answersLength sent ∧
      (complete = true → sent = plan ∧
        w'.traffic.delivered = w.traffic.delivered + Command.answersLength plan) := by
  induction h with
  | done =>
    refine ⟨[], List.nil_prefix, ?_, Nat.le_refl _, ?_⟩
    · rw [Command.ledger, List.append_nil]
    · intro _
      exact ⟨rfl, rfl⟩
  | @broken c plan w w' breaks =>
    rcases breaks.traffic with ⟨part, -, traffic⟩ | ⟨n, few, traffic⟩
    · refine ⟨[], List.nil_prefix, ?_, ?_, by simp⟩
      · rw [traffic]
        simp [Traffic.take, Traffic.groups, Command.ledger]
      · rw [traffic]
        exact Nat.le_refl _
    · refine ⟨[c], by simp, ?_, ?_, by simp⟩
      · rw [traffic, Traffic.groups_of_flush pending c.encode_ne_nil]
        rfl
      · simp only [traffic, Traffic.delivered_deliver, Traffic.delivered_flush, Traffic.delivered_take,
          Command.answersLength]
        omega
  | @step c plan answer answers complete w w' w'' answered _ ih =>
    have groups : w'.traffic.groups = w.traffic.groups ++ [⟨w.traffic.delivered, c.encode⟩] := by
      rw [answered.traffic, Traffic.groups_of_flush pending c.encode_ne_nil]
    have delivered : w'.traffic.delivered = w.traffic.delivered + c.answerLength := by
      simp [answered.traffic]
    have settled : w'.traffic.pendingRev = [] := by
      rw [answered.traffic]
      exact Traffic.pendingRev_flush _
    obtain ⟨sent, front, later, atMost, all⟩ := ih settled
    refine ⟨c :: sent, (List.cons_prefix_cons).2 ⟨rfl, front⟩, ?_, ?_, ?_⟩
    · rw [later, groups, delivered, Command.ledger, List.append_assoc, List.singleton_append]
    · rw [Command.answersLength]
      omega
    · intro through
      obtain ⟨rfl, exactly⟩ := all through
      refine ⟨rfl, ?_⟩
      rw [Command.answersLength]
      omega

/-- A greeting on a fresh line leaves the magic behind as the only group. -/
theorem Line.Follows.opening [Taped σ] {l : Line σ} {incoming : Bytes} {room : Option Nat}
    {before behind : Nat} (h : l.Follows (Tape.greeted before behind ⟨incoming, room, {}⟩)) :
    l.traffic.groups = [⟨before, Protocol.magic⟩] ∧ l.traffic.pendingRev = [] ∧
      l.traffic.delivered = before + behind := by
  have traffic : l.traffic =
      ((({} : Traffic).deliver before).take Protocol.magic).flush.deliver behind := h.traffic
  rw [traffic]
  refine ⟨?_, Traffic.pendingRev_flush _, ?_⟩
  · rw [Traffic.groups_of_flush rfl (by decide)]
    simp [Traffic.groups, Traffic.deliver]
  · simp [Traffic.deliver]

namespace Connection

/-- A run goes on in lockstep. The first group is the magic, every later one is a command, and each
command goes out right behind the answer to the one before it, the first one right behind the
greeting. No more is delivered than the answers to the commands that went out, and exactly that when
nothing failed. -/
theorem run_in_lockstep (storage : Storage) (setup : Setup) (port : Queued) :
    ((ofPort port).run storage setup).2.line.traffic.groups = [] ∨
    ∃ before greeted sent,
      ((ofPort port).run storage setup).2.line.traffic.groups =
        ⟨before, Protocol.magic⟩ :: Command.ledger greeted sent ∧
      (sent ≠ [] → ∃ greeting, (Start.ofSkipWait setup.skipWait).GreetedBy greeting ∧
        greeting <+: port.incoming ∧ greeting.length = greeted) ∧
      ((ofPort port).run storage setup).2.line.traffic.delivered ≤
        greeted + Command.answersLength sent ∧
      ∀ report, ((ofPort port).run storage setup).1 = .ok report → report.isSuccess = true →
        ((ofPort port).run storage setup).2.line.traffic.delivered =
          greeted + Command.answersLength sent := by
  rcases hc : (ofPort port).connect (.ofSkipWait setup.skipWait) with ⟨e | _, conn'⟩
  · have greeted := greet_of_connect_error rfl hc
    rw [run_of_connect_error hc]
    obtain ⟨m, ⟨part, -, traffic⟩ | ⟨n, traffic⟩⟩ := Line.traffic_of_greet_error greeted
    · left
      rw [traffic]
      rfl
    · right
      refine ⟨m, conn'.line.traffic.delivered, [], ?_, by simp, Nat.le_refl _, by simp⟩
      rw [traffic, Traffic.groups_of_flush rfl (by decide)]
      simp [Traffic.groups, Traffic.deliver, ofPort, Command.ledger]
  · right
    have follows : (ofPort port).line.Follows ⟨port.incoming, port.room, {}⟩ := ⟨Queued.plays port, rfl⟩
    obtain ⟨greeting, rest, before, behind, word, cut, both, same⟩ := incoming_of_connect follows hc
    obtain ⟨report, ended, plan, answers, complete, run, conversation, -, through⟩ :=
      run_converses storage hc
    obtain ⟨opening, settled, delivered⟩ := same.opening
    obtain ⟨sent, -, groups, atMost, all⟩ := conversation.lockstep settled
    simp only [Line.wire_traffic, opening, delivered, both, List.singleton_append] at groups atMost all
    rw [run]
    refine ⟨before, greeting.length, sent, groups, ?_, atMost, ?_⟩
    · intro _
      exact ⟨greeting, word, ⟨rest, cut.symm⟩, rfl⟩
    · intro report' isReport success
      obtain rfl : report = report' := by simpa using isReport
      obtain ⟨rfl, exactly⟩ := all (through success)
      exact exactly

end Connection

end BootHost
