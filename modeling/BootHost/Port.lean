import BootHost.Bytes
import BootHost.Fault.Device

/-!
# Ports

A port is the far end of the line as the host sees it: a state and three calls on it. A read
brings at most as many bytes as were asked for, and none at the end of the line; a write takes at
most what is offered. Either may fail, and the state moves on in any case.

`budget` says that a port is finite. Each read that brings bytes, and each fault after which a
call is simply made again, lowers it, and no call raises it. Hence waiting for a port ends. A port
that goes on for ever is one as soon as it is cut off, after however many calls.
-/

namespace BootHost

/-- The far end of a line, with a bound on how long it can keep the host busy. -/
class Port (σ : Type) where
  /-- Asks for a number of bytes. -/
  read : Nat → σ → Except DeviceFault Bytes × σ
  /-- Offers bytes; the answer is how many of them were taken. -/
  write : Bytes → σ → Except DeviceFault Nat × σ
  /-- Pushes out what was taken. -/
  flush : σ → Except DeviceFault Unit × σ
  /-- A bound on the reads that bring bytes and the faults that are transient. -/
  budget : σ → Nat
  read_length_le {n : Nat} {s : σ} {bytes : Bytes} :
    (read n s).1 = .ok bytes → bytes.length ≤ n
  write_le_length {bytes : Bytes} {s : σ} {k : Nat} :
    (write bytes s).1 = .ok k → k ≤ bytes.length
  budget_read_le (n : Nat) (s : σ) : budget (read n s).2 ≤ budget s
  budget_read_lt {n : Nat} {s : σ} {bytes : Bytes} :
    (read n s).1 = .ok bytes → bytes ≠ [] → budget (read n s).2 < budget s
  budget_read_retry {n : Nat} {s : σ} {e : DeviceFault} :
    (read n s).1 = .error e → e.isTransient = true → budget (read n s).2 < budget s
  budget_write_le (bytes : Bytes) (s : σ) : budget (write bytes s).2 ≤ budget s
  budget_write_retry {bytes : Bytes} {s : σ} {e : DeviceFault} :
    (write bytes s).1 = .error e → e.isTransient = true → budget (write bytes s).2 < budget s
  budget_flush_le (s : σ) : budget (flush s).2 ≤ budget s

end BootHost
