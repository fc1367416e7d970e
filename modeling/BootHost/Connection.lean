import BootHost.Connection.Greeting

/-!
# Connections

A connection is a line together with the phase that host and board have reached on it. Only an
idle one can be connected, and once it is established or failed it stays so: `connect` is the one
call that changes the phase.
-/

namespace BootHost

/-- A line and the phase reached on it. -/
structure Connection (σ : Type) where
  line : Line σ
  phase : Phase := .idle

namespace Connection

variable {σ : Type} [Port σ]

/-- A connection over a port on which nothing has been said. -/
def ofPort (port : σ) : Connection σ := { line := { port := port } }

/-- Greets the board over an idle connection. -/
def connect (start : Start) (conn : Connection σ) : Except Fault Unit × Connection σ :=
  if conn.phase = .idle then
    match conn.line.greet start with
    | (.ok (), line) => (.ok (), { line := line, phase := .established })
    | (.error e, line) => (.error e, { line := line, phase := .failed })
  else (.error (.wrongPhase .idle conn.phase), conn)

/-- All that connecting does: it greets the board over an idle connection, and else it changes nothing. -/
theorem connect_cases {start : Start} {r : Except Fault Unit} {conn conn' : Connection σ}
    (h : conn.connect start = (r, conn')) :
    (conn.phase = .idle ∧ conn.line.greet start = (r, conn'.line) ∧
        conn'.phase = match r with | .ok () => .established | .error _ => .failed) ∨
      (conn.phase ≠ .idle ∧ r = .error (.wrongPhase .idle conn.phase) ∧ conn' = conn) := by
  unfold connect at h
  split at h
  · rename_i idle
    split at h <;> rename_i greeted <;> obtain ⟨rfl, rfl⟩ := Prod.mk.inj h
    · exact .inl ⟨idle, greeted, rfl⟩
    · exact .inl ⟨idle, greeted, rfl⟩
  · rename_i busy
    obtain ⟨rfl, rfl⟩ := Prod.mk.inj h
    exact .inr ⟨busy, rfl, rfl⟩

/-- After a successful greeting the connection is established. -/
theorem phase_of_connect {start : Start} {conn conn' : Connection σ}
    (h : conn.connect start = (.ok (), conn')) : conn'.phase = .established := by
  rcases connect_cases h with ⟨-, -, established⟩ | ⟨-, failed, -⟩
  · exact established
  · cases failed

end Connection

end BootHost
