import BootHost.Memory.Access
import BootHost.Report
import BootHost.Setup

/-!
# Runs

A run greets the board and performs the requested actions in order. An action that is refused
before anything is sent is skipped and the next one is performed; one that fails ends the run.
-/

namespace BootHost

namespace Memory.Access

variable {σ : Type} [Port σ]

/-- Performs one action. -/
def perform (storage : Storage) (action : Action) (a : Access σ) : Except Fault Outcome × Access σ :=
  match action with
  | .writeFile path =>
    match a.writeFile storage path with
    | (.ok w, a') => (.ok (.written w), a')
    | (.error e, a') => (.error e, a')
  | .writeValue i =>
    match a.writeValue i.value i.length with
    | (.ok w, a') => (.ok (.written w), a')
    | (.error e, a') => (.error e, a')
  | .read length =>
    match a.read length with
    | (.ok (address, data), a') => (.ok (.read address data), a')
    | (.error e, a') => (.error e, a')
  | .jump =>
    match a.jump with
    | (.ok address, a') => (.ok (.jumped address), a')
    | (.error e, a') => (.error e, a')

/-- Performs actions until one fails. -/
def performAll (storage : Storage) : List Action → Access σ → List Entry × Access σ
  | [], a => ([], a)
  | action :: rest, a =>
    match a.perform storage action with
    | (.ok outcome, a') =>
      match performAll storage rest a' with
      | (entries, a'') => (⟨action.operation, outcome⟩ :: entries, a'')
    | (.error e, a') =>
      if e.isUsage then
        match performAll storage rest (a'.note (.skipped action.operation e)) with
        | (entries, a'') => (⟨action.operation, .skipped e⟩ :: entries, a'')
      else ([⟨action.operation, .failed e⟩], a'.note (.failed action.operation e))

/-- Performs what is requested. -/
def fulfil (storage : Storage) (request : Request) (a : Access σ) : Report × Access σ :=
  match a.performAll storage request.actions with
  | (entries, a') => (⟨entries⟩, a')

end Memory.Access

namespace Connection

variable {σ : Type} [Port σ]

/-- Greets the board, then performs what is requested. The run fails only if the connection
could not be established. -/
def run (storage : Storage) (setup : Setup) (conn : Connection σ) : Except Fault Report × Connection σ :=
  match conn.connect (.ofSkipWait setup.skipWait) with
  | (.error e, conn') => (.error e, conn')
  | (.ok (), conn') =>
    match Memory.Access.start setup.address { conn' with line := conn'.line.note .connected } with
    | .error e => (.error e, { conn' with line := conn'.line.note .connected })
    | .ok a =>
      match a.fulfil storage setup.request with
      | (report, a') => (.ok report, (a'.note (.cursorEnded a'.cursor)).conn)

theorem run_of_connect_error {storage : Storage} {setup : Setup} {conn conn' : Connection σ} {e : Fault}
    (h : conn.connect (.ofSkipWait setup.skipWait) = (.error e, conn')) :
    conn.run storage setup = (.error e, conn') := by
  rw [run, h]

/-- Once the connection is established, a run is the request, from the address on. -/
theorem run_of_connect_ok {setup : Setup} {conn conn' : Connection σ} (storage : Storage)
    (h : conn.connect (.ofSkipWait setup.skipWait) = (.ok (), conn')) :
    ∃ a : Memory.Access σ, a.conn.line = conn'.line.note .connected ∧
      a.cursor = some setup.address ∧ a.chunkSize = .largest ∧
      conn.run storage setup =
        match a.fulfil storage setup.request with
        | (report, a') => (.ok report, (a'.note (.cursorEnded a'.cursor)).conn) := by
  have established : conn'.phase = .established := phase_of_connect h
  refine ⟨⟨{ conn' with line := conn'.line.note .connected }, established,
    some setup.address, .largest, {}⟩, rfl, rfl, rfl, ?_⟩
  rw [run, h]
  dsimp only
  rw [Memory.Access.start, dif_pos established]

end Connection

end BootHost
