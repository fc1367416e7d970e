import BootHost.Port.Scripted
import BootHost.Proofs.Pace.Demand
import BootHost.Proofs.Pace
import BootHost.Proofs.Tape.Ports

/-!
# Runs over finite ports

A run ends, whatever port it is made over: the number of its calls is bounded by what is left of the port and by
what there is to send (`Connection.ends`). The calls are those that an observed port keeps account of, and a run
over it brings the same as over the port itself (`Connection.run_observed`). What it means for a call to get the
host on is then told from the port. On a queued port it uses up a stall, bytes of the queue or bytes that are
offered, under any limits; on a scripted port it uses up an item or bytes. A call that does neither is made at the
end of the line, or meets a fault that stays, and no call comes after it.
-/

namespace BootHost

variable {σ : Type}

namespace Line

/-- The line over the port that is observed. -/
def bare (l : Line (Observed σ)) : Line σ := ⟨l.port.port, l.traffic, l.notes⟩

/-- The one is the line over an observed port, the other the line over the port itself. -/
def Watches (l : Line (Observed σ)) (m : Line σ) : Prop := l.bare = m

variable [Port σ]

/-- A port that is observed does as it would anyway. -/
theorem mirror_watches : Mirror (Watches : Line (Observed σ) → Line σ → Prop) where
  note n h := congrArg (note n) h
  read {l m} n h := by
    obtain rfl := h
    have seen : Port.read n l.port = ((Port.read n l.bare.port).1, l.port.make (.read n)) := rfl
    have next : (l.port.make (.read n)).port = (Port.read n l.bare.port).2 := rfl
    -- Answer and port behind belong to one call, so both have to be in sight when it is taken apart.
    unfold Line.read
    rw [seen]
    revert next
    rcases Port.read n l.bare.port with ⟨e | bytes, port⟩ <;> rintro ⟨⟩ <;> exact .of rfl
  write {l m} bytes h := by
    obtain rfl := h
    have seen : Port.write bytes l.port = ((Port.write bytes l.bare.port).1, l.port.make (.write bytes)) := rfl
    have next : (l.port.make (.write bytes)).port = (Port.write bytes l.bare.port).2 := rfl
    unfold Line.write
    rw [seen]
    revert next
    rcases Port.write bytes l.bare.port with ⟨e | k, port⟩ <;> rintro ⟨⟩ <;> exact .of rfl
  flush {l m} h := by
    obtain rfl := h
    have seen : Port.flush l.port = ((Port.flush l.bare.port).1, l.port.make .flush) := rfl
    have next : (l.port.make .flush).port = (Port.flush l.bare.port).2 := rfl
    unfold Line.flush
    rw [seen]
    revert next
    rcases Port.flush l.bare.port with ⟨e | _, port⟩ <;> rintro ⟨⟩ <;> exact .of rfl

end Line

namespace Wire

variable [Port σ] {port : σ} {w : Wire (Observed σ)} {through : Bool}

/-- The calls that were made from the start on, of which only the last one may be one that does not get the host
on. -/
theorem Paced.trail (h : Paced through ⟨⟨port, []⟩, {}⟩ w) :
    Port.Trail Port.Call.Advances Port.Call.Stops w.port.made port w.port.port := by
  cases h with
  | whole advance =>
    rw [advance.gets.made]
    exact .whole advance.gets.goes
  | cut advance stops =>
    rw [Observed.made_make, advance.gets.made]
    exact .cut advance.gets.goes stops

theorem Paced.goes (h : Paced true ⟨⟨port, []⟩, {}⟩ w) :
    Port.Goes Port.Call.Advances w.port.made port w.port.port := by
  cases h with
  | whole advance =>
    rw [advance.gets.made]
    exact advance.gets.goes

theorem Paced.few (h : Paced through ⟨⟨port, []⟩, {}⟩ w) :
    w.port.made.length ≤ Port.budget port + 2 * w.traffic.taken.length + 1 := by
  have start : Port.budget (Observed.mk port []) = Port.budget port := rfl
  have empty : (Observed.mk port []).made = [] := rfl
  cases h with
  | whole advance =>
    have few := advance.few
    rw [advance.gets.made, empty, List.nil_append]
    dsimp only at few
    omega
  | cut advance stops =>
    have few := advance.few
    rw [Observed.made_make, advance.gets.made, empty, List.nil_append, List.length_append, List.length_singleton]
    dsimp only at few ⊢
    omega

end Wire

namespace Connection

variable [Port σ]

/-- A run over an observed port, on which no call was made before. -/
def observedRun (storage : Storage) (setup : Setup) (port : σ) :
    Except Fault Report × Connection (Observed σ) :=
  (ofPort (Observed.mk port [])).run storage setup

/-- Observed or not, a run brings the same. -/
theorem run_observed (storage : Storage) (setup : Setup) (port : σ) :
    Agree (Paired Line.Watches) (observedRun storage setup port) ((ofPort port).run storage setup) :=
  Line.mirror_watches.run storage setup ⟨rfl, rfl⟩

/-- The calls that a run makes on a port. -/
def callsOf (storage : Storage) (setup : Setup) (port : σ) : List Port.Call :=
  (observedRun storage setup port).2.line.port.made

/-- A run ends after at most so many calls. Each of them goes on, save the last one: that may halt, and then the
run tells of a failure of the line. -/
structure Ends (goes halts : Port.Call → σ → Prop) (storage : Storage) (setup : Setup) (port : σ)
    (most : Nat) : Prop where
  trail : Port.Trail goes halts (callsOf storage setup port) port ((ofPort port).run storage setup).2.line.port
  whole : online (told ((ofPort port).run storage setup).1) = true →
    Port.Goes goes (callsOf storage setup port) port ((ofPort port).run storage setup).2.line.port
  few : (callsOf storage setup port).length ≤ most

variable {goes goes' halts halts' : Port.Call → σ → Prop} {storage : Storage} {setup : Setup} {port : σ}
  {most : Nat}

theorem Ends.imp (h : Ends goes halts storage setup port most) (more : ∀ c s, goes c s → goes' c s)
    (last : ∀ c s, halts c s → halts' c s) : Ends goes' halts' storage setup port most :=
  ⟨h.trail.imp more last, fun online => (h.whole online).imp more, h.few⟩

/-- A run ends over any port, since each call uses up some of the port or goes towards what there is to send. -/
theorem ends (storage : Storage) (setup : Setup) (port : σ) :
    Ends Port.Call.Advances Port.Call.Stops storage setup port
      (Port.budget port + 2 * setup.demand storage + 1) := by
  have watched := run_observed storage setup port
  have same : (observedRun storage setup port).2.line.port.port =
      ((ofPort port).run storage setup).2.line.port := congrArg Line.port watched.state.line
  have paced : Wire.Paced (online (told (observedRun storage setup port).1)) ⟨⟨port, []⟩, {}⟩
      (observedRun storage setup port).2.line.wire := paced_of_run storage setup _
  have takes : Wire.Takes (setup.demand storage) ⟨⟨port, []⟩, {}⟩
      (observedRun storage setup port).2.line.wire := run_takes storage setup _
  refine ⟨?_, ?_, ?_⟩
  · rw [← same]
    exact paced.trail
  · intro through
    rw [← watched.result] at through
    rw [through] at paced
    rw [← same]
    exact paced.goes
  · have most : (observedRun storage setup port).2.line.wire.traffic.taken.length ≤ setup.demand storage := by
      rw [← Nat.zero_add (setup.demand storage)]
      exact takes
    apply Nat.le_trans paced.few
    omega

end Connection

namespace Queued

/-- The call uses up a stall, bytes of the queue, or bytes that are offered. -/
inductive Spends : Port.Call → Queued → Prop where
  | stall {count stalls : Nat} {q : Queued} : q.stalls = stalls + 1 →
      Port.read count q = (.error nothingYet, { q with stalls := stalls }) → Spends (.read count) q
  | front {count : Nat} {b : UInt8} {bytes rest : Bytes} {q : Queued} : q.incoming = b :: bytes ++ rest →
      Port.read count q = (.ok (b :: bytes), { q with incoming := rest }) → Spends (.read count) q
  | takes {bytes : Bytes} {k : Nat} {q : Queued} : (Port.write bytes q).1 = .ok (k + 1) → Spends (.write bytes) q
  | flushes {q : Queued} : Port.flush q = (.ok (), q) → Spends .flush q

/-- The call is made where nothing is left to be read, or on a line that is broken. -/
inductive Over : Port.Call → Queued → Prop where
  | closed {count : Nat} {q : Queued} : q.stalls = 0 → q.incoming = [] → (Port.read count q).1 = .ok [] →
      Over (.read count) q
  | broken {bytes : Bytes} {q : Queued} : q.room = some 0 → (Port.write bytes q).1 = .error cablePulled →
      Over (.write bytes) q

variable {c : Port.Call} {q : Queued}

theorem spends_of_advances (h : c.Advances q) : q.Spends c := by
  cases h with
  | @brings count bytes _ nonempty result =>
    cases hs : q.stalls with
    | succ stalls =>
      rw [read_of_stalls hs] at result
      cases result
    | zero =>
      obtain ⟨b, bytes, rfl⟩ := List.exists_cons_of_ne_nil nonempty
      have taken := Except.ok.inj ((congrArg Prod.fst (read_of_no_stalls hs)).symm.trans result)
      have cut : q.incoming = b :: bytes ++ q.incoming.drop (q.askFor count) := by
        rw [← taken, List.take_append_drop]
      refine .front cut ?_
      rw [read_of_no_stalls hs, taken]
  | @readsAgain count e _ _ result =>
    cases hs : q.stalls with
    | succ stalls => exact .stall hs (read_of_stalls hs)
    | zero =>
      rw [read_of_no_stalls hs] at result
      cases result
  | takes result => exact .takes result
  | @writesAgain bytes e _ transient result =>
    by_cases broken : q.room = some 0
    · rw [write_of_no_room broken] at result
      cases result
      cases transient
    · rw [write_of_room broken] at result
      cases result
  | flushes _ => exact .flushes rfl

/-- Limits are no reason to stop, not even limits of zero. -/
theorem over_of_stops (h : c.Stops q) : q.Over c := by
  obtain ⟨asks, offers, still⟩ := h
  cases c with
  | read count =>
    have none : q.stalls = 0 := by
      cases hs : q.stalls with
      | zero => rfl
      | succ stalls => exact absurd (.readsAgain rfl (congrArg Prod.fst (read_of_stalls hs))) still
    have result : (Port.read count q).1 = .ok (q.incoming.take (q.askFor count)) :=
      congrArg Prod.fst (read_of_no_stalls none)
    have nothing : q.incoming.take (q.askFor count) = [] := by
      by_contra some
      exact still (.brings some result)
    have some : q.askFor count ≠ 0 := askFor_ne_zero fun zero => asks (congrArg Port.Call.read zero)
    exact .closed none ((List.take_eq_nil_iff.1 nothing).resolve_left some) (nothing ▸ result)
  | write bytes =>
    by_cases broken : q.room = some 0
    · exact .broken broken (congrArg Prod.fst (write_of_no_room broken))
    · have some := takes_ne_nil (fun nothing => offers (congrArg Port.Call.write nothing)) broken
      obtain ⟨k, length⟩ := Nat.exists_eq_add_one.2 (List.length_pos_iff.2 some)
      have result : (Port.write bytes q).1 = .ok (k + 1) := by rw [write_of_room broken, length]
      exact absurd (.takes result) still
  | flush => exact absurd (.flushes rfl) still

end Queued

namespace Scripted

/-- The call uses up a fault that passes, bytes of the front piece, or bytes that are offered. -/
inductive Spends : Port.Call → Scripted → Prop where
  | readFault {count : Nat} {e : DeviceFault} {rest : List Piece} {s : Scripted} : e.isTransient = true →
      s.reads = .fault e :: rest → Port.read count s = (.error e, { s with reads := rest }) →
      Spends (.read count) s
  | front {count : Nat} {b : UInt8} {bytes back : Bytes} {rest : List Piece} {s : Scripted} :
      s.reads = .data (b :: bytes ++ back) :: rest →
      Port.read count s = (.ok (b :: bytes), { s with reads := Piece.putBack back rest }) → Spends (.read count) s
  | writeFault {bytes : Bytes} {e : DeviceFault} {rest : List Acceptance} {s : Scripted} : e.isTransient = true →
      s.writes = .fault e :: rest → Port.write bytes s = (.error e, { s with writes := rest }) →
      Spends (.write bytes) s
  | takes {bytes : Bytes} {k : Nat} {s : Scripted} : (Port.write bytes s).1 = .ok (k + 1) → Spends (.write bytes) s
  | flushes {s : Scripted} : (Port.flush s).1 = .ok () → Spends .flush s

/-- The call is made where the line is closed, finds no room, or meets a fault that stays. A flush is made once,
so that any fault stays. -/
inductive Over : Port.Call → Scripted → Prop where
  | closed {count : Nat} {s : Scripted} : s.reads = [] → (Port.read count s).1 = .ok [] → Over (.read count) s
  | hollow {count : Nat} {rest : List Piece} {s : Scripted} : s.reads = .data [] :: rest →
      (Port.read count s).1 = .ok [] → Over (.read count) s
  | unread {count : Nat} {e : DeviceFault} {rest : List Piece} {s : Scripted} : e.isTransient = false →
      s.reads = .fault e :: rest → (Port.read count s).1 = .error e → Over (.read count) s
  | full {bytes : Bytes} {rest : List Acceptance} {s : Scripted} : s.writes = .upTo 0 :: rest →
      (Port.write bytes s).1 = .ok 0 → Over (.write bytes) s
  | unwritten {bytes : Bytes} {e : DeviceFault} {rest : List Acceptance} {s : Scripted} : e.isTransient = false →
      s.writes = .fault e :: rest → (Port.write bytes s).1 = .error e → Over (.write bytes) s
  | unflushed {e : DeviceFault} {rest : List (Except DeviceFault Unit)} {s : Scripted} :
      s.flushes = .error e :: rest → (Port.flush s).1 = .error e → Over .flush s

variable {c : Port.Call} {s : Scripted}

theorem spends_of_advances (h : c.Advances s) : s.Spends c := by
  cases h with
  | @brings count bytes _ nonempty result =>
    obtain ⟨b, bytes, rfl⟩ := List.exists_cons_of_ne_nil nonempty
    rcases hs : s.reads with _ | ⟨data | e, rest⟩
    · rw [read_of_closed hs] at result
      cases result
    · have taken := Except.ok.inj ((congrArg Prod.fst (read_of_data hs)).symm.trans result)
      have cut : s.reads = .data (b :: bytes ++ data.drop count) :: rest := by
        rw [← taken, List.take_append_drop, hs]
      refine .front cut ?_
      rw [read_of_data hs, taken]
    · rw [read_of_fault hs] at result
      cases result
  | @readsAgain count e _ transient result =>
    rcases hs : s.reads with _ | ⟨data | e', rest⟩
    · rw [read_of_closed hs] at result
      cases result
    · rw [read_of_data hs] at result
      cases result
    · obtain rfl := Except.error.inj ((congrArg Prod.fst (read_of_fault hs)).symm.trans result)
      exact .readFault transient hs (read_of_fault hs)
  | takes result => exact .takes result
  | @writesAgain bytes e _ transient result =>
    rcases hs : s.writes with _ | ⟨most | e', rest⟩
    · rw [write_of_free hs] at result
      cases result
    · rw [write_of_upTo hs] at result
      cases result
    · obtain rfl := Except.error.inj ((congrArg Prod.fst (write_of_fault hs)).symm.trans result)
      exact .writeFault transient hs (write_of_fault hs)
  | flushes result => exact .flushes result

theorem over_of_stops (h : c.Stops s) : s.Over c := by
  obtain ⟨asks, offers, still⟩ := h
  cases c with
  | read count =>
    rcases hs : s.reads with _ | ⟨data | e, rest⟩
    · exact .closed hs (congrArg Prod.fst (read_of_closed hs))
    · have result : (Port.read count s).1 = .ok (data.take count) := congrArg Prod.fst (read_of_data hs)
      have nothing : data.take count = [] := by
        by_contra some
        exact still (.brings some result)
      have hollow : data = [] :=
        (List.take_eq_nil_iff.1 nothing).resolve_left fun zero => asks (congrArg Port.Call.read zero)
      rw [hollow] at hs
      exact .hollow hs (nothing ▸ result)
    · have result : (Port.read count s).1 = .error e := congrArg Prod.fst (read_of_fault hs)
      have stays : e.isTransient = false :=
        Bool.eq_false_iff.2 fun transient => still (.readsAgain transient result)
      exact .unread stays hs result
  | write bytes =>
    have some : bytes ≠ [] := fun nothing => offers (congrArg Port.Call.write nothing)
    rcases hs : s.writes with _ | ⟨most | e, rest⟩
    · obtain ⟨k, length⟩ := Nat.exists_eq_add_one.2 (List.length_pos_iff.2 some)
      have result : (Port.write bytes s).1 = .ok (k + 1) := by rw [write_of_free hs, length]
      exact absurd (.takes result) still
    · have result : (Port.write bytes s).1 = .ok (bytes.take most).length :=
        congrArg Prod.fst (write_of_upTo hs)
      cases taken : (bytes.take most).length with
      | zero =>
        have full : most = 0 := (List.take_eq_nil_iff.1 (List.length_eq_zero_iff.1 taken)).resolve_right some
        rw [full] at hs
        exact .full hs (taken ▸ result)
      | succ k => exact absurd (.takes (taken ▸ result)) still
    · have result : (Port.write bytes s).1 = .error e := congrArg Prod.fst (write_of_fault hs)
      have stays : e.isTransient = false :=
        Bool.eq_false_iff.2 fun transient => still (.writesAgain transient result)
      exact .unwritten stays hs result
  | flush =>
    rcases hs : s.flushes with _ | ⟨e | _, rest⟩
    · exact absurd (.flushes (congrArg Prod.fst (flush_of_free hs))) still
    · exact .unflushed hs (congrArg Prod.fst (flush_of_cons hs))
    · exact absurd (.flushes (congrArg Prod.fst (flush_of_cons hs))) still

end Scripted

namespace Connection

/-- A run ends, and so many calls are the most that it makes. On any port each call but the last gets the host on.
On a queued port this means that it uses up a stall, the queue or what is to be sent, and the last one may be made
at the end of the queue or on the broken line; on a scripted port it uses up the script or what is to be sent, and
the last one may be made at the end of the script or where an item stops it. -/
theorem run_over_finite_port_ends (storage : Storage) (setup : Setup) :
    (∀ (σ : Type) [Port σ] (port : σ),
      Ends Port.Call.Advances Port.Call.Stops storage setup port
        (Port.budget port + 2 * setup.demand storage + 1)) ∧
    (∀ q : Queued,
      Ends Queued.Spends Queued.Over storage setup q
        (q.stalls + q.incoming.length + 2 * setup.demand storage + 1)) ∧
    ∀ s : Scripted,
      Ends Scripted.Spends Scripted.Over storage setup s
        (Piece.totalWeight s.reads + s.writes.length + 2 * setup.demand storage + 1) := by
  refine ⟨?_, ?_, ?_⟩
  · intro σ _ port
    exact ends storage setup port
  · intro q
    exact (ends storage setup q).imp (fun _ _ => Queued.spends_of_advances) fun _ _ => Queued.over_of_stops
  · intro s
    exact (ends storage setup s).imp (fun _ _ => Scripted.spends_of_advances) fun _ _ => Scripted.over_of_stops

/-- A limit of zero lets through one byte at a time, until the cable is pulled. -/
example :
    callsOf noFiles { skipWait := true } ({ incoming := [], writeLimit := some 0, room := some 3 } : Queued) =
      (List.range 4).map fun k => .write (Protocol.magic.drop k) := by
  cbv

end Connection

end BootHost
