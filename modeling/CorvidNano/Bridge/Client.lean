import CorvidNano.Bridge.JsonRpc
import CorvidNano.Library.Runs
import Mathlib.Data.List.Basic

/-!
# Calls of the Rust plugin bridge

`PluginBridge::call` in `bridge.rs` holds the connection's lock while it writes one request line
and reads one reply line, for at most 30 s. It never compares the reply's `id` with its own.
The machine below has the client, the reply stream of its current connection, and a host that
answers the requests of a connection in order. The environment decides how fast the host
answers, in which pieces a line is read, and when a read is given up.

`replies_correlated` is the main result, for runs in which a connection is not used again after
a call on it gave up reading. `late_reply_misattributed` is what happens otherwise.
-/

namespace CorvidNano.Bridge.Client

open Runs

/-- What a call returns: the value of `Ok`, the text of a `plugin host error`, or one of the
errors that the client makes itself. -/
inductive Outcome (Value : Type*) where
  | ok (value : Value)
  | hostError (text : String)
  | notConnected
  | writeError
  | timeout
  | readError
  | hostClosed
  | invalidResponse
  deriving DecidableEq

/-- The outcome reports a reply of the host. -/
def Outcome.isReply {Value : Type*} : Outcome Value → Bool
  | .ok _ | .hostError _ => true
  | _ => false

/-- The byte that ends a line. -/
def newline : UInt8 := 10

/-- What lies outside the client: the decoder of reply lines and its `null`, and the host's reply
to the request with a given number, which is one line. -/
structure Wire (Value : Type*) where
  decode : List UInt8 → Option (JsonRpcResponse Value)
  null : Value
  reply : Nat → List UInt8
  reply_one_line : ∀ id, newline ∉ reply id

/-- The bridge's current connection: the requests that the host has not answered, the reply
bytes that the client has not read, whether the host has closed its end, and whether a call on
the connection gave up before it had read its reply line. The last is a record of the run. -/
structure Connection where
  owed : List Nat
  unread : List UInt8
  closed : Bool
  abandoned : Bool
  deriving DecidableEq

/-- A connection that was just made. -/
def Connection.fresh : Connection where
  owed := []
  unread := []
  closed := false
  abandoned := false

/-- The bridge: its connection, its request counter, the call that is reading its reply line
with the bytes it has so far, and the outcomes of the calls that have returned. -/
structure PluginBridge (Value : Type*) where
  conn : Option Connection
  nextId : Nat
  reading : Option (Nat × List UInt8)
  results : List (Nat × Outcome Value)
  deriving DecidableEq

/-- `PluginBridge::new`. -/
def PluginBridge.start {Value : Type*} : PluginBridge Value where
  conn := none
  nextId := 1
  reading := none
  results := []

/-- The moves of the client, of the host and of the socket. -/
inductive Event where
  | connect
  | call
  | writeError
  | answer
  | close
  | read
  | timeout
  | readError
  deriving DecidableEq

variable {Value : Type*}

/-- What a call makes of the line it has read. -/
def Wire.outcome (wire : Wire Value) (line : List UInt8) : Outcome Value :=
  match wire.decode line with
  | none => .invalidResponse
  | some response =>
      match response.error with
      | some text => .hostError text
      | none => .ok (response.result.getD wire.null)

/-- The reading call returns and releases the connection. -/
def PluginBridge.finish (bridge : PluginBridge Value) (conn : Option Connection) (id : Nat)
    (outcome : Outcome Value) : PluginBridge Value :=
  { bridge with conn, reading := none, results := (id, outcome) :: bridge.results }

/-- The call takes the lock and writes its request line, or fails at once. -/
def callStep (bridge : PluginBridge Value) : Option (PluginBridge Value) :=
  match bridge.reading, bridge.conn with
  | some _, _ => none
  | none, none =>
      some { bridge.finish none bridge.nextId .notConnected with nextId := bridge.nextId + 1 }
  | none, some conn =>
      some { bridge with
        conn := some { conn with owed := conn.owed ++ [bridge.nextId] }
        nextId := bridge.nextId + 1
        reading := some (bridge.nextId, []) }

/-- One more step of `read_line`: a byte of the line, its last byte, or the end of the stream. -/
def readStep (wire : Wire Value) (bridge : PluginBridge Value) : Option (PluginBridge Value) :=
  match bridge.reading, bridge.conn with
  | some (id, line), some conn =>
      match conn.unread with
      | byte :: unread =>
          if byte = newline then
            some (bridge.finish (some { conn with unread }) id (wire.outcome (line ++ [byte])))
          else
            some { bridge with
              conn := some { conn with unread }
              reading := some (id, line ++ [byte]) }
      | [] =>
          if conn.closed = false then none
          else if line = [] then some (bridge.finish none id .hostClosed)
          else some (bridge.finish (some conn) id (wire.outcome line))
  | _, _ => none

/-- The reading call gives up. The bytes it has read are lost and the connection stays. -/
def abandonStep (bridge : PluginBridge Value) (outcome : Outcome Value) : Option (PluginBridge Value) :=
  match bridge.reading, bridge.conn with
  -- `self.conn` is left as it is, with the reply still to come.
  | some (id, _), some conn =>
      some (bridge.finish (some { conn with abandoned := true }) id outcome)
  | _, _ => none

/-- The host answers the first request that it has not answered. -/
def answerStep (wire : Wire Value) (bridge : PluginBridge Value) : Option (PluginBridge Value) :=
  match bridge.conn with
  | none => none
  | some conn =>
      match conn.owed with
      | [] => none
      | id :: owed =>
          if conn.closed then none
          else some { bridge with
            conn := some { conn with owed, unread := conn.unread ++ wire.reply id ++ [newline] } }

/-- One step of the client, the host or the socket. -/
def step (wire : Wire Value) (bridge : PluginBridge Value) : Event → Option (PluginBridge Value)
  | .connect =>
      if bridge.reading.isNone then some { bridge with conn := some .fresh } else none
  | .call => callStep bridge
  | .writeError =>
      if bridge.reading.isNone && bridge.conn.isSome then
        some { bridge.finish bridge.conn bridge.nextId .writeError with
          nextId := bridge.nextId + 1 }
      else none
  | .answer => answerStep wire bridge
  | .close => bridge.conn.map fun conn => { bridge with conn := some { conn with closed := true } }
  | .read => readStep wire bridge
  | .timeout => abandonStep bridge .timeout
  | .readError => abandonStep bridge .readError

/-- Every returned call that reports a reply reports the host's reply to its own request. -/
def Correlated (wire : Wire Value) (bridge : PluginBridge Value) : Prop :=
  ∀ id outcome, (id, outcome) ∈ bridge.results → outcome.isReply = true →
    outcome = wire.outcome (wire.reply id ++ [newline])

/-- No request is written to a connection on which a call gave up reading. -/
def NotReused (bridge : PluginBridge Value) (event : Event) : Prop :=
  event = .call → ∀ conn ∈ bridge.conn, conn.abandoned = false

/-- `NotReused` is decided on the current connection. -/
instance (bridge : PluginBridge Value) (event : Event) : Decidable (NotReused bridge event) :=
  inferInstanceAs (Decidable (_ → _))

/-! ## The invariant of runs that never reuse an abandoned connection -/

/-- The reading call and its connection: either the host still owes the one reply, or the bytes
read and unread together are that reply's line. -/
def Awaits (wire : Wire Value) (conn : Connection) (id : Nat) (line : List UInt8) : Prop :=
  newline ∉ line ∧
    (conn.owed = [id] ∧ conn.unread = [] ∧ line = [] ∨
      conn.owed = [] ∧ line ++ conn.unread = wire.reply id ++ [newline])

/-- Outside a call a connection that was never abandoned carries no reply. A reading call is on
such a connection and awaits its own reply. -/
structure Aligned (wire : Wire Value) (bridge : PluginBridge Value) : Prop where
  idle : bridge.reading = none → ∀ conn ∈ bridge.conn, conn.abandoned = false →
    conn.owed = [] ∧ conn.unread = []
  busy : ∀ id line, bridge.reading = some (id, line) → ∃ conn, bridge.conn = some conn ∧
    conn.abandoned = false ∧ Awaits wire conn id line
  correlated : Correlated wire bridge

/-- A new outcome that is no reply, or the reply to its own request, keeps the results
correlated. -/
theorem Correlated.cons {wire : Wire Value} {bridge next : PluginBridge Value} {id : Nat}
    {outcome : Outcome Value} (h : Correlated wire bridge)
    (hresults : next.results = (id, outcome) :: bridge.results)
    (houtcome : outcome.isReply = true → outcome = wire.outcome (wire.reply id ++ [newline])) :
    Correlated wire next := by
  intro other found hmem hreply
  rw [hresults] at hmem
  rcases List.mem_cons.mp hmem with heq | hmem
  · cases heq
    exact houtcome hreply
  · exact h other found hmem hreply

/-- The first newline of a reply line is its last byte. -/
theorem line_complete (wire : Wire Value) {id : Nat} {line unread : List UInt8}
    (hline : line ++ newline :: unread = wire.reply id ++ [newline]) :
    line = wire.reply id ∧ unread = [] := by
  have hnil : newline ∉ ([] : List UInt8) := by simp
  obtain ⟨hreply, _, hunread⟩ :=
    (List.append_cons_inj_of_notMem (wire.reply_one_line id) hnil).mp hline.symm
  exact ⟨hreply.symm, hunread.symm⟩

/-- A call that starts on a connection without replies awaits its own. -/
theorem Aligned.call {wire : Wire Value} {bridge next : PluginBridge Value}
    (h : Aligned wire bridge) (hreuse : NotReused bridge .call)
    (hstep : callStep bridge = some next) : Aligned wire next := by
  unfold callStep at hstep
  split at hstep
  · cases hstep
  · rename_i hreading hconn
    cases hstep
    refine ⟨fun _ conn hmem => ?_, fun _ _ hbusy => ?_, ?_⟩
    · simp [PluginBridge.finish] at hmem
    · simp [PluginBridge.finish] at hbusy
    · exact h.correlated.cons rfl (by simp [Outcome.isReply])
  · rename_i conn hreading hconn
    cases hstep
    have hfresh := hreuse rfl conn hconn
    obtain ⟨howed, hunread⟩ := h.idle hreading conn hconn hfresh
    refine ⟨fun hidle => absurd hidle (by simp), fun id line hbusy => ?_, h.correlated⟩
    cases hbusy
    exact ⟨_, rfl, hfresh, by simp, .inl ⟨by simp [howed], hunread, rfl⟩⟩

/-- The host's answer to the one request that it owes puts that reply in the stream. -/
theorem Aligned.answer {wire : Wire Value} {bridge next : PluginBridge Value}
    (h : Aligned wire bridge) (hstep : answerStep wire bridge = some next) :
    Aligned wire next := by
  unfold answerStep at hstep
  split at hstep
  · cases hstep
  · rename_i conn hconn
    split at hstep
    · cases hstep
    · rename_i id owed howed
      split at hstep
      · cases hstep
      · cases hstep
        refine ⟨fun hidle other hother hfresh => ?_, fun busyId line hbusy => ?_, h.correlated⟩
        · -- An idle connection that owes a reply was abandoned.
          cases hother
          have hnone := (h.idle hidle conn hconn hfresh).1
          simp [howed] at hnone
        · obtain ⟨other, hother, hfresh, hline, hawaits⟩ := h.busy busyId line hbusy
          cases hconn.symm.trans hother
          refine ⟨_, rfl, hfresh, hline, .inr ?_⟩
          rcases hawaits with ⟨howed', hunread, rfl⟩ | ⟨howed', _⟩
          · cases howed.symm.trans howed'
            simp [hunread]
          · cases howed.symm.trans howed'

/-- Reading moves along the call's own reply line and returns it at its end. -/
theorem Aligned.read {wire : Wire Value} {bridge next : PluginBridge Value}
    (h : Aligned wire bridge) (hstep : readStep wire bridge = some next) :
    Aligned wire next := by
  unfold readStep at hstep
  split at hstep
  · rename_i id line conn hreading hconn
    obtain ⟨other, hother, hfresh, hline, hawaits⟩ := h.busy id line hreading
    cases hconn.symm.trans hother
    split at hstep
    · rename_i byte unread hunread
      have howed : conn.owed = [] ∧ line ++ byte :: unread = wire.reply id ++ [newline] := by
        rcases hawaits with ⟨_, hnil, _⟩ | ⟨howed, hbytes⟩
        · cases hunread.symm.trans hnil
        · exact ⟨howed, hunread ▸ hbytes⟩
      obtain ⟨howed, hbytes⟩ := howed
      split at hstep
      · -- The line is complete, and with it the host's reply.
        rename_i hbyte
        cases hstep
        subst hbyte
        obtain ⟨rfl, rfl⟩ := line_complete wire hbytes
        refine ⟨fun _ conn hmem _ => ?_, fun _ _ hbusy => ?_, ?_⟩
        · cases hmem
          exact ⟨howed, rfl⟩
        · cases hbusy
        · exact h.correlated.cons rfl fun _ => rfl
      · rename_i hbyte
        cases hstep
        refine ⟨fun hidle => absurd hidle (by simp), fun busyId longer hbusy => ?_, h.correlated⟩
        cases hbusy
        refine ⟨_, rfl, hfresh, ?_, .inr ⟨howed, by simpa using hbytes⟩⟩
        simp [hline, Ne.symm hbyte]
    · rename_i hunread
      split at hstep
      · cases hstep
      · split at hstep
        · cases hstep
          refine ⟨fun _ conn hmem => ?_, fun _ _ hbusy => ?_, ?_⟩
          · simp [PluginBridge.finish] at hmem
          · cases hbusy
          · exact h.correlated.cons rfl (by simp [Outcome.isReply])
        · -- The stream ends inside a line, which a host that writes whole lines never does.
          rename_i hne
          rcases hawaits with ⟨_, _, hnil⟩ | ⟨_, hbytes⟩
          · exact absurd hnil hne
          · rw [hunread, List.append_nil] at hbytes
            exact absurd (by simp [hbytes]) hline
  · cases hstep

/-- Giving up a read marks the connection, so that nothing is claimed of it any more. -/
theorem Aligned.abandon {wire : Wire Value} {bridge next : PluginBridge Value}
    {outcome : Outcome Value} (h : Aligned wire bridge) (houtcome : outcome.isReply = false)
    (hstep : abandonStep bridge outcome = some next) : Aligned wire next := by
  unfold abandonStep at hstep
  split at hstep
  · cases hstep
    refine ⟨fun _ conn hmem hfresh => ?_, fun _ _ hbusy => ?_, ?_⟩
    · cases hmem
      cases hfresh
    · cases hbusy
    · exact h.correlated.cons rfl (by simp [houtcome])
  · cases hstep

/-- Every step that respects the condition keeps the bridge aligned with its connection. -/
theorem Aligned.step {wire : Wire Value} {bridge next : PluginBridge Value} {event : Event}
    (h : Aligned wire bridge) (hreuse : NotReused bridge event)
    (hstep : step wire bridge event = some next) : Aligned wire next := by
  cases event with
  | connect =>
      simp only [Client.step, Option.isNone_iff_eq_none, Option.ite_none_right_eq_some,
        Option.some.injEq] at hstep
      obtain ⟨hreading, rfl⟩ := hstep
      refine ⟨fun _ conn hmem _ => ?_, fun id line hbusy => ?_, h.correlated⟩
      · cases hmem
        exact ⟨rfl, rfl⟩
      · cases hreading.symm.trans hbusy
  | call => exact h.call hreuse hstep
  | writeError =>
      simp only [Client.step, Bool.and_eq_true, Option.isNone_iff_eq_none,
        Option.ite_none_right_eq_some, Option.some.injEq] at hstep
      obtain ⟨⟨hreading, _⟩, rfl⟩ := hstep
      refine ⟨fun _ => h.idle hreading, fun _ _ hbusy => ?_, ?_⟩
      · cases hbusy
      · exact h.correlated.cons rfl (by simp [Outcome.isReply])
  | answer => exact h.answer hstep
  | close =>
      simp only [Client.step, Option.map_eq_some_iff] at hstep
      obtain ⟨conn, hconn, rfl⟩ := hstep
      refine ⟨fun hidle other hother hfresh => ?_, fun id line hbusy => ?_, h.correlated⟩
      · cases hother
        exact h.idle hidle conn hconn hfresh
      · obtain ⟨other, hother, hfresh, hawaits⟩ := h.busy id line hbusy
        cases hconn.symm.trans hother
        exact ⟨_, rfl, hfresh, hawaits⟩
  | read => exact h.read hstep
  | timeout => exact h.abandon rfl hstep
  | readError => exact h.abandon rfl hstep

/-- A new bridge has no connection and no results. -/
theorem aligned_start (wire : Wire Value) : Aligned wire (.start : PluginBridge Value) := by
  refine ⟨fun _ conn hmem => ?_, fun _ _ hbusy => ?_, fun _ _ hmem => ?_⟩
  · simp [PluginBridge.start] at hmem
  · cases hbusy
  · simp [PluginBridge.start] at hmem

/-! ## Replies belong to their requests -/

/-- In runs in which no request is written to a connection after a call on it gave up reading,
every call that returns a reply returns the host's reply to its own request. -/
theorem replies_correlated {wire : Wire Value} {events : List Event}
    {bridge : PluginBridge Value}
    (hrun : run (restrict (step wire) NotReused) .start events = some bridge) :
    Correlated wire bridge :=
  (run_restrict_invariant (fun h hreuse hstep => h.step hreuse hstep)
    (aligned_start wire) hrun).correlated

/-- The bytes of an ASCII text. -/
def ascii (text : String) : List UInt8 :=
  text.toList.map fun c => c.toNat.toUInt8

/-- The reply line of `handle_request` whose result and id are both the number. -/
def numberReply (number : String) : List UInt8 :=
  ascii ("\x7b\"result\":" ++ number ++ ",\"error\":null,\"id\":" ++ number ++ "\x7d")

/-- A host that replies to the first request with 1 and to every other with 2, and a decoder of
these two lines. -/
def numberWire : Wire Nat where
  decode line :=
    [(numberReply "1" ++ [newline], ⟨some 1, none, some 1⟩),
      (numberReply "2" ++ [newline], ⟨some 2, none, some 2⟩)].lookup line
  null := 0
  reply id := if id = 1 then numberReply "1" else numberReply "2"
  reply_one_line id := by
    split <;> decide

/-- The bridge after a timed-out call, a reconnect and a call that was answered. -/
def reconnectedBridge : PluginBridge Nat where
  conn := some .fresh
  nextId := 3
  reading := none
  results := [(2, .ok 2), (1, .timeout)]

/-- `replies_correlated` for a bridge that reconnects after a timeout. -/
theorem replies_correlated_reconnected : Correlated numberWire reconnectedBridge := by
  have hrun : run (restrict (step numberWire) NotReused) .start
      ([.connect, .call, .timeout, .connect, .call, .answer] ++ List.replicate 33 .read) =
        some reconnectedBridge := by
    decide
  exact replies_correlated hrun

/-- The reply to a call that timed out is returned by the next call on the connection. -/
theorem late_reply_misattributed :
    ∃ events bridge, run (step numberWire) .start events = some bridge ∧
      (2, Outcome.ok 1) ∈ bridge.results ∧ ¬ Correlated numberWire bridge := by
  refine ⟨[.connect, .call, .timeout, .answer, .call] ++ List.replicate 33 .read, _, rfl,
    by decide, fun hcorrelated => ?_⟩
  exact absurd (hcorrelated 2 (.ok 1) (by decide) rfl) (by decide)

end CorvidNano.Bridge.Client
