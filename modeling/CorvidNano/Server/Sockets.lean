import Mathlib.Logic.Function.Basic

/-!
# Sockets of the TypeScript bridge

The part of `rust-bridge.ts` that makes and drops connections: `this.socket`, the sockets that
were created, and the timer of the next attempt. The handlers of all sockets write the same
fields. `Single` says that only one socket is in use, and each lemma `single_…` what has to hold
for a handler to keep it.
-/

namespace CorvidNano.Server.Sockets

/-- A socket: it was not created, it is connecting, it is open, it is destroyed and its `close`
event is to come, or that event is over. -/
inductive Phase where
  | absent
  | connecting
  | opened
  | destroyed
  | closed
  deriving DecidableEq

/-- A socket that is open or being opened. -/
def Phase.live : Phase → Bool
  | .connecting | .opened => true
  | _ => false

/-- `this.socket`, the phases of the sockets by their numbers, the number of the next one, whether
there is a `reconnectTimer`, and `this.closed`. -/
structure Link where
  socket : Option Nat
  phase : Nat → Phase
  nextSocket : Nat
  reconnectTimer : Bool
  closed : Bool

/-- The sockets of a new bridge. -/
def Link.start : Link where
  socket := none
  phase _ := .absent
  nextSocket := 0
  reconnectTimer := false
  closed := false

/-- `connected`. -/
def Link.connected (link : Link) : Bool :=
  match link.socket with
  | some i => (link.phase i).live
  | none => false

/-- `socket.destroy()`. -/
def Link.destroy (link : Link) (i : Nat) : Link :=
  if (link.phase i).live then { link with phase := Function.update link.phase i .destroyed }
  else link

/-- `this.socket?.destroy()`. -/
def Link.destroySocket (link : Link) : Link :=
  match link.socket with
  | some i => link.destroy i
  | none => link

/-- `scheduleReconnect`. -/
def Link.scheduleReconnect (link : Link) : Link :=
  if link.closed || link.reconnectTimer then link else { link with reconnectTimer := true }

/-- `doConnect`. -/
def Link.doConnect (link : Link) : Link :=
  { link with
    phase := Function.update link.phase link.nextSocket .connecting
    nextSocket := link.nextSocket + 1 }

/-- `connect`. -/
def Link.connect (link : Link) : Link := { link with closed := false }.doConnect

/-- The callback of the `reconnectTimer`. -/
def Link.reconnect (link : Link) : Link := { link with reconnectTimer := false }.doConnect

/-- The part of `disconnect` for the sockets. -/
def Link.disconnect (link : Link) : Link :=
  { { link with closed := true, reconnectTimer := false }.destroySocket with socket := none }

/-- A socket is connected, and its handler takes it. -/
def Link.handleConnect (link : Link) (i : Nat) : Link :=
  { link with phase := Function.update link.phase i .opened, socket := some i }

/-- A socket fails, with the handler of `error`. -/
def Link.handleError (link : Link) (i : Nat) : Link :=
  match link.socket with
  | none => (link.destroy i).scheduleReconnect
  | some _ => link.destroy i

/-- A socket is closed, with the handler of `close`, which does not ask whose event it is. -/
def Link.handleClose (link : Link) (i : Nat) : Link :=
  { link with
    phase := Function.update link.phase i .closed
    socket := none }.scheduleReconnect

/-- At most one socket is open or being opened, and an open one is `this.socket`. -/
structure Single (link : Link) : Prop where
  created : ∀ i, (link.phase i).live = true → i < link.nextSocket
  live_unique : ∀ i j, (link.phase i).live = true → (link.phase j).live = true → i = j
  open_current : ∀ i, link.phase i = .opened → link.socket = some i

/-- No socket that was created is open or being opened. -/
def Link.Idle (link : Link) : Prop := ∀ i < link.nextSocket, (link.phase i).live = false

instance (link : Link) : Decidable link.Idle :=
  inferInstanceAs (Decidable (∀ i < link.nextSocket, _))

variable {link : Link}

theorem single_start : Single .start where
  created i h := by cases h
  live_unique i j h := by cases h
  open_current i h := by cases h

/-! ## What the functions do -/

@[simp] theorem phase_do_connect (i : Nat) :
    link.doConnect.phase i = if i = link.nextSocket then .connecting else link.phase i :=
  Function.update_apply ..

@[simp] theorem phase_destroy (i j : Nat) :
    (link.destroy i).phase j =
      if j = i ∧ (link.phase i).live = true then .destroyed else link.phase j := by
  unfold Link.destroy
  split
  · rename_i hlive
    simp [Function.update_apply, hlive]
  · rename_i hlive
    simp [hlive]

@[simp] theorem socket_destroy (i : Nat) : (link.destroy i).socket = link.socket := by
  unfold Link.destroy
  split <;> rfl

@[simp] theorem phase_destroy_socket (j : Nat) :
    link.destroySocket.phase j =
      if link.socket = some j ∧ (link.phase j).live = true then .destroyed else link.phase j := by
  unfold Link.destroySocket
  split
  · rename_i i hsocket
    rw [phase_destroy, hsocket]
    by_cases heq : j = i
    · subst heq
      simp
    · simp [heq, Ne.symm heq]
  · rename_i hsocket
    simp [hsocket]

@[simp] theorem next_socket_destroy (i : Nat) :
    (link.destroy i).nextSocket = link.nextSocket := by
  unfold Link.destroy
  split <;> rfl

@[simp] theorem next_socket_destroy_socket : link.destroySocket.nextSocket = link.nextSocket := by
  unfold Link.destroySocket
  split
  · exact next_socket_destroy _
  · rfl

@[simp] theorem socket_destroy_socket : link.destroySocket.socket = link.socket := by
  unfold Link.destroySocket
  split
  · exact socket_destroy _
  · rfl

@[simp] theorem phase_schedule_reconnect : link.scheduleReconnect.phase = link.phase := by
  unfold Link.scheduleReconnect
  split <;> rfl

@[simp] theorem socket_schedule_reconnect : link.scheduleReconnect.socket = link.socket := by
  unfold Link.scheduleReconnect
  split <;> rfl

@[simp] theorem next_socket_schedule_reconnect :
    link.scheduleReconnect.nextSocket = link.nextSocket := by
  unfold Link.scheduleReconnect
  split <;> rfl

@[simp] theorem phase_disconnect (j : Nat) :
    link.disconnect.phase j =
      if link.socket = some j ∧ (link.phase j).live = true then .destroyed else link.phase j :=
  phase_destroy_socket j

@[simp] theorem phase_handle_connect (i j : Nat) :
    (link.handleConnect i).phase j = if j = i then .opened else link.phase j :=
  Function.update_apply ..

@[simp] theorem phase_handle_error (i j : Nat) :
    (link.handleError i).phase j =
      if j = i ∧ (link.phase i).live = true then .destroyed else link.phase j := by
  unfold Link.handleError
  split
  · rw [phase_schedule_reconnect, phase_destroy]
  · exact phase_destroy i j

@[simp] theorem socket_handle_error (i : Nat) : (link.handleError i).socket = link.socket := by
  unfold Link.handleError
  split
  · rw [socket_schedule_reconnect, socket_destroy]
  · exact socket_destroy i

@[simp] theorem phase_handle_close (i j : Nat) :
    (link.handleClose i).phase j = if j = i then .closed else link.phase j := by
  rw [Link.handleClose, phase_schedule_reconnect]
  exact Function.update_apply ..

@[simp] theorem socket_handle_close (i : Nat) : (link.handleClose i).socket = none :=
  socket_schedule_reconnect

@[simp] theorem next_socket_disconnect : link.disconnect.nextSocket = link.nextSocket :=
  next_socket_destroy_socket

@[simp] theorem next_socket_handle_error (i : Nat) :
    (link.handleError i).nextSocket = link.nextSocket := by
  unfold Link.handleError
  split
  · rw [next_socket_schedule_reconnect, next_socket_destroy]
  · exact next_socket_destroy i

@[simp] theorem next_socket_handle_close (i : Nat) :
    (link.handleClose i).nextSocket = link.nextSocket :=
  next_socket_schedule_reconnect

@[simp] theorem closed_destroy_socket : link.destroySocket.closed = link.closed := by
  unfold Link.destroySocket Link.destroy
  split
  · split <;> rfl
  · rfl

@[simp] theorem reconnect_timer_destroy_socket :
    link.destroySocket.reconnectTimer = link.reconnectTimer := by
  unfold Link.destroySocket Link.destroy
  split
  · split <;> rfl
  · rfl

/-- A bridge that was disconnected schedules no connection. -/
theorem schedule_reconnect_of_closed (h : link.closed = true) : link.scheduleReconnect = link := by
  rw [Link.scheduleReconnect, h]
  rfl

/-- A bridge that was disconnected has nothing left to disconnect. -/
theorem disconnect_of_closed (hclosed : link.closed = true) (hsocket : link.socket = none)
    (htimer : link.reconnectTimer = false) : link.disconnect = link := by
  obtain ⟨socket, phase, nextSocket, reconnectTimer, closed⟩ := link
  obtain rfl : closed = true := hclosed
  obtain rfl : socket = none := hsocket
  obtain rfl : reconnectTimer = false := htimer
  rfl

/-- After `disconnect` a `close` event schedules no connection. -/
theorem handle_close_of_closed (h : link.closed = true) (i : Nat) :
    link.handleClose i =
      { link with phase := Function.update link.phase i .closed, socket := none } :=
  schedule_reconnect_of_closed (by exact h)

/-! ## One socket in use -/

/-- A link with fewer live sockets and the same `this.socket`. -/
theorem single_of_live {other : Link} (h : Single link)
    (hnext : other.nextSocket = link.nextSocket)
    (hlive : ∀ i, (other.phase i).live = true → other.phase i = link.phase i)
    (hsocket : ∀ i, other.phase i = .opened → other.socket = link.socket) : Single other where
  created i hi := by
    rw [hnext]
    exact h.created i (hlive i hi ▸ hi)
  live_unique i j hi hj := by
    refine h.live_unique i j ?_ ?_
    · rw [← hlive i hi]
      exact hi
    · rw [← hlive j hj]
      exact hj
  open_current i hi := by
    rw [hsocket i hi]
    refine h.open_current i ?_
    rw [← hlive i (by rw [hi]; rfl), hi]

theorem single_destroy (h : Single link) (i : Nat) : Single (link.destroy i) := by
  refine single_of_live h (next_socket_destroy i) (fun j hj => ?_) fun j _ => socket_destroy i
  rw [phase_destroy] at hj ⊢
  split at hj
  · cases hj
  · rename_i hother
    rw [if_neg hother]

theorem single_destroy_socket (h : Single link) : Single link.destroySocket := by
  unfold Link.destroySocket
  split
  · exact single_destroy h _
  · exact h

theorem single_schedule_reconnect (h : Single link) : Single link.scheduleReconnect :=
  single_of_live h next_socket_schedule_reconnect (fun _ _ => by rw [phase_schedule_reconnect])
    fun _ _ => by simp

/-- A new socket is the only one if no other one is in use. -/
theorem single_do_connect (h : Single link) (hidle : link.Idle) : Single link.doConnect := by
  have hdead : ∀ i, (link.phase i).live ≠ true := by
    intro i hi
    have hfalse := hidle i (h.created i hi)
    rw [hi] at hfalse
    cases hfalse
  have hnew : ∀ i, (link.doConnect.phase i).live = true → i = link.nextSocket := by
    intro i hi
    rw [phase_do_connect] at hi
    split at hi
    · assumption
    · exact absurd hi (hdead i)
  refine ⟨fun i hi => ?_, fun i j hi hj => ?_, fun i hi => ?_⟩
  · rw [hnew i hi]
    exact Nat.lt_succ_self _
  · rw [hnew i hi, hnew j hj]
  · rw [phase_do_connect] at hi
    split at hi
    · cases hi
    · exact absurd (by rw [hi]; rfl) (hdead i)

/-- After `disconnect` no socket is open, since the open one was `this.socket`. -/
theorem single_disconnect (h : Single link) : Single link.disconnect := by
  refine single_of_live h next_socket_destroy_socket (fun j hj => ?_) fun j hj => ?_
  · rw [phase_disconnect] at hj ⊢
    split at hj
    · cases hj
    · rename_i hother
      rw [if_neg hother]
  · rw [phase_disconnect] at hj
    split at hj
    · cases hj
    · rename_i hother
      exact absurd ⟨h.open_current j hj, by rw [hj]; rfl⟩ hother

/-- The socket that is connected is the one that was connecting. -/
theorem single_handle_connect (h : Single link) {i : Nat} (hi : link.phase i = .connecting) :
    Single (link.handleConnect i) := by
  have hlive : ∀ j, ((link.handleConnect i).phase j).live = true → j = i := by
    intro j hj
    rw [phase_handle_connect] at hj
    split at hj
    · assumption
    · exact h.live_unique j i hj (by rw [hi]; rfl)
  refine ⟨fun j hj => ?_, fun j k hj hk => by rw [hlive j hj, hlive k hk], fun j hj => ?_⟩
  · rw [hlive j hj]
    exact h.created i (by rw [hi]; rfl)
  · rw [hlive j (by rw [hj]; rfl)]
    rfl

theorem single_handle_error (h : Single link) (i : Nat) : Single (link.handleError i) := by
  unfold Link.handleError
  split
  · exact single_schedule_reconnect (single_destroy h i)
  · exact single_destroy h i

/-- A socket that is closed is the current one, or there is no current one. -/
theorem single_handle_close (h : Single link) {i : Nat}
    (hi : link.socket = none ∨ link.socket = some i) : Single (link.handleClose i) := by
  refine single_of_live h next_socket_schedule_reconnect (fun j hj => ?_) fun j hj => ?_
  · rw [phase_handle_close] at hj ⊢
    split at hj
    · cases hj
    · rename_i hother
      rw [if_neg hother]
  · rw [phase_handle_close] at hj
    split at hj
    · cases hj
    · rename_i hother
      have hcurrent := h.open_current j hj
      rcases hi with hnone | hsome
      · rw [hnone] at hcurrent
        cases hcurrent
      · rw [hsome] at hcurrent
        exact absurd (Option.some.inj hcurrent).symm hother

end CorvidNano.Server.Sockets
