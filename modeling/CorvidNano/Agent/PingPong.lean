import CorvidNano.Agent.MessageLoop
import CorvidNano.Library.Runs
import Mathlib.Data.List.Infix

/-!
# Two agents that answer each other

Two copies of the program in hub mode, each with the message loop of `agent.rs` or with the
plugin runtime's `HubPlugin`, whose on-chain messages are the other's input. A step is one agent
handling its next message, with whatever its hub answers and whichever of its transactions go
through.

Neither receive path looks for the error texts that the program itself sends, so an error reply
is answered like any other message. `exchange_goes_on` is the main result: what a message gets
as an answer depends on the hub alone, and while transactions go through and no loop panics, the
messages under way never become fewer.
-/

namespace CorvidNano.Agent.PingPong

open HubClient MessageLoop Runs

/-- The text that `HubPlugin` sends when the hub gives no response. -/
def hubPluginError : String :=
  "[error] Agent hub is unreachable or timed out."

/-- `HubPlugin::handle_event` on a received message. -/
def hubPluginReply (hub : Hub) (hubUrl : String) (msg : Message) : Reply :=
  match forwardAndGetResponse hub hubUrl msg.sender msg.content with
  | some response => ⟨msg.sender, response⟩
  | none => ⟨msg.sender, hubPluginError⟩

/-- A rule of the auto-reply plugin. -/
structure Rule where
  pattern : String
  reply : String

/-- `AutoReplyPlugin::handle_event` on a received message. The runtime always loads this plugin,
by default without rules. -/
def autoReply (lowercase : String → String) (msg : Message) : List Rule → List Reply
  | [] => []
  | rule :: rest =>
      if (lowercase rule.pattern).toList <:+: (lowercase msg.content).toList then
        [⟨msg.sender, rule.reply⟩]
      else autoReply lowercase msg rest

/-- What an agent in hub mode runs: the message loop, at a log level, or the plugin runtime. -/
inductive Program where
  | messageLoop (infoEnabled : Bool)
  | runtime (rules : List Rule)

/-- An agent in hub mode. -/
structure Peer where
  address : String
  hubUrl : String
  program : Program

/-- The handling of one message by an agent. The runtime asks its plugins in the order in which
they are loaded. -/
def Peer.handle (lowercase : String → String) (agent : Peer) (msg : Message) (hub : Hub) :
    Handled :=
  match agent.program with
  | .messageLoop infoEnabled =>
      handleMessage { hubUrl := some agent.hubUrl, infoEnabled } msg hub
  | .runtime rules =>
      { replies := hubPluginReply hub agent.hubUrl msg :: autoReply lowercase msg rules
        panicked := false }

/-- One of the two agents. -/
inductive Side where
  | left
  | right
  deriving DecidableEq

/-- The other agent. -/
def Side.other : Side → Side
  | .left => .right
  | .right => .left

/-- Two agents with different addresses. -/
structure Pair where
  agent : Side → Peer
  addresses_ne : (agent .left).address ≠ (agent .right).address

/-- A handled message with the hub that it met and the replies that it got. -/
structure Exchange where
  side : Side
  message : Message
  hub : Hub
  handled : Handled

/-- The messages on their way to each agent, the agents whose loop has panicked, the contents of
all messages on-chain, and what has been handled so far. -/
structure State where
  inbox : Side → List Message
  stopped : Side → Bool
  chain : List Message
  history : List Exchange

/-- An agent handles its next message. `delivered` says which of its replies, counted from 0,
become transactions. -/
structure Event where
  side : Side
  hub : Hub
  delivered : Nat → Bool

/-- The replies that become transactions. -/
def sentReplies (delivered : Nat → Bool) (replies : List Reply) : List Reply :=
  (replies.zipIdx.filter fun reply => delivered reply.2).map Prod.fst

/-- The message that a reply is for its recipient. -/
def onChain (sender : String) (reply : Reply) : Message where
  sender := sender
  content := reply.text

/-- The messages among some replies that arrive at an address. -/
def arriving (sender recipient : String) (replies : List Reply) : List Message :=
  (replies.filter fun reply => reply.recipient == recipient).map (onChain sender)

/-- One step of the two agents. -/
def step (lowercase : String → String) (pair : Pair) (state : State) (event : Event) :
    Option State :=
  if state.stopped event.side then none
  else
    match state.inbox event.side with
    | [] => none
    | msg :: rest =>
        let agent := pair.agent event.side
        let handled := agent.handle lowercase msg event.hub
        let sent := sentReplies event.delivered handled.replies
        some
          { inbox := fun side =>
              (if side = event.side then rest else state.inbox side) ++
                arriving agent.address (pair.agent side).address sent
            stopped := fun side => if side = event.side then handled.panicked else state.stopped side
            chain := state.chain ++ sent.map (onChain agent.address)
            history := state.history ++ [⟨event.side, msg, event.hub, handled⟩] }

/-- The number of messages under way. -/
def State.inTransit (state : State) : Nat :=
  (state.inbox .left).length + (state.inbox .right).length

/-- What is under way to one agent was sent from the other's address. -/
def FromOther (pair : Pair) (state : State) : Prop :=
  ∀ side, ∀ msg ∈ state.inbox side, msg.sender = (pair.agent side.other).address

/-- Both agents run, nothing has been handled, and each agent's messages are for the other. -/
structure Initial (pair : Pair) (state : State) : Prop where
  running : ∀ side, state.stopped side = false
  history_nil : state.history = []
  from_other : FromOther pair state

/-- The texts that agents send when a hub gives no response. -/
def IsErrorText (text : String) : Prop :=
  text = hubUnreachable ∨ text = noResponse ∨ text = hubPluginError

/-- The reply goes to the sender, and its text is the hub's response, or an error text if there
is none. -/
def RepliesTo (hubUrl : String) (msg : Message) (hub : Hub) (reply : Reply) : Prop :=
  reply.recipient = msg.sender ∧
    (CompletesWith hub hubUrl msg reply.text ∨
      ((∀ response, ¬ CompletesWith hub hubUrl msg response) ∧ IsErrorText reply.text))

/-- No error reply was answered with an error reply. -/
def NoErrorAnswersError (history : List Exchange) : Prop :=
  ∀ exchange ∈ history, IsErrorText exchange.message.content →
    ∀ reply ∈ exchange.handled.replies, ¬ IsErrorText reply.text

/-! ## One message -/

section Handle

variable {lowercase : String → String} {agent : Peer} {msg : Message} {hub : Hub}

/-- The plugin's reply is the hub's response, or its error text if there is none. -/
theorem hub_plugin_replies_to (hub : Hub) (hubUrl : String) (msg : Message) :
    RepliesTo hubUrl msg hub (hubPluginReply hub hubUrl msg) := by
  unfold RepliesTo hubPluginReply
  simp only [forward_and_get_response_eq, ← bind_poll_hub_task_eq_some_iff]
  cases (forwardToHub hub hubUrl msg.sender msg.content).bind (pollHubTask hub hubUrl) with
  | some response => exact ⟨rfl, Or.inl rfl⟩
  | none => exact ⟨rfl, Or.inr ⟨by simp, Or.inr (Or.inr rfl)⟩⟩

/-- An auto-reply goes to the sender. -/
theorem auto_reply_recipient {rules : List Rule} {reply : Reply}
    (h : reply ∈ autoReply lowercase msg rules) : reply.recipient = msg.sender := by
  induction rules with
  | nil => cases h
  | cons rule rest ih =>
      rw [autoReply] at h
      split at h
      case isTrue =>
        rw [List.mem_singleton.mp h]
      case isFalse => exact ih h

/-- Every reply to a message goes to its sender. -/
theorem handle_recipient {reply : Reply} (h : reply ∈ (agent.handle lowercase msg hub).replies) :
    reply.recipient = msg.sender := by
  unfold Peer.handle at h
  cases hprogram : agent.program with
  | messageLoop infoEnabled =>
      rw [hprogram] at h
      exact handle_message_recipient h
  | runtime rules =>
      rw [hprogram] at h
      rcases List.mem_cons.mp h with rfl | h
      · exact (hub_plugin_replies_to hub agent.hubUrl msg).1
      · exact auto_reply_recipient h

/-- A handled message gets a reply that depends on the hub and not on what the message says. -/
theorem handle_replies_to (h : (agent.handle lowercase msg hub).panicked = false) :
    ∃ reply rest, (agent.handle lowercase msg hub).replies = reply :: rest ∧
      RepliesTo agent.hubUrl msg hub reply := by
  unfold Peer.handle at h ⊢
  cases hprogram : agent.program with
  | messageLoop infoEnabled =>
      rw [hprogram] at h
      obtain ⟨reply, hreplies, hrecipient, hanswer⟩ := handle_message_answers rfl h
      refine ⟨reply, [], hreplies, hrecipient, ?_⟩
      rcases hanswer with hcompletes | ⟨hnone, htext⟩
      · exact Or.inl hcompletes
      · exact Or.inr ⟨hnone, htext.imp_right Or.inl⟩
  | runtime rules => exact ⟨_, _, rfl, hub_plugin_replies_to hub agent.hubUrl msg⟩

end Handle

/-! ## One step -/

section Step

variable {lowercase : String → String} {pair : Pair} {state next : State} {event : Event}

/-- What a step does. -/
theorem step_eq_some_iff :
    step lowercase pair state event = some next ↔
      ∃ msg rest, state.stopped event.side = false ∧ state.inbox event.side = msg :: rest ∧
        ∃ handled sent, handled = (pair.agent event.side).handle lowercase msg event.hub ∧
          sent = sentReplies event.delivered handled.replies ∧
          next =
            { inbox := fun side =>
                (if side = event.side then rest else state.inbox side) ++
                  arriving (pair.agent event.side).address (pair.agent side).address sent
              stopped := fun side =>
                if side = event.side then handled.panicked else state.stopped side
              chain := state.chain ++ sent.map (onChain (pair.agent event.side).address)
              history := state.history ++ [⟨event.side, msg, event.hub, handled⟩] } := by
  unfold step
  cases hstopped : state.stopped event.side with
  | true => simp
  | false =>
      cases hinbox : state.inbox event.side with
      | nil => simp
      | cons msg rest => simp [eq_comm]

/-- The messages that arrive at the address of all replies are all of them. -/
theorem arriving_eq_map {sender recipient : String} {replies : List Reply}
    (h : ∀ reply ∈ replies, reply.recipient = recipient) :
    arriving sender recipient replies = replies.map (onChain sender) := by
  unfold arriving
  rw [List.filter_eq_self.mpr fun reply hmem => by simp [h reply hmem]]

/-- None arrives anywhere else. -/
theorem arriving_eq_nil {sender recipient other : String} {replies : List Reply}
    (h : ∀ reply ∈ replies, reply.recipient = recipient) (hne : recipient ≠ other) :
    arriving sender other replies = [] := by
  unfold arriving
  rw [List.filter_eq_nil_iff.mpr fun reply hmem => by simp [h reply hmem, hne]]
  rfl

/-- A transaction carries one of the replies. -/
theorem mem_of_mem_sent_replies {delivered : Nat → Bool} {replies : List Reply} {reply : Reply}
    (h : reply ∈ sentReplies delivered replies) : reply ∈ replies := by
  obtain ⟨⟨_, index⟩, hmem, rfl⟩ := List.mem_map.mp h
  exact List.fst_mem_of_mem_zipIdx (List.mem_filter.mp hmem).1

/-- If every transaction goes through, all replies are sent. -/
theorem sent_replies_eq {delivered : Nat → Bool} (h : ∀ index, delivered index = true)
    (replies : List Reply) : sentReplies delivered replies = replies := by
  unfold sentReplies
  rw [List.filter_eq_self.mpr fun reply _ => h reply.2, List.zipIdx_map_fst]

/-- The two agents' addresses differ whichever is asked first. -/
theorem Pair.address_other_ne (pair : Pair) (side : Side) :
    (pair.agent side.other).address ≠ (pair.agent side).address := by
  cases side with
  | left => exact pair.addresses_ne.symm
  | right => exact pair.addresses_ne

@[simp] theorem Side.other_other (side : Side) : side.other.other = side := by
  cases side with
  | left => rfl
  | right => rfl

theorem Side.eq_other_of_ne {side other : Side} (h : side ≠ other) : side = other.other := by
  cases side with
  | left =>
      cases other with
      | left => exact absurd rfl h
      | right => rfl
  | right =>
      cases other with
      | left => rfl
      | right => exact absurd rfl h

/-- All that a step sends goes to the other agent. -/
theorem step_inbox (hfrom : FromOther pair state)
    (h : step lowercase pair state event = some next) :
    ∃ msg rest sent, state.inbox event.side = msg :: rest ∧ next.inbox event.side = rest ∧
      next.inbox event.side.other = state.inbox event.side.other ++
        sent.map (onChain (pair.agent event.side).address) ∧
      next.chain = state.chain ++ sent.map (onChain (pair.agent event.side).address) ∧
      ((∀ index, event.delivered index = true) → next.stopped event.side = false →
        sent ≠ []) := by
  obtain ⟨msg, rest, -, hinbox, handled, sent, hhandled, hsent, rfl⟩ := step_eq_some_iff.mp h
  have hsender : msg.sender = (pair.agent event.side.other).address :=
    hfrom _ msg (hinbox ▸ List.mem_cons_self)
  -- Every reply goes to the sender of its message, who is the other agent.
  have hrecipient : ∀ reply ∈ sent, reply.recipient = (pair.agent event.side.other).address := by
    intro reply hmem
    rw [hsent, hhandled] at hmem
    rw [handle_recipient (mem_of_mem_sent_replies hmem), hsender]
  have hne : event.side.other ≠ event.side := by
    intro heq
    exact pair.address_other_ne event.side (by rw [heq])
  refine ⟨msg, rest, sent, hinbox, ?_, ?_, rfl, ?_⟩
  · simp [arriving_eq_nil hrecipient (pair.address_other_ne event.side)]
  · simp [hne, arriving_eq_map hrecipient]
  · intro hdelivered hstopped
    simp only [if_true, hhandled] at hstopped
    obtain ⟨reply, others, hreplies, -⟩ := handle_replies_to hstopped
    rw [hsent, sent_replies_eq hdelivered, hhandled, hreplies]
    exact List.cons_ne_nil _ _

/-- The replies are again messages from the other agent's address. -/
theorem step_from_other (hfrom : FromOther pair state)
    (h : step lowercase pair state event = some next) : FromOther pair next := by
  obtain ⟨msg, rest, sent, hinbox, hself, hother, -, -⟩ := step_inbox hfrom h
  intro side received hmem
  by_cases hside : side = event.side
  · subst hside
    rw [hself] at hmem
    exact hfrom _ received (hinbox ▸ List.mem_cons_of_mem _ hmem)
  · obtain rfl := Side.eq_other_of_ne hside
    rw [hother] at hmem
    rcases List.mem_append.mp hmem with hmem | hmem
    · exact hfrom _ received hmem
    · obtain ⟨reply, -, rfl⟩ := List.mem_map.mp hmem
      rw [Side.other_other]
      rfl

/-- Counted from any agent's side, the messages under way are the same. -/
theorem in_transit_eq (state : State) (side : Side) :
    state.inTransit = (state.inbox side).length + (state.inbox side.other).length := by
  cases side with
  | left => rfl
  | right => exact Nat.add_comm _ _

/-- A step whose transactions go through and that does not panic replaces the message that it
handles and adds to the chain. -/
theorem step_counts (hfrom : FromOther pair state)
    (h : step lowercase pair state event = some next)
    (hdelivered : ∀ index, event.delivered index = true)
    (hstopped : next.stopped event.side = false) :
    state.inTransit ≤ next.inTransit ∧ state.chain.length + 1 ≤ next.chain.length := by
  obtain ⟨msg, rest, sent, hinbox, hself, hother, hchain, hsent⟩ := step_inbox hfrom h
  have hpos : 0 < sent.length := List.length_pos_iff.mpr (hsent hdelivered hstopped)
  rw [in_transit_eq state event.side, in_transit_eq next event.side, hself, hother, hchain,
    hinbox]
  simp only [List.length_cons, List.length_append, List.length_map]
  omega

/-- A panicked loop does not come back. -/
theorem step_stopped {side : Side} (hstopped : state.stopped side = true)
    (h : step lowercase pair state event = some next) : next.stopped side = true := by
  obtain ⟨msg, rest, hrunning, -, handled, sent, -, -, rfl⟩ := step_eq_some_iff.mp h
  have hne : side ≠ event.side := by
    rintro rfl
    rw [hrunning] at hstopped
    cases hstopped
  simp [hne, hstopped]

/-- What the history records is what the agents do with the messages in it. -/
def Recorded (lowercase : String → String) (pair : Pair) (state : State) : Prop :=
  ∀ exchange ∈ state.history, exchange.handled =
    (pair.agent exchange.side).handle lowercase exchange.message exchange.hub

theorem step_recorded (hrecorded : Recorded lowercase pair state)
    (h : step lowercase pair state event = some next) : Recorded lowercase pair next := by
  obtain ⟨msg, rest, -, -, handled, sent, hhandled, -, rfl⟩ := step_eq_some_iff.mp h
  intro exchange hmem
  rcases List.mem_append.mp hmem with hmem | hmem
  · exact hrecorded exchange hmem
  · rw [List.mem_singleton.mp hmem]
    exact hhandled

end Step

/-! ## Runs -/

section Run

variable {lowercase : String → String} {pair : Pair} {start final : State} {events : List Event}

/-- A loop that runs at the end has run all along. -/
theorem run_stopped {side : Side} (hrun : run (step lowercase pair) start events = some final)
    (hrunning : final.stopped side = false) : start.stopped side = false := by
  cases hstart : start.stopped side with
  | false => rfl
  | true =>
      have hkeeps : ∀ {state : State} {event : Event} {next : State},
          state.stopped side = true → step lowercase pair state event = some next →
            next.stopped side = true := step_stopped
      have hfinal := run_invariant hkeeps hstart hrun
      rw [hrunning] at hfinal
      cases hfinal

/-- While transactions go through and no loop panics, the messages under way never become fewer
and every step puts at least one more on-chain. -/
theorem run_counts (hfrom : FromOther pair start)
    (hrun : run (step lowercase pair) start events = some final)
    (hdelivered : ∀ event ∈ events, ∀ index, event.delivered index = true)
    (hrunning : ∀ side, final.stopped side = false) :
    start.inTransit ≤ final.inTransit ∧
      start.chain.length + events.length ≤ final.chain.length := by
  induction events generalizing start with
  | nil =>
      cases hrun
      exact ⟨Nat.le_refl _, Nat.le_refl _⟩
  | cons event rest ih =>
      obtain ⟨next, hstep, hrest⟩ := run_cons_eq_some.mp hrun
      obtain ⟨hfirst, hothers⟩ := List.forall_mem_cons.mp hdelivered
      -- A loop that runs at the end has not panicked in this step either.
      obtain ⟨htransit, hchain⟩ :=
        step_counts hfrom hstep hfirst (run_stopped hrest (hrunning _))
      obtain ⟨htransits, hchains⟩ := ih (step_from_other hfrom hstep) hrest hothers
      rw [List.length_cons]
      omega

/-- An agent that runs and has a message can handle it, whatever its hub answers. -/
theorem step_of_in_transit (hrunning : ∀ side, final.stopped side = false)
    (hpos : 0 < final.inTransit) :
    ∃ side, ∀ hub delivered, ∃ next,
      step lowercase pair final { side, hub, delivered } = some next := by
  have hinbox : ∃ side, final.inbox side ≠ [] := by
    by_contra hnone
    have hempty : ∀ side, final.inbox side = [] := by simpa using hnone
    simp [State.inTransit, hempty] at hpos
  obtain ⟨side, hside⟩ := hinbox
  obtain ⟨msg, rest, hcons⟩ := List.exists_cons_of_ne_nil hside
  refine ⟨side, fun hub delivered => ?_⟩
  simp [step, hrunning side, hcons]

/-- In every run a message that is handled without a panic is answered by its hub's response or
an error text, whether or not it is an error reply itself. While transactions go through and no
loop panics, each handled message puts at least one more on-chain, and what is under way neither
becomes less nor stays unhandled for want of a step. -/
theorem exchange_goes_on (hinitial : Initial pair start)
    (hrun : run (step lowercase pair) start events = some final) :
    (∀ exchange ∈ final.history, exchange.handled.panicked = false →
      ∃ reply rest, exchange.handled.replies = reply :: rest ∧
        RepliesTo (pair.agent exchange.side).hubUrl exchange.message exchange.hub reply) ∧
    ((∀ event ∈ events, ∀ index, event.delivered index = true) →
      (∀ side, final.stopped side = false) →
      start.inTransit ≤ final.inTransit ∧
        start.chain.length + events.length ≤ final.chain.length ∧
        (0 < start.inTransit → ∃ side, ∀ hub delivered, ∃ next,
          step lowercase pair final { side, hub, delivered } = some next)) := by
  refine ⟨?_, ?_⟩
  · intro exchange hmem hpanicked
    have hrecorded : Recorded lowercase pair final := by
      refine run_invariant step_recorded ?_ hrun
      intro exchange hmem
      rw [hinitial.history_nil] at hmem
      cases hmem
    rw [hrecorded exchange hmem] at hpanicked ⊢
    exact handle_replies_to hpanicked
  · intro hdelivered hrunning
    obtain ⟨htransit, hchain⟩ := run_counts hinitial.from_other hrun hdelivered hrunning
    exact ⟨htransit, hchain, fun hpos =>
      step_of_in_transit hrunning (Nat.lt_of_lt_of_le hpos htransit)⟩

end Run

/-- An agent with the message loop and one with the plugin runtime. -/
def mixedPair : Pair where
  agent
    | .left => { address := "LEFT", hubUrl := "http://localhost:3578", program := .messageLoop true }
    | .right => { address := "RIGHT", hubUrl := "http://localhost:3578", program := .runtime [] }
  addresses_ne := by decide

/-- One message from the second agent is under way to the first. -/
def oneMessage : State where
  inbox
    | .left => [⟨"RIGHT", "hi"⟩]
    | .right => []
  stopped _ := false
  chain := [⟨"RIGHT", "hi"⟩]
  history := []

/-- An agent whose hub cannot be reached handles its next message, and its transactions go
through. -/
def hubDown (side : Side) : Event where
  side := side
  hub := .uniform (.error "connection refused") fun _ => .error "connection refused"
  delivered _ := true

theorem one_message_initial : Initial mixedPair oneMessage where
  running _ := rfl
  history_nil := rfl
  from_other side msg hmem := by
    cases side with
    | left =>
        rw [List.mem_singleton.mp hmem]
        rfl
    | right => cases hmem

/-- Two failures of the hubs later the message has become three, and one of them is under way. -/
theorem one_message_goes_on :
    ∃ final, run (step id mixedPair) oneMessage [hubDown .left, hubDown .right] = some final ∧
      oneMessage.inTransit ≤ final.inTransit ∧ 3 ≤ final.chain.length ∧
      ∃ side, ∀ hub delivered, ∃ next,
        step id mixedPair final { side, hub, delivered } = some next := by
  have hrun : (run (step id mixedPair) oneMessage [hubDown .left, hubDown .right]).map
      (fun state => (state.stopped .left, state.stopped .right)) = some (false, false) := by
    rfl
  obtain ⟨final, hfinal, hstopped⟩ := Option.map_eq_some_iff.mp hrun
  obtain ⟨hleft, hright⟩ := Prod.mk.inj hstopped
  have hrunning : ∀ side, final.stopped side = false := by
    intro side
    cases side with
    | left => exact hleft
    | right => exact hright
  have hdelivered : ∀ event ∈ [hubDown .left, hubDown .right],
      ∀ index, event.delivered index = true := by
    simp [hubDown]
  obtain ⟨htransit, hchain, hnext⟩ :=
    (exchange_goes_on one_message_initial hfinal).2 hdelivered hrunning
  exact ⟨final, hfinal, htransit, hchain, hnext (by decide)⟩

/-- The first agent answers the message with an error reply, and the second answers that error
reply with one of its own. -/
theorem error_reply_answered :
    ¬ ∀ events final, (∀ event ∈ events, ∃ side, event = hubDown side) →
      run (step id mixedPair) oneMessage events = some final →
        NoErrorAnswersError final.history := by
  intro h
  have hrun : (run (step id mixedPair) oneMessage [hubDown .left, hubDown .right]).map
      State.history = some
        [⟨.left, ⟨"RIGHT", "hi"⟩, (hubDown .left).hub, ⟨[⟨"RIGHT", hubUnreachable⟩], false⟩⟩,
          ⟨.right, ⟨"LEFT", hubUnreachable⟩, (hubDown .right).hub,
            ⟨[⟨"LEFT", hubPluginError⟩], false⟩⟩] := by
    rfl
  obtain ⟨final, hfinal, hhistory⟩ := Option.map_eq_some_iff.mp hrun
  have hnone := h _ final (by simp) hfinal
  rw [hhistory] at hnone
  refine hnone _ (List.mem_cons_of_mem _ (List.mem_singleton_self _)) (Or.inl rfl) _
    (List.mem_singleton_self _) (Or.inr (Or.inr rfl))

end CorvidNano.Agent.PingPong
