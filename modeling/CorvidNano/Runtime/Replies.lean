import CorvidNano.Agent.PingPong
import CorvidNano.Library.Chains
import CorvidNano.Runtime.Isolation

/-!
# What the built-in plugins answer

The handlers of `AutoReplyPlugin` and `HubPlugin` in the plugin runtime. `auto_replies_of_run` and
`hub_replies_of_run` say what the two send in a whole run: the first rule's reply to each message
that one matches, and exactly one reply to each message.

Without a hub, two agents with rules answer each other's replies. `exchange_stops_iff` says when
they come to an end.
-/

namespace CorvidNano.Runtime.Replies

open Agent.PingPong (Rule Side autoReply hubPluginReply)
open Agent.HubClient (Hub)
open Chains Runs

/-! ## Rules -/

/-- The values in a plugin's section of `nano.toml` that `init` tells apart. -/
inductive TomlValue where
  | string (text : String)
  | array (values : List TomlValue)
  | table (entries : List (String × TomlValue))
  | other

/-- `as_str`. -/
def TomlValue.asStr : TomlValue → Option String
  | .string text => some text
  | _ => none

/-- A rule in `rules`. One without a pattern is left out. -/
def initRule : TomlValue → Option Rule
  | .table entries =>
      let pattern := ((entries.lookup "match").bind TomlValue.asStr).getD ""
      let reply := ((entries.lookup "reply").bind TomlValue.asStr).getD ""
      if pattern = "" then none else some { pattern, reply }
  | _ => none

/-- `AutoReplyPlugin::init`, with the plugin's section of `nano.toml`. -/
def init (rules : List Rule) (config : List (String × TomlValue)) : List Rule :=
  match config.lookup "rules" with
  | some (.array values) => rules ++ values.filterMap initRule
  | _ => rules

variable (lowercase : String → String)

/-- The plugin's reply to a message. -/
def answer (rules : List Rule) (message : Message) : Option Action :=
  (rules.find? fun rule =>
    (lowercase rule.pattern).toList <:+: (lowercase message.content).toList).map fun rule =>
      .sendMessage message.sender rule.reply

/-- `AutoReplyPlugin::handle_event`. -/
def autoReplyHandler (rules : List Rule) : Handler
  | .messageReceived message, _ =>
      .ok ((autoReply lowercase ⟨message.sender, message.content⟩ rules).map fun reply =>
        .sendMessage reply.recipient reply.text)
  | _, _ => .ok []

/-- `HubPlugin::handle_event`, with what the hub answers meanwhile. -/
def hubHandler (hub : Hub) (hubUrl : String) : Handler
  | .messageReceived message, _ =>
      let reply := hubPluginReply hub hubUrl ⟨message.sender, message.content⟩
      .ok [.sendMessage reply.recipient reply.text]
  | _, _ => .ok []

/-- The messages among some events. -/
def messagesOf (events : List Event) : List Message :=
  events.filterMap fun
    | .messageReceived message => some message
    | _ => none

/-! ## Replies in a run -/

section Run

variable {lowercase} {moves : List Move} {final : State} {index : Nat}

/-- The reply is that of the first rule that matches. -/
theorem auto_reply_eq (rules : List Rule) (message : Message) :
    (autoReply lowercase ⟨message.sender, message.content⟩ rules).map
      (fun reply => Action.sendMessage reply.recipient reply.text) =
        (answer lowercase rules message).toList := by
  induction rules with
  | nil => rfl
  | cons rule rest ih =>
      unfold answer at ih ⊢
      rw [autoReply, List.find?_cons]
      by_cases hmatch : (lowercase rule.pattern).toList <:+: (lowercase message.content).toList
      · simp [hmatch]
      · simp only [hmatch, if_false, decide_false]
        exact ih

/-- By itself the plugin answers its messages one after the other. -/
theorem run_alone_auto_reply (rules : List Rule) (events : List Event) :
    (runAlone (autoReplyHandler lowercase rules) events).actions =
      (messagesOf events).filterMap (answer lowercase rules) := by
  induction events using List.reverseRecOn with
  | nil => rfl
  | append_singleton events event ih =>
      unfold runAlone messagesOf at ih ⊢
      rw [List.foldl_concat, List.filterMap_append, List.filterMap_append, ← ih]
      cases event with
      | messageReceived message =>
          simp only [Alone.handle, autoReplyHandler, auto_reply_eq, List.filterMap_cons,
            List.filterMap_nil]
          cases answer lowercase rules message <;> rfl
      | _ => simp [Alone.handle, autoReplyHandler]

/-- In every run in which no plugin is added under a name that another one has: when nothing is
left to do, the auto-reply plugin has sent to the sender of each message that was taken after it
was added the reply of the first rule that matches, in order, and nothing else. -/
theorem auto_replies_of_run {rules : List Rule}
    (hrun : run (restrict step FreshName) .new moves = some final) (hidle : final.todo = [])
    (hanswered : AnsweredBy index (autoReplyHandler lowercase rules) final.log) :
    executedBy index final.log =
      (messagesOf (received index final.taken)).filterMap (answer lowercase rules) := by
  rw [← run_alone_auto_reply, run_alone_of_run hrun hidle hanswered]

/-- The plugin's reply to a message, whatever the hub answers. -/
def HubReply (hubUrl : String) (message : Message) (action : Action) : Prop :=
  ∃ hub : Hub, ∃ reply, reply = hubPluginReply hub hubUrl ⟨message.sender, message.content⟩ ∧
    action = .sendMessage reply.recipient reply.text

/-- The hub plugin at a position has answered each delivery, each with a hub as it then was. -/
def AnsweredByHub (index : Nat) (hubUrl : String) (log : List Entry) : Prop :=
  ∀ event snapshot result, .delivered index event snapshot result ∈ log →
    ∃ hub, result = hubHandler hub hubUrl event snapshot

/-- What the hub plugin returns on one event. -/
theorem hub_replies_once (hub : Hub) (hubUrl : String) (event : Event) (snapshot : Values) :
    ∃ actions, hubHandler hub hubUrl event snapshot = .ok actions ∧
      List.Forall₂ (HubReply hubUrl) (messagesOf [event]) actions := by
  cases event with
  | messageReceived message => exact ⟨_, rfl, .cons ⟨hub, _, rfl, rfl⟩ .nil⟩
  | _ => exact ⟨[], rfl, .nil⟩

/-- What the hub plugin has returned on the events it was handed. -/
theorem returned_by_hub {hubUrl : String} (log : List Entry)
    (hanswered : AnsweredByHub index hubUrl log) :
    List.Forall₂ (HubReply hubUrl) (messagesOf (deliveredTo index log)) (returnedBy index log) := by
  induction log using List.reverseRecOn with
  | nil => exact .nil
  | append_singleton log entry ih =>
      have hbefore := ih fun event snapshot result hmem =>
        hanswered event snapshot result (List.mem_append_left _ hmem)
      unfold deliveredTo returnedBy messagesOf at hbefore ⊢
      simp only [List.flatMap_append, List.flatMap_singleton, of_plugin_append,
        List.filterMap_append]
      refine List.rel_append hbefore ?_
      cases entry with
      | executed other action => exact .nil
      | delivered other event snapshot result =>
          by_cases hother : other = index
          · subst hother
            obtain ⟨hub, rfl⟩ :=
              hanswered event snapshot result (List.mem_append_right _ (List.mem_singleton_self _))
            obtain ⟨actions, hactions, hreplies⟩ := hub_replies_once hub hubUrl event snapshot
            rw [hactions, Entry.delivery, Entry.returned, of_plugin_map, of_plugin_singleton,
              if_pos rfl, if_pos rfl]
            exact hreplies
          · rw [Entry.delivery, of_plugin_singleton, if_neg hother]
            cases result with
            | ok actions =>
                rw [Entry.returned, of_plugin_map, if_neg hother]
                exact .nil
            | error text => exact .nil

/-- In every such run the hub plugin has sent exactly one reply to each message that was taken
after it was added, to its sender and in order, however the hub answered. -/
theorem hub_replies_of_run {hubUrl : String}
    (hrun : run (restrict step FreshName) .new moves = some final) (hidle : final.todo = [])
    (hanswered : AnsweredByHub index hubUrl final.log) :
    List.Forall₂ (HubReply hubUrl) (messagesOf (received index final.taken))
      (executedBy index final.log) := by
  obtain ⟨hdelivered, hexecuted⟩ := idle_of_run hrun hidle index
  rw [← hdelivered, hexecuted]
  exact returned_by_hub final.log hanswered

end Run

/-- The plugins that are loaded, in this order, unless there is no hub. -/
def builtIn : List Plugin := [⟨"hub", [.messageReceived]⟩, ⟨"auto-reply", [.messageReceived]⟩]

/-- A message for the two. -/
def pingMessage : Message := ⟨"alice", "nano", "ping"⟩

/-- A rule for it. -/
def pingRules : List Rule := [⟨"ping", "pong"⟩]

/-- The message arrives while the hub cannot be reached. -/
def pingMoves : List Move :=
  builtIn.flatMap (fun plugin => [.addPlugin plugin, advance]) ++ [
    .run, .poll [pingMessage], advance,
    .proceed (.ok [.sendMessage "alice" Agent.PingPong.hubPluginError]) (.ok "tx"), advance, advance,
    .proceed (.ok [.sendMessage "alice" "pong"]) (.ok "tx"),
    .proceed (.ok []) (.error "no balance")]

theorem ping_run : ∃ final first second, run (restrict step FreshName) .new pingMoves = some final ∧
    final.todo = [] ∧ final.log = [
      .delivered 0 (.messageReceived pingMessage) first
        (.ok [.sendMessage "alice" Agent.PingPong.hubPluginError]),
      .executed 0 (.sendMessage "alice" Agent.PingPong.hubPluginError),
      .delivered 1 (.messageReceived pingMessage) second (.ok [.sendMessage "alice" "pong"]),
      .executed 1 (.sendMessage "alice" "pong")] ∧
    received 0 final.taken = [.messageReceived pingMessage] ∧
    received 1 final.taken = [.messageReceived pingMessage] :=
  ⟨_, _, _, rfl, rfl, rfl, rfl, rfl⟩

/-- `auto_replies_of_run` for the message. -/
theorem ping_auto_replies : ∃ final, run (restrict step FreshName) .new pingMoves = some final ∧
    executedBy 1 final.log = [pingMessage].filterMap (answer id pingRules) := by
  obtain ⟨final, first, second, hfinal, hidle, hlog, -, hreceived⟩ := ping_run
  have hanswered : AnsweredBy 1 (autoReplyHandler id pingRules) final.log := by
    intro event snapshot result hmem
    rw [hlog] at hmem
    simp only [List.mem_cons, List.not_mem_nil, or_false, Entry.delivered.injEq, reduceCtorEq,
      false_or, Nat.one_ne_zero, false_and, true_and] at hmem
    obtain ⟨rfl, rfl, rfl⟩ := hmem
    rfl
  have hexecuted := auto_replies_of_run hfinal hidle hanswered
  rw [hreceived] at hexecuted
  exact ⟨final, hfinal, hexecuted⟩

/-- `hub_replies_of_run` for the message. -/
theorem ping_hub_replies : ∃ final, run (restrict step FreshName) .new pingMoves = some final ∧
    List.Forall₂ (HubReply "http://localhost:3578") [pingMessage] (executedBy 0 final.log) := by
  obtain ⟨final, first, second, hfinal, hidle, hlog, hreceived, -⟩ := ping_run
  have hanswered : AnsweredByHub 0 "http://localhost:3578" final.log := by
    intro event snapshot result hmem
    rw [hlog] at hmem
    simp only [List.mem_cons, List.not_mem_nil, or_false, Entry.delivered.injEq, reduceCtorEq,
      Nat.zero_ne_one, false_and, true_and] at hmem
    obtain ⟨rfl, rfl, rfl⟩ := hmem
    exact ⟨.uniform (.error "connection refused") fun _ => .error "connection refused", rfl⟩
  have hreplies := hub_replies_of_run hfinal hidle hanswered
  rw [hreceived] at hreplies
  exact ⟨final, hfinal, hreplies⟩

/-! ## Two agents without a hub -/

/-- The reply that a message for one of two agents gets from its rules, which is a message for the
other one. -/
def exchangeReply (rules : Side → List Rule) (addresses : Side → String)
    (message : Side × String) : Option (Side × String) :=
  match answer lowercase (rules message.1)
      ⟨addresses message.1.other, addresses message.1, message.2⟩ with
  | some (.sendMessage _ content) => some (message.1.other, content)
  | _ => none

/-- The replies that the two agents have. -/
def exchangeReplies (rules : Side → List Rule) : List (Side × String) :=
  (rules .left).map (fun rule => (.right, rule.reply)) ++
    (rules .right).map (fun rule => (.left, rule.reply))

section Exchange

variable {lowercase} {rules : Side → List Rule} {addresses : Side → String}

theorem mem_exchange_replies {message reply : Side × String}
    (h : exchangeReply lowercase rules addresses message = some reply) :
    reply ∈ exchangeReplies rules := by
  obtain ⟨side, content⟩ := message
  unfold exchangeReply answer at h
  dsimp only at h
  cases hrule : (rules side).find? fun rule =>
      (lowercase rule.pattern).toList <:+: (lowercase content).toList with
  | none =>
      rw [hrule] at h
      cases h
  | some rule =>
      rw [hrule] at h
      cases h
      have hmem := List.mem_of_find?_eq_some hrule
      cases side with
      | left => exact List.mem_append_left _ (List.mem_map_of_mem hmem)
      | right => exact List.mem_append_right _ (List.mem_map_of_mem hmem)

/-- Two agents that answer each other by their rules come to an end, in whatever order messages
arrive, exactly if no message has led to one more reply than they have rules. They then handle as
many messages in every order, unless replies are lost. -/
theorem exchange_stops_iff (lowercase : String → String) (rules : Side → List Rule)
    (addresses : Side → String) (start : List (Side × String)) :
    let reply := exchangeReply lowercase rules addresses
    let limit := (rules .left).length + (rules .right).length + 1
    ((∃ bound, ∀ events final, (∀ event ∈ events, event.lost = false) →
      run (Chains.step reply) start events = some final → events.length ≤ bound) ↔
      ∀ message ∈ start, after reply limit message = none) ∧
    ((∀ message ∈ start, after reply limit message = none) → ∀ events final,
      run (Chains.step reply) start events = some final →
        events.length ≤ start.length * limit ∧
        ((∀ event ∈ events, event.lost = false) → final = [] →
          events.length = Chains.work reply limit start)) := by
  intro reply limit
  have hlength : (exchangeReplies rules).length + 1 = limit := by
    simp [exchangeReplies, limit]
  refine ⟨?_, fun hends events final hrun => ?_⟩
  · rw [← hlength]
    exact quiet_iff mem_exchange_replies start
  · obtain ⟨hle, heq⟩ := run_work hends hrun
    have hwork : Chains.work reply limit start ≤ start.length * limit := work_le limit start
    refine ⟨by omega, fun hlost hfinal => ?_⟩
    have hdone := heq hlost
    rw [hfinal] at hdone
    exact hdone

/-- Two agents that answer pings and pongs never come to an end. -/
example : (after (exchangeReply id
    (fun | .left => pingRules | .right => [⟨"pong", "ping"⟩]) fun _ => "")
    3 (.left, "ping")).isSome = true := by
  decide

end Exchange

end CorvidNano.Runtime.Replies
