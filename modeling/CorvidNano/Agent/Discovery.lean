import CorvidNano.Agent.Indexer
import CorvidNano.Library.Tally

/-!
# The discovery of agents

`discover_agents` of `algorand.rs`: the transactions of a chain-wide scan are counted into a hash
map of addresses, whose values are sorted by the round they were seen last. `Aggregates` is the
grouping that this computes, and `discover_agents_aggregates` says so for every list of
transactions, and that the entries do not depend on their order.
-/

namespace CorvidNano.Agent.Discovery

open Indexer Tally

/-- `ChainMessage`. -/
structure ChainMessage where
  txid : String
  sender : String
  receiver : String
  confirmedRound : UInt64
  roundTime : UInt64
  noteLen : Nat

/-- `DiscoveredAgent`. -/
@[ext] structure DiscoveredAgent where
  address : String
  sent : Nat
  received : Nat
  firstSeenRound : UInt64
  lastSeenRound : UInt64
  lastSeenTime : UInt64
  deriving DecidableEq

/-- What the scan keeps of a transaction. -/
def chainMessage (tx : IndexerTransaction) : ChainMessage where
  txid := tx.id
  sender := tx.sender
  receiver := tx.receiver
  confirmedRound := tx.confirmedRound
  roundTime := tx.roundTime
  noteLen := tx.noteBytes.length

/-- `scan_all_algochat`. -/
def scanAllAlgochat (send : Send) (afterRound : Option UInt64) (limit : Option UInt32) :
    Except String (List ChainMessage) := do
  let transactions ← send
    { address := none
      notePrefix := algochatPrefix
      minRound := minRound afterRound
      limit := some (limit.getD 500) }
  return (transactions.getD []).map chainMessage

/-- The part an address has in a transaction. -/
inductive Role where
  | sender
  | receiver
  deriving DecidableEq

/-- The address that has a part in a message. -/
def ChainMessage.addressOf (msg : ChainMessage) : Role → String
  | .sender => msg.sender
  | .receiver => msg.receiver

/-- What `or_insert_with` puts in for an address. -/
def newAgent (address : String) (msg : ChainMessage) : DiscoveredAgent where
  address := address
  sent := 0
  received := 0
  firstSeenRound := msg.confirmedRound
  lastSeenRound := msg.confirmedRound
  lastSeenTime := msg.roundTime

/-- Count a message for the part that an address has in it. -/
def DiscoveredAgent.count (agent : DiscoveredAgent) : Role → DiscoveredAgent
  | .sender => { agent with sent := agent.sent + 1 }
  | .receiver => { agent with received := agent.received + 1 }

/-- Lower the first round to that of a message. -/
def DiscoveredAgent.seeFirst (agent : DiscoveredAgent) (msg : ChainMessage) : DiscoveredAgent :=
  if msg.confirmedRound < agent.firstSeenRound then
    { agent with firstSeenRound := msg.confirmedRound }
  else agent

/-- Raise the last round to that of a message, and take its time. -/
def DiscoveredAgent.seeLast (agent : DiscoveredAgent) (msg : ChainMessage) : DiscoveredAgent :=
  if agent.lastSeenRound < msg.confirmedRound then
    { agent with lastSeenRound := msg.confirmedRound, lastSeenTime := msg.roundTime }
  else agent

/-- A part in a message. -/
abbrev Sighting := Role × ChainMessage

/-- Seeing a message changes neither the address nor the counts. -/
theorem counts_seen (agent : DiscoveredAgent) (msg : ChainMessage) :
    ((agent.seeFirst msg).seeLast msg).address = agent.address ∧
      ((agent.seeFirst msg).seeLast msg).sent = agent.sent ∧
      ((agent.seeFirst msg).seeLast msg).received = agent.received := by
  unfold DiscoveredAgent.seeLast DiscoveredAgent.seeFirst
  split <;> split <;> exact ⟨rfl, rfl, rfl⟩

/-- How the loop tracks the address that has a part in a message. -/
def trackRule : Rule Sighting DiscoveredAgent.address where
  eventKey sighting := sighting.2.addressOf sighting.1
  fresh sighting := newAgent (sighting.2.addressOf sighting.1) sighting.2
  update sighting agent := ((agent.count sighting.1).seeFirst sighting.2).seeLast sighting.2
  key_fresh _ := rfl
  key_update sighting agent := by
    rw [(counts_seen _ sighting.2).1]
    cases sighting.1 with
    | sender => rfl
    | receiver => rfl

/-- One turn of the loop: track the sender, and the receiver unless it is empty. -/
def track (agents : Table DiscoveredAgent.address) (msg : ChainMessage) :
    Table DiscoveredAgent.address :=
  let agents := trackRule.record agents (.sender, msg)
  if msg.receiver.isEmpty then agents else trackRule.record agents (.receiver, msg)

/-- The order in which a hash map gives its values. The seed of the hasher decides it. -/
structure HashOrder where
  values : List DiscoveredAgent → List DiscoveredAgent
  perm : ∀ rows, (values rows).Perm rows

/-- `sort_by_key` with `Reverse(a.last_seen_round)`. -/
def sortByLastSeen : List DiscoveredAgent → List DiscoveredAgent :=
  (Table.RowOrder.stable fun agent : DiscoveredAgent =>
    OrderDual.toDual agent.lastSeenRound.toNat).arrange

/-- `discover_agents`. -/
def discoverAgents (order : HashOrder) (send : Send) (afterRound : Option UInt64)
    (limit : Option UInt32) : Except String (List DiscoveredAgent) := do
  let messages ← scanAllAlgochat send afterRound limit
  let agents := messages.foldl track .empty
  return sortByLastSeen (order.values agents.rows)

/-- An address has a part in a message: it sends it, or it is its receiver and not empty. -/
def Plays (address : String) (role : Role) (msg : ChainMessage) : Prop :=
  msg.addressOf role = address ∧ (role = .receiver → address ≠ "")

instance (address : String) (role : Role) (msg : ChainMessage) :
    Decidable (Plays address role msg) :=
  inferInstanceAs (Decidable (_ ∧ (_ → _)))

/-- An entry with the numbers of its address: how often it has either part, the first and the last
round in which it has one, and the time of the last. -/
structure Describes (messages : List ChainMessage) (agent : DiscoveredAgent) : Prop where
  sent : agent.sent = messages.countP fun msg => Plays agent.address .sender msg
  received : agent.received = messages.countP fun msg => Plays agent.address .receiver msg
  first_le : ∀ msg ∈ messages, ∀ role, Plays agent.address role msg →
    agent.firstSeenRound ≤ msg.confirmedRound
  first_mem : ∃ msg ∈ messages, (∃ role, Plays agent.address role msg) ∧
    msg.confirmedRound = agent.firstSeenRound
  le_last : ∀ msg ∈ messages, ∀ role, Plays agent.address role msg →
    msg.confirmedRound ≤ agent.lastSeenRound
  last_mem : ∃ msg ∈ messages, (∃ role, Plays agent.address role msg) ∧
    msg.confirmedRound = agent.lastSeenRound ∧ msg.roundTime = agent.lastSeenTime

/-- A list with one entry for each address that has a part in some message, the one seen last
first. -/
structure Aggregates (messages : List ChainMessage) (agents : List DiscoveredAgent) : Prop where
  nodup : (agents.map DiscoveredAgent.address).Nodup
  mem_iff : ∀ address, address ∈ agents.map DiscoveredAgent.address ↔
    ∃ msg ∈ messages, ∃ role, Plays address role msg
  describes : ∀ agent ∈ agents, Describes messages agent
  sorted : agents.Pairwise fun first second => second.lastSeenRound ≤ first.lastSeenRound

/-- Messages of the same round have the same time. -/
def SameTimes (messages : List ChainMessage) : Prop :=
  ∀ first ∈ messages, ∀ second ∈ messages,
    first.confirmedRound = second.confirmedRound → first.roundTime = second.roundTime

section Updates

variable (role : Role) (msg : ChainMessage) (agent : DiscoveredAgent)

@[simp] theorem update_sent : (trackRule.update (role, msg) agent).sent =
    agent.sent + if role = .sender then 1 else 0 := by
  show (((agent.count role).seeFirst msg).seeLast msg).sent = _
  rw [(counts_seen _ msg).2.1]
  cases role with
  | sender => rfl
  | receiver => rfl

@[simp] theorem update_received : (trackRule.update (role, msg) agent).received =
    agent.received + if role = .receiver then 1 else 0 := by
  show (((agent.count role).seeFirst msg).seeLast msg).received = _
  rw [(counts_seen _ msg).2.2]
  cases role with
  | sender => rfl
  | receiver => rfl

/-- Counting a message changes neither round nor time. -/
theorem rounds_count : (agent.count role).firstSeenRound = agent.firstSeenRound ∧
    (agent.count role).lastSeenRound = agent.lastSeenRound ∧
    (agent.count role).lastSeenTime = agent.lastSeenTime := by
  cases role with
  | sender => exact ⟨rfl, rfl, rfl⟩
  | receiver => exact ⟨rfl, rfl, rfl⟩

/-- Lowering the first round changes neither the last round nor its time. -/
theorem last_see_first : (agent.seeFirst msg).lastSeenRound = agent.lastSeenRound ∧
    (agent.seeFirst msg).lastSeenTime = agent.lastSeenTime := by
  unfold DiscoveredAgent.seeFirst
  split
  · exact ⟨rfl, rfl⟩
  · exact ⟨rfl, rfl⟩

/-- The first round after an update is the smaller one. -/
theorem update_first : (trackRule.update (role, msg) agent).firstSeenRound =
    if msg.confirmedRound < agent.firstSeenRound then msg.confirmedRound
    else agent.firstSeenRound := by
  have hlast : ∀ other : DiscoveredAgent,
      (other.seeLast msg).firstSeenRound = other.firstSeenRound := by
    intro other
    unfold DiscoveredAgent.seeLast
    split
    · rfl
    · rfl
  show (((agent.count role).seeFirst msg).seeLast msg).firstSeenRound = _
  rw [hlast, DiscoveredAgent.seeFirst, (rounds_count role agent).1]
  split
  · rfl
  · exact (rounds_count role agent).1

/-- The last round after an update is the larger one. -/
theorem update_last : (trackRule.update (role, msg) agent).lastSeenRound =
    if agent.lastSeenRound < msg.confirmedRound then msg.confirmedRound
    else agent.lastSeenRound := by
  have hbefore := (last_see_first msg (agent.count role)).1.trans (rounds_count role agent).2.1
  show (((agent.count role).seeFirst msg).seeLast msg).lastSeenRound = _
  rw [DiscoveredAgent.seeLast, hbefore]
  split
  · rfl
  · exact hbefore

/-- The time after an update is that of the larger last round. -/
theorem update_time : (trackRule.update (role, msg) agent).lastSeenTime =
    if agent.lastSeenRound < msg.confirmedRound then msg.roundTime
    else agent.lastSeenTime := by
  have hbefore := last_see_first msg (agent.count role)
  show (((agent.count role).seeFirst msg).seeLast msg).lastSeenTime = _
  rw [DiscoveredAgent.seeLast, hbefore.1, (rounds_count role agent).2.1]
  split
  · rfl
  · exact hbefore.2.trans (rounds_count role agent).2.2

end Updates

section Sightings

/-- The numbers of an entry are those of the sightings it is made of. -/
structure Summarizes (sightings : List Sighting) (agent : DiscoveredAgent) : Prop where
  sent : agent.sent = sightings.countP fun sighting => sighting.1 = .sender
  received : agent.received = sightings.countP fun sighting => sighting.1 = .receiver
  first_le : ∀ sighting ∈ sightings, agent.firstSeenRound ≤ sighting.2.confirmedRound
  first_mem : ∃ sighting ∈ sightings, sighting.2.confirmedRound = agent.firstSeenRound
  le_last : ∀ sighting ∈ sightings, sighting.2.confirmedRound ≤ agent.lastSeenRound
  last_mem : ∃ sighting ∈ sightings, sighting.2.confirmedRound = agent.lastSeenRound ∧
    sighting.2.roundTime = agent.lastSeenTime

/-- An address that is seen for the first time has the numbers of this sighting. -/
theorem summarizes_first (sighting : Sighting) :
    Summarizes [sighting] (trackRule.update sighting (trackRule.fresh sighting)) := by
  obtain ⟨role, msg⟩ := sighting
  have hfirst : (trackRule.update (role, msg) (trackRule.fresh (role, msg))).firstSeenRound =
      msg.confirmedRound := (update_first ..).trans (ite_self _)
  have hlast : (trackRule.update (role, msg) (trackRule.fresh (role, msg))).lastSeenRound =
      msg.confirmedRound := (update_last ..).trans (ite_self _)
  have htime : (trackRule.update (role, msg) (trackRule.fresh (role, msg))).lastSeenTime =
      msg.roundTime := (update_time ..).trans (ite_self _)
  constructor
  case sent =>
    rw [update_sent]
    cases role with
    | sender => rfl
    | receiver => rfl
  case received =>
    rw [update_received]
    cases role with
    | sender => rfl
    | receiver => rfl
  case first_le =>
    intro other hother
    rw [List.mem_singleton.mp hother, hfirst]
    exact UInt64.le_refl _
  case first_mem => exact ⟨_, List.mem_singleton_self _, hfirst.symm⟩
  case le_last =>
    intro other hother
    rw [List.mem_singleton.mp hother, hlast]
    exact UInt64.le_refl _
  case last_mem => exact ⟨_, List.mem_singleton_self _, hlast.symm, htime.symm⟩

/-- A further sighting is counted, and its round compared with the first and the last. -/
theorem summarizes_step (sightings : List Sighting) (sighting : Sighting)
    (agent : DiscoveredAgent) (h : Summarizes sightings agent) :
    Summarizes (sightings ++ [sighting]) (trackRule.update sighting agent) := by
  obtain ⟨role, msg⟩ := sighting
  have hcons : ∀ {P : Sighting → Prop}, (∀ other ∈ sightings, P other) → P (role, msg) →
      ∀ other ∈ sightings ++ [(role, msg)], P other := by
    intro P hall hnew other hother
    rcases List.mem_append.mp hother with hold | hlast
    · exact hall other hold
    · exact List.mem_singleton.mp hlast ▸ hnew
  have hold : ∀ {P : Sighting → Prop}, (∃ other ∈ sightings, P other) →
      ∃ other ∈ sightings ++ [(role, msg)], P other :=
    fun ⟨other, hother, hP⟩ => ⟨other, List.mem_append_left _ hother, hP⟩
  have hnew : (role, msg) ∈ sightings ++ [(role, msg)] :=
    List.mem_append_right _ (List.mem_singleton_self _)
  constructor
  case sent =>
    rw [update_sent, h.sent, List.countP_append]
    cases role with
    | sender => rfl
    | receiver => rfl
  case received =>
    rw [update_received, h.received, List.countP_append]
    cases role with
    | sender => rfl
    | receiver => rfl
  case first_le =>
    rw [update_first]
    by_cases hlt : msg.confirmedRound < agent.firstSeenRound
    · rw [if_pos hlt]
      exact hcons (fun other hother => UInt64.le_trans (UInt64.le_of_lt hlt)
        (h.first_le other hother)) (UInt64.le_refl _)
    · rw [if_neg hlt]
      exact hcons h.first_le (UInt64.not_lt.mp hlt)
  case first_mem =>
    rw [update_first]
    by_cases hlt : msg.confirmedRound < agent.firstSeenRound
    · rw [if_pos hlt]
      exact ⟨_, hnew, rfl⟩
    · rw [if_neg hlt]
      exact hold h.first_mem
  case le_last =>
    rw [update_last]
    by_cases hlt : agent.lastSeenRound < msg.confirmedRound
    · rw [if_pos hlt]
      exact hcons (fun other hother => UInt64.le_trans (h.le_last other hother)
        (UInt64.le_of_lt hlt)) (UInt64.le_refl _)
    · rw [if_neg hlt]
      exact hcons h.le_last (UInt64.not_lt.mp hlt)
  case last_mem =>
    rw [update_last, update_time]
    by_cases hlt : agent.lastSeenRound < msg.confirmedRound
    · rw [if_pos hlt, if_pos hlt]
      exact ⟨_, hnew, rfl, rfl⟩
    · rw [if_neg hlt, if_neg hlt]
      exact hold h.last_mem

/-- The parts that the loop tracks in a message. -/
def ChainMessage.sightings (msg : ChainMessage) : List Sighting :=
  if msg.receiver.isEmpty then [(.sender, msg)] else [(.sender, msg), (.receiver, msg)]

theorem foldl_track (messages : List ChainMessage) (agents : Table DiscoveredAgent.address) :
    messages.foldl track agents =
      (messages.flatMap ChainMessage.sightings).foldl trackRule.record agents := by
  induction messages generalizing agents with
  | nil => rfl
  | cons msg rest ih =>
      rw [List.foldl_cons, ih, List.flatMap_cons, List.foldl_append]
      congr 1
      unfold track ChainMessage.sightings
      by_cases h : msg.receiver.isEmpty <;> simp [h]

/-- The sightings of an address in a message are the parts it has. -/
theorem mem_sightings_iff {msg : ChainMessage} {sighting : Sighting} {address : String} :
    sighting ∈ msg.sightings ∧ trackRule.eventKey sighting = address ↔
      sighting.2 = msg ∧ Plays address sighting.1 msg := by
  obtain ⟨role, other⟩ := sighting
  unfold ChainMessage.sightings Plays
  show _ ∧ other.addressOf role = address ↔ _
  by_cases h : msg.receiver = ""
  · rw [if_pos (String.isEmpty_iff.mpr h), List.mem_singleton, Prod.mk.injEq]
    constructor
    · rintro ⟨⟨rfl, rfl⟩, rfl⟩
      exact ⟨rfl, rfl, fun heq => nomatch heq⟩
    · rintro ⟨rfl, rfl, hne⟩
      cases role with
      | sender => exact ⟨⟨rfl, rfl⟩, rfl⟩
      | receiver => exact absurd h (hne rfl)
  · rw [if_neg fun hempty => h (String.isEmpty_iff.mp hempty), List.mem_pair]
    constructor
    · rintro ⟨heq | heq, rfl⟩
      · cases heq
        exact ⟨rfl, rfl, fun heq => nomatch heq⟩
      · cases heq
        exact ⟨rfl, rfl, fun _ => h⟩
    · rintro ⟨rfl, rfl, -⟩
      cases role with
      | sender => exact ⟨.inl rfl, rfl⟩
      | receiver => exact ⟨.inr rfl, rfl⟩

/-- The sightings of an address are the parts it has. -/
theorem mem_events_of {messages : List ChainMessage} {address : String} {sighting : Sighting} :
    sighting ∈ trackRule.eventsOf (messages.flatMap ChainMessage.sightings) address ↔
      sighting.2 ∈ messages ∧ Plays address sighting.1 sighting.2 := by
  rw [Rule.eventsOf, List.mem_filter, decide_eq_true_eq, List.mem_flatMap]
  constructor
  · rintro ⟨⟨msg, hmsg, hsighting⟩, hkey⟩
    obtain ⟨rfl, hplays⟩ := mem_sightings_iff.mp ⟨hsighting, hkey⟩
    exact ⟨hmsg, hplays⟩
  · rintro ⟨hmsg, hplays⟩
    obtain ⟨hsighting, hkey⟩ := mem_sightings_iff.mpr ⟨rfl, hplays⟩
    exact ⟨⟨_, hmsg, hsighting⟩, hkey⟩

/-- A message is sighted once for each part that an address has in it. -/
theorem count_sightings (msg : ChainMessage) (address : String) (role : Role) :
    (trackRule.eventsOf msg.sightings address).countP (fun sighting => sighting.1 = role) =
      if Plays address role msg then 1 else 0 := by
  unfold Rule.eventsOf ChainMessage.sightings Plays
  by_cases h : msg.receiver = ""
  · rw [if_pos (String.isEmpty_iff.mpr h)]
    cases role with
    | sender => by_cases hs : msg.sender = address <;> simp [trackRule, ChainMessage.addressOf, hs]
    | receiver =>
        by_cases hs : msg.sender = address <;> simp [trackRule, ChainMessage.addressOf, hs, h]
  · rw [if_neg fun hempty => h (String.isEmpty_iff.mp hempty)]
    cases role with
    | sender =>
        by_cases hs : msg.sender = address <;> by_cases hr : msg.receiver = address <;>
          simp [trackRule, ChainMessage.addressOf, hs, hr]
    | receiver =>
        by_cases hr : msg.receiver = address
        · have hne : address ≠ "" := hr ▸ h
          by_cases hs : msg.sender = address <;>
            simp [trackRule, ChainMessage.addressOf, hs, hr, hne]
        · by_cases hs : msg.sender = address <;> simp [trackRule, ChainMessage.addressOf, hs, hr]

theorem count_events_of (messages : List ChainMessage) (address : String) (role : Role) :
    (trackRule.eventsOf (messages.flatMap ChainMessage.sightings) address).countP
        (fun sighting => sighting.1 = role) =
      messages.countP fun msg => Plays address role msg := by
  induction messages with
  | nil => rfl
  | cons msg rest ih =>
      have happend : trackRule.eventsOf ((msg :: rest).flatMap ChainMessage.sightings) address =
          trackRule.eventsOf msg.sightings address ++
            trackRule.eventsOf (rest.flatMap ChainMessage.sightings) address :=
        List.filter_append _ _
      rw [happend, List.countP_append, count_sightings, ih, List.countP_cons, Nat.add_comm]
      simp only [decide_eq_true_eq]

/-- Numbers of sightings are numbers of messages. -/
theorem Summarizes.describes {messages : List ChainMessage} {agent : DiscoveredAgent}
    (h : Summarizes (trackRule.eventsOf (messages.flatMap ChainMessage.sightings) agent.address)
      agent) : Describes messages agent where
  sent := h.sent.trans (count_events_of messages agent.address .sender)
  received := h.received.trans (count_events_of messages agent.address .receiver)
  first_le msg hmsg role hplays := h.first_le (role, msg) (mem_events_of.mpr ⟨hmsg, hplays⟩)
  first_mem := by
    obtain ⟨sighting, hsighting, hround⟩ := h.first_mem
    obtain ⟨hmsg, hplays⟩ := mem_events_of.mp hsighting
    exact ⟨_, hmsg, ⟨_, hplays⟩, hround⟩
  le_last msg hmsg role hplays := h.le_last (role, msg) (mem_events_of.mpr ⟨hmsg, hplays⟩)
  last_mem := by
    obtain ⟨sighting, hsighting, hround⟩ := h.last_mem
    obtain ⟨hmsg, hplays⟩ := mem_events_of.mp hsighting
    exact ⟨_, hmsg, ⟨_, hplays⟩, hround⟩

end Sightings

section Entries

variable {messages : List ChainMessage}

/-- An address is in the map exactly if it has a part in some message. -/
theorem is_some_lookup_iff (messages : List ChainMessage) (address : String) :
    ((messages.foldl track .empty).lookup address).isSome = true ↔
      ∃ msg ∈ messages, ∃ role, Plays address role msg := by
  rw [foldl_track, (summarizes_of_lookup summarizes_first summarizes_step _ address).1,
    ne_eq, List.eq_nil_iff_forall_not_mem, not_forall_not]
  constructor
  · rintro ⟨sighting, hsighting⟩
    obtain ⟨hmsg, hplays⟩ := mem_events_of.mp hsighting
    exact ⟨_, hmsg, _, hplays⟩
  · rintro ⟨msg, hmsg, role, hplays⟩
    exact ⟨(role, msg), mem_events_of.mpr ⟨hmsg, hplays⟩⟩

/-- The entries of the map have the numbers of their addresses. -/
theorem describes_of_mem {agent : DiscoveredAgent}
    (h : agent ∈ (messages.foldl track .empty).rows) : Describes messages agent := by
  have hlookup := Table.lookup_of_mem h
  rw [foldl_track] at hlookup
  exact ((summarizes_of_lookup summarizes_first summarizes_step _ agent.address).2 agent
    hlookup).describes

/-- What is returned groups the messages by address. -/
theorem aggregates_sort (order : HashOrder) (messages : List ChainMessage) :
    Aggregates messages
      (sortByLastSeen (order.values (messages.foldl track .empty).rows)) := by
  have hperm : (sortByLastSeen (order.values (messages.foldl track .empty).rows)).Perm
      (messages.foldl track .empty).rows :=
    ((Table.RowOrder.stable _).perm _).trans (order.perm _)
  constructor
  case nodup =>
    exact (hperm.map _).nodup_iff.mpr (messages.foldl track .empty).keys_nodup
  case mem_iff =>
    intro address
    rw [(hperm.map _).mem_iff, ← is_some_lookup_iff, Table.is_some_lookup]
  case describes => exact fun agent hagent => describes_of_mem (hperm.mem_iff.mp hagent)
  case sorted =>
    have hsorted := (Table.RowOrder.stable fun agent : DiscoveredAgent =>
      OrderDual.toDual agent.lastSeenRound.toNat).sorted
        (order.values (messages.foldl track .empty).rows)
    exact hsorted.imp fun hle => UInt64.le_iff_toNat_le.mpr hle

/-- The numbers of an entry do not depend on the order of the messages. -/
theorem Describes.perm {permuted : List ChainMessage} {agent : DiscoveredAgent}
    (h : Describes messages agent) (hperm : messages.Perm permuted) :
    Describes permuted agent where
  sent := h.sent.trans (hperm.countP_eq _)
  received := h.received.trans (hperm.countP_eq _)
  first_le msg hmsg := h.first_le msg (hperm.mem_iff.mpr hmsg)
  first_mem := by
    obtain ⟨msg, hmsg, hround⟩ := h.first_mem
    exact ⟨msg, hperm.mem_iff.mp hmsg, hround⟩
  le_last msg hmsg := h.le_last msg (hperm.mem_iff.mpr hmsg)
  last_mem := by
    obtain ⟨msg, hmsg, hround⟩ := h.last_mem
    exact ⟨msg, hperm.mem_iff.mp hmsg, hround⟩

/-- An address has one entry at most that describes it. -/
theorem Describes.unique {first second : DiscoveredAgent} (htimes : SameTimes messages)
    (hfirst : Describes messages first) (hsecond : Describes messages second)
    (haddress : first.address = second.address) : first = second := by
  obtain ⟨low, hlow, ⟨lowRole, hlowPlays⟩, hlowRound⟩ := hfirst.first_mem
  obtain ⟨low', hlow', ⟨lowRole', hlowPlays'⟩, hlowRound'⟩ := hsecond.first_mem
  obtain ⟨high, hhigh, ⟨highRole, hhighPlays⟩, hhighRound, hhighTime⟩ := hfirst.last_mem
  obtain ⟨high', hhigh', ⟨highRole', hhighPlays'⟩, hhighRound', hhighTime'⟩ := hsecond.last_mem
  have hfirstSeen : first.firstSeenRound = second.firstSeenRound := by
    have hle := hfirst.first_le low' hlow' lowRole' (haddress ▸ hlowPlays')
    have hge := hsecond.first_le low hlow lowRole (haddress ▸ hlowPlays)
    rw [hlowRound'] at hle
    rw [hlowRound] at hge
    exact UInt64.le_antisymm hle hge
  have hlastSeen : first.lastSeenRound = second.lastSeenRound := by
    have hge := hfirst.le_last high' hhigh' highRole' (haddress ▸ hhighPlays')
    have hle := hsecond.le_last high hhigh highRole (haddress ▸ hhighPlays)
    rw [hhighRound'] at hge
    rw [hhighRound] at hle
    exact UInt64.le_antisymm hle hge
  have htime : first.lastSeenTime = second.lastSeenTime := by
    have hsame := htimes high hhigh high' hhigh'
      (hhighRound.trans (hlastSeen.trans hhighRound'.symm))
    exact hhighTime.symm.trans (hsame.trans hhighTime')
  have hsent : first.sent = second.sent := by
    rw [hfirst.sent, hsecond.sent, haddress]
  have hreceived : first.received = second.received := by
    rw [hfirst.received, hsecond.received, haddress]
  exact DiscoveredAgent.ext haddress hsent hreceived hfirstSeen hlastSeen htime

/-- Every description of an address with a part in some message is an entry. -/
theorem Aggregates.subset {permuted : List ChainMessage} {agents others : List DiscoveredAgent}
    (htimes : SameTimes messages) (hperm : messages.Perm permuted)
    (h : Aggregates messages agents) (hothers : Aggregates permuted others)
    {agent : DiscoveredAgent} (hagent : agent ∈ agents) : agent ∈ others := by
  obtain ⟨msg, hmsg, hplays⟩ := (h.mem_iff agent.address).mp (List.mem_map_of_mem hagent)
  obtain ⟨other, hother, haddress⟩ := List.mem_map.mp
    ((hothers.mem_iff agent.address).mpr ⟨msg, hperm.mem_iff.mp hmsg, hplays⟩)
  have hsame := ((hothers.describes other hother).perm hperm.symm).unique htimes
    (h.describes agent hagent) haddress
  exact hsame ▸ hother

/-- Two ways to group the same messages have the same entries. -/
theorem Aggregates.perm {permuted : List ChainMessage} {agents others : List DiscoveredAgent}
    (htimes : SameTimes messages) (hperm : messages.Perm permuted)
    (h : Aggregates messages agents) (hothers : Aggregates permuted others) :
    agents.Perm others := by
  have htimes' : SameTimes permuted := fun first hfirst second hsecond =>
    htimes first (hperm.mem_iff.mpr hfirst) second (hperm.mem_iff.mpr hsecond)
  refine (List.perm_ext_iff_of_nodup (List.Nodup.of_map _ h.nodup)
    (List.Nodup.of_map _ hothers.nodup)).mpr fun agent => ⟨?_, ?_⟩
  · exact h.subset htimes hperm hothers
  · exact hothers.subset htimes' hperm.symm h

end Entries

/-- The agents that are discovered in the transactions of an answer: one entry for each address
with its numbers, the one seen last first, and the same entries for every order of the
transactions and of the hash map. -/
theorem discover_agents_aggregates (order : HashOrder) (transactions : List IndexerTransaction)
    (htimes : SameTimes (transactions.map chainMessage)) (afterRound : Option UInt64)
    (limit : Option UInt32) :
    ∃ agents, discoverAgents order (fun _ => .ok (some transactions)) afterRound limit =
        .ok agents ∧
      Aggregates (transactions.map chainMessage) agents ∧
      ∀ (other : HashOrder) (permuted : List IndexerTransaction), transactions.Perm permuted →
        ∃ others, discoverAgents other (fun _ => .ok (some permuted)) afterRound limit =
            .ok others ∧
          agents.Perm others := by
  refine ⟨_, rfl, aggregates_sort order _, fun other permuted hperm => ⟨_, rfl, ?_⟩⟩
  exact (aggregates_sort order _).perm htimes (hperm.map chainMessage) (aggregates_sort other _)

/-- The agents of two payments by alice. -/
theorem discover_agents_aggregates_two :
    ∃ agents, discoverAgents ⟨id, List.Perm.refl⟩
        (fun _ => .ok (some paymentsOfAlice.history)) none none = .ok agents ∧
      Aggregates (paymentsOfAlice.history.map chainMessage) agents := by
  have htimes : SameTimes (paymentsOfAlice.history.map chainMessage) := by
    unfold SameTimes
    decide +kernel
  obtain ⟨agents, hagents, haggregates, -⟩ := discover_agents_aggregates ⟨id, List.Perm.refl⟩
    paymentsOfAlice.history htimes none none
  exact ⟨agents, hagents, haggregates⟩

end CorvidNano.Agent.Discovery
