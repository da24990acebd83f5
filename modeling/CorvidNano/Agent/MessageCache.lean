import CorvidNano.Library.Table
import Mathlib.Algebra.Group.Int.Defs
import Mathlib.Algebra.Group.Nat.Defs
import Mathlib.Data.List.Forall2
import Mathlib.Data.List.Induction
import Mathlib.Data.List.Perm.Basic
import Mathlib.Logic.Function.Basic

/-!
# The message cache

`SqliteMessageCache` of `storage.rs`: a table of messages keyed by the transaction identifier,
and a table of sync rounds keyed by the participant. `cache_refines_log` says that over every
run of operations the cache answers as a log for each conversation does, where a message is
recorded unless its identifier is held already, in whichever conversation.
-/

namespace CorvidNano.Agent.MessageCache

/-- `i64::MAX`. -/
def i64Max : Nat := 2 ^ 63 - 1

/-- A value of an `INTEGER` column. -/
structure SqlInteger where
  value : Int
  lower : -2 ^ 63 ≤ value
  upper : value < 2 ^ 63
  deriving DecidableEq

/-- How an operation fails: the `StorageFailed` of `map_db_err` with its cause, or a panic. -/
inductive Failure where
  | toSqlConversionFailure
  | integralValueOutOfRange (column : Nat) (value : Int)
  | panicked
  deriving DecidableEq

/-- A `u64` as a parameter of a statement. -/
def toSql (n : Nat) : Except Failure SqlInteger :=
  if h : n ≤ i64Max then
    .ok ⟨n, by omega, by unfold i64Max at h; omega⟩
  else .error .toSqlConversionFailure

/-- A `u64` read from a column. -/
def fromSql (column : Nat) (i : SqlInteger) : Except Failure Nat :=
  if 0 ≤ i.value then .ok i.value.toNat
  else .error (.integralValueOutOfRange column i.value)

/-- `SystemTime`: seconds from `UNIX_EPOCH`, and the nanoseconds after them. -/
structure SystemTime where
  secs : Int
  nanos : Nat
  lower : -2 ^ 63 ≤ secs
  upper : secs < 2 ^ 63
  nanos_lt : nanos < 10 ^ 9
  deriving DecidableEq

/-- The order of time. -/
instance : LE SystemTime where
  le first second :=
    first.secs < second.secs ∨ first.secs = second.secs ∧ first.nanos ≤ second.nanos

/-- `duration_since(UNIX_EPOCH).unwrap_or(Duration::ZERO).as_secs()`. -/
def SystemTime.secsSinceEpoch (time : SystemTime) : Nat :=
  time.secs.toNat

/-- `UNIX_EPOCH + Duration::from_secs(secs)`. -/
def epochPlus (secs : Nat) : Except Failure SystemTime :=
  if h : secs < 2 ^ 63 then
    .ok ⟨secs, 0, by omega, by omega, by decide⟩
  else .error .panicked

/-- `MessageDirection`. -/
inductive MessageDirection where
  | sent
  | received
  deriving DecidableEq

/-- `ReplyContext`. -/
structure ReplyContext where
  messageId : String
  preview : String
  deriving DecidableEq

/-- `Message`. -/
structure Message where
  id : String
  sender : String
  recipient : String
  content : String
  timestamp : SystemTime
  confirmedRound : Nat
  direction : MessageDirection
  replyContext : Option ReplyContext
  deriving DecidableEq

/-- A row of the table `messages`. -/
structure MessageRow where
  id : String
  participant : String
  sender : String
  recipient : String
  content : String
  timestampSecs : SqlInteger
  confirmedRound : SqlInteger
  direction : String
  replyToId : Option String
  replyToPreview : Option String
  deriving DecidableEq

/-- A row of the table `sync_rounds`. -/
structure SyncRoundRow where
  participant : String
  lastRound : SqlInteger
  deriving DecidableEq

/-- The database of a `SqliteMessageCache`. -/
structure SqliteMessageCache where
  messages : Table MessageRow.id
  syncRounds : Table SyncRoundRow.participant

/-- The database after `init_tables` on a new file. -/
def SqliteMessageCache.new : SqliteMessageCache where
  messages := Table.empty
  syncRounds := Table.empty

/-- `direction_str` of `store`. -/
def directionStr : MessageDirection → String
  | .sent => "sent"
  | .received => "received"

/-- The parameters that `store` binds for a message. -/
def messageParams (participant : String) (msg : Message) : Except Failure MessageRow := do
  let timestampSecs ← toSql msg.timestamp.secsSinceEpoch
  let confirmedRound ← toSql msg.confirmedRound
  return { id := msg.id
           participant := participant
           sender := msg.sender
           recipient := msg.recipient
           content := msg.content
           timestampSecs := timestampSecs
           confirmedRound := confirmedRound
           direction := directionStr msg.direction
           replyToId := msg.replyContext.map ReplyContext.messageId
           replyToPreview := msg.replyContext.map ReplyContext.preview }

/-- `row_to_message`. -/
def rowToMessage (row : MessageRow) : Except Failure Message := do
  let timestampSecs ← fromSql 5 row.timestampSecs
  let confirmedRound ← fromSql 6 row.confirmedRound
  let direction := if row.direction = "sent" then .sent else .received
  let timestamp ← epochPlus timestampSecs
  let replyContext := row.replyToId.map fun rid => ⟨rid, row.replyToPreview.getD ""⟩
  return { id := row.id
           sender := row.sender
           recipient := row.recipient
           content := row.content
           timestamp := timestamp
           confirmedRound := confirmedRound
           direction := direction
           replyContext := replyContext }

/-- The value that `ORDER BY timestamp_secs` compares. -/
def MessageRow.sortKey (row : MessageRow) : Int :=
  row.timestampSecs.value

namespace SqliteMessageCache

/-- `store`: the messages before the one that fails stay. -/
def store (participant : String) :
    List Message → SqliteMessageCache → SqliteMessageCache × Except Failure Unit
  | [], cache => (cache, .ok ())
  | msg :: rest, cache =>
      match messageParams participant msg with
      -- No transaction is open: what was inserted before stays.
      | .error failure => (cache, .error failure)
      | .ok row => store participant rest
          { cache with messages := cache.messages.insertOrIgnore row }

/-- `retrieve`, with the order that the engine gives to rows of one second. -/
def retrieve (cache : SqliteMessageCache) (participant : String) (afterRound : Option Nat)
    (order : Table.RowOrder MessageRow.sortKey) : Except Failure (List Message) :=
  match afterRound with
  | some round => do
      let round ← toSql round
      (order.arrange (cache.messages.select fun row =>
        row.participant = participant && round.value < row.confirmedRound.value)).mapM rowToMessage
  | none =>
      (order.arrange (cache.messages.select fun row =>
        row.participant = participant)).mapM rowToMessage

/-- `get_last_sync_round`. -/
def getLastSyncRound (cache : SqliteMessageCache) (participant : String) :
    Except Failure (Option Nat) :=
  match cache.syncRounds.lookup participant with
  | some row => do
      let round ← fromSql 0 row.lastRound
      return some round
  | none => .ok none

/-- `set_last_sync_round`. -/
def setLastSyncRound (cache : SqliteMessageCache) (round : Nat) (participant : String) :
    SqliteMessageCache × Except Failure Unit :=
  match toSql round with
  | .error failure => (cache, .error failure)
  | .ok lastRound =>
      ({ cache with syncRounds := cache.syncRounds.insertOrReplace ⟨participant, lastRound⟩ },
        .ok ())

/-- `clear`. -/
def clear (cache : SqliteMessageCache) : SqliteMessageCache where
  messages := cache.messages.deleteWhere fun _ => true
  syncRounds := cache.syncRounds.deleteWhere fun _ => true

/-- `clear_for`. -/
def clearFor (cache : SqliteMessageCache) (participant : String) : SqliteMessageCache where
  messages := cache.messages.deleteWhere fun row => row.participant = participant
  syncRounds := cache.syncRounds.deleteWhere fun row => row.participant = participant

end SqliteMessageCache

/-- An operation of the cache. A retrieval carries the order among rows of one second. -/
inductive Operation where
  | store (messages : List Message) (participant : String)
  | retrieve (participant : String) (afterRound : Option Nat)
      (order : Table.RowOrder MessageRow.sortKey)
  | setLastSyncRound (round : Nat) (participant : String)
  | getLastSyncRound (participant : String)
  | clear
  | clearFor (participant : String)

/-- What an operation returns. -/
inductive Answer where
  | done
  | messages (retrieved : List Message)
  | lastRound (round : Option Nat)
  deriving DecidableEq

/-- An operation on the cache, with its answer. -/
def step (cache : SqliteMessageCache) :
    Operation → SqliteMessageCache × Except Failure Answer
  | .store messages participant =>
      let (next, result) := SqliteMessageCache.store participant messages cache
      (next, result.map fun _ => .done)
  | .retrieve participant afterRound order =>
      (cache, (cache.retrieve participant afterRound order).map .messages)
  | .setLastSyncRound round participant =>
      let (next, result) := cache.setLastSyncRound round participant
      (next, result.map fun _ => .done)
  | .getLastSyncRound participant =>
      (cache, (cache.getLastSyncRound participant).map .lastRound)
  | .clear => (cache.clear, .ok .done)
  | .clearFor participant => (cache.clearFor participant, .ok .done)

/-- The cache after operations on a new one. -/
def run (operations : List Operation) : SqliteMessageCache :=
  operations.foldl (fun cache operation => (step cache operation).1) .new

/-! ## The log of a conversation -/

/-- What is kept for a participant. -/
structure Conversation where
  log : List Message
  lastSyncRound : Option Nat

/-- A conversation for every participant. -/
abbrev Conversations := String → Conversation

/-- No conversation has begun. -/
def Conversations.new : Conversations := fun _ => ⟨[], none⟩

/-- An identifier is in the log of a participant. -/
def HeldFor (conversations : Conversations) (participant id : String) : Prop :=
  ∃ msg ∈ (conversations participant).log, msg.id = id

/-- An identifier is in some log. -/
def Held (conversations : Conversations) (_participant id : String) : Prop :=
  ∃ other, HeldFor conversations other id

section Specification

open Classical in
/-- Append a message to the log of a participant, unless its identifier is taken. -/
noncomputable def record (taken : Conversations → String → String → Prop)
    (participant : String) (conversations : Conversations) (msg : Message) : Conversations :=
  if taken conversations participant msg.id then conversations
  else Function.update conversations participant
    { conversations participant with log := (conversations participant).log ++ [msg] }

/-- What an operation does to the conversations. -/
noncomputable def specStep (taken : Conversations → String → String → Prop)
    (conversations : Conversations) : Operation → Conversations
  | .store messages participant => messages.foldl (record taken participant) conversations
  | .setLastSyncRound round participant => Function.update conversations participant
      { conversations participant with lastSyncRound := some round }
  | .clear => .new
  | .clearFor participant => Function.update conversations participant ⟨[], none⟩
  | .retrieve .. | .getLastSyncRound .. => conversations

/-- The conversations after operations on new ones. -/
noncomputable def specRun (taken : Conversations → String → String → Prop)
    (operations : List Operation) : Conversations :=
  operations.foldl (specStep taken) .new

end Specification

/-- A message with a round that a column can hold, and a whole second not before the epoch. -/
def Message.InDomain (msg : Message) : Prop :=
  msg.confirmedRound ≤ i64Max ∧ 0 ≤ msg.timestamp.secs ∧ msg.timestamp.nanos = 0

/-- An operation whose messages and rounds a column can hold. -/
def Operation.InDomain : Operation → Prop
  | .store messages _ => ∀ msg ∈ messages, msg.InDomain
  | .retrieve _ afterRound _ => ∀ round ∈ afterRound, round ≤ i64Max
  | .setLastSyncRound round _ => round ≤ i64Max
  | .getLastSyncRound _ | .clear | .clearFor _ => True

/-- A message is confirmed after a round, if one is given. -/
def isAfter (afterRound : Option Nat) (msg : Message) : Bool :=
  afterRound.all fun round => round < msg.confirmedRound

/-- The answer that the conversations call for. -/
def Answers (conversations : Conversations) :
    Operation → Except Failure Answer → Prop
  | .retrieve participant afterRound _, answer => ∃ retrieved,
      answer = .ok (.messages retrieved) ∧
      retrieved.Perm ((conversations participant).log.filter (isAfter afterRound)) ∧
      (retrieved.map Message.id).Nodup ∧
      retrieved.Pairwise fun first second => first.timestamp ≤ second.timestamp
  | .getLastSyncRound participant, answer =>
      answer = .ok (.lastRound (conversations participant).lastSyncRound)
  | .store .., answer | .setLastSyncRound .., answer | .clear, answer | .clearFor .., answer =>
      answer = .ok .done

/-! ## Rows of messages -/

/-- Numbers up to `i64::MAX` become columns of the same value. -/
theorem to_sql_of_le {n : Nat} (h : n ≤ i64Max) :
    ∃ i : SqlInteger, toSql n = .ok i ∧ i.value = n :=
  ⟨_, dif_pos h, rfl⟩

/-- A column that holds a natural number is read back as that number. -/
theorem from_sql_of_value {n : Nat} {i : SqlInteger} (h : i.value = n) (column : Nat) :
    fromSql column i = .ok n := by
  have hle : 0 ≤ i.value := by omega
  rw [fromSql, if_pos hle, h, Int.toNat_natCast]

/-- A whole second not before the epoch is the epoch and its seconds. -/
theorem epoch_plus_secs {time : SystemTime} (hsecs : 0 ≤ time.secs) (hnanos : time.nanos = 0) :
    epochPlus time.secsSinceEpoch = .ok time := by
  obtain ⟨secs, nanos, lower, upper, nanos_lt⟩ := time
  obtain ⟨n, rfl⟩ := Int.eq_ofNat_of_zero_le hsecs
  subst hnanos
  have hlt : n < 2 ^ 63 := by omega
  show epochPlus (n : Int).toNat = _
  rw [Int.toNat_natCast, epochPlus, dif_pos hlt]

/-- The direction survives its column. -/
theorem direction_str_decoded (direction : MessageDirection) :
    (if directionStr direction = "sent" then MessageDirection.sent else .received) =
      direction := by
  cases direction with
  | sent => rfl
  | received => rfl

/-- The reply context survives its two columns. -/
theorem reply_context_decoded (context : Option ReplyContext) :
    ((context.map ReplyContext.messageId).map fun rid =>
      (⟨rid, (context.map ReplyContext.preview).getD ""⟩ : ReplyContext)) = context := by
  cases context with
  | none => rfl
  | some context => rfl

/-- A row that holds a message for a participant. -/
structure Stores (participant : String) (row : MessageRow) (msg : Message) : Prop where
  id_eq : row.id = msg.id
  participant_eq : row.participant = participant
  round_eq : row.confirmedRound.value = msg.confirmedRound
  time_eq : row.timestampSecs.value = msg.timestamp.secs
  whole : msg.timestamp.nanos = 0
  decoded : rowToMessage row = .ok msg

/-- A message of the domain is bound to a row that holds it. -/
theorem message_params_stores (participant : String) {msg : Message} (h : msg.InDomain) :
    ∃ row, messageParams participant msg = .ok row ∧ Stores participant row msg := by
  obtain ⟨hround, hsecs, hnanos⟩ := h
  have htime : (msg.timestamp.secsSinceEpoch : Int) = msg.timestamp.secs :=
    Int.toNat_of_nonneg hsecs
  have hle : msg.timestamp.secsSinceEpoch ≤ i64Max := by
    have := msg.timestamp.upper
    unfold i64Max
    omega
  obtain ⟨secs, htoSecs, hsecsValue⟩ := to_sql_of_le hle
  obtain ⟨round, htoRound, hroundValue⟩ := to_sql_of_le hround
  refine ⟨_, by rw [messageParams, htoSecs, htoRound]; rfl, rfl, rfl, hroundValue,
    hsecsValue.trans htime, hnanos, ?_⟩
  simp only [rowToMessage, from_sql_of_value hsecsValue, from_sql_of_value hroundValue,
    direction_str_decoded, reply_context_decoded]
  show (epochPlus msg.timestamp.secsSinceEpoch >>= fun timestamp => _) = _
  rw [epoch_plus_secs hsecs hnanos]
  rfl

/-! ## The cache represents the conversations -/

/-- The rows of a participant. -/
def SqliteMessageCache.rowsOf (cache : SqliteMessageCache) (participant : String) :
    List MessageRow :=
  cache.messages.select fun row => row.participant = participant

/-- The rows of each participant hold the log of its conversation, in order. -/
structure Represents (cache : SqliteMessageCache) (conversations : Conversations) : Prop where
  rows_stored : ∀ participant, List.Forall₂ (Stores participant)
    (cache.rowsOf participant) (conversations participant).log
  rounds_eq : ∀ participant,
    (cache.syncRounds.lookup participant).map (fun row => row.lastRound.value) =
      (conversations participant).lastSyncRound.map Int.ofNat

/-- A field that rows share with their messages reads the same in both lists. -/
theorem stored_map_eq {Field : Type*} {rowField : MessageRow → Field}
    {msgField : Message → Field} {participant : String} {rows : List MessageRow}
    {log : List Message} (h : List.Forall₂ (Stores participant) rows log)
    (hfield : ∀ row msg, Stores participant row msg → rowField row = msgField msg) :
    rows.map rowField = log.map msgField := by
  induction h with
  | nil => rfl
  | cons hhead _ ih => rw [List.map_cons, List.map_cons, hfield _ _ hhead, ih]

/-- Rows have the identifiers of the messages that they hold. -/
theorem stored_ids {participant : String} {rows : List MessageRow} {log : List Message}
    (h : List.Forall₂ (Stores participant) rows log) :
    rows.map MessageRow.id = log.map Message.id :=
  stored_map_eq h fun _ _ hrow => hrow.id_eq

/-- Messages that rows hold have whole seconds. -/
theorem stored_whole {participant : String} {rows : List MessageRow} {log : List Message}
    (h : List.Forall₂ (Stores participant) rows log) :
    ∀ msg ∈ log, msg.timestamp.nanos = 0 := by
  induction h with
  | nil => simp
  | cons hhead _ ih => exact List.forall_mem_cons.mpr ⟨hhead.whole, ih⟩

/-- An identifier is a key of the table when it is in some log. -/
theorem mem_keys_iff_held {cache : SqliteMessageCache} {conversations : Conversations}
    (h : Represents cache conversations) (participant id : String) :
    id ∈ cache.messages.rows.map MessageRow.id ↔ Held conversations participant id := by
  have hids : ∀ other, id ∈ (cache.rowsOf other).map MessageRow.id ↔
      HeldFor conversations other id := by
    intro other
    rw [stored_ids (h.rows_stored other), List.mem_map]
    rfl
  constructor
  · intro hmem
    obtain ⟨row, hrow, rfl⟩ := List.mem_map.mp hmem
    refine ⟨row.participant, (hids row.participant).mp (List.mem_map_of_mem ?_)⟩
    exact List.mem_filter.mpr ⟨hrow, by simp⟩
  · intro hheld
    obtain ⟨other, hother⟩ := hheld
    obtain ⟨row, hrow, hid⟩ := List.mem_map.mp ((hids other).mpr hother)
    exact hid ▸ List.mem_map_of_mem (List.mem_filter.mp hrow).1

/-- A new cache represents conversations that have not begun. -/
theorem new_represents : Represents .new .new where
  rows_stored _ := List.Forall₂.nil
  rounds_eq _ := rfl

/-- A change of one participant's rows and round is an update of its conversation. -/
theorem Represents.update {cache next : SqliteMessageCache} {conversations : Conversations}
    (h : Represents cache conversations) {participant : String} {conversation : Conversation}
    (hrows : ∀ other, other ≠ participant → next.rowsOf other = cache.rowsOf other)
    (hrounds : ∀ other, other ≠ participant →
      next.syncRounds.lookup other = cache.syncRounds.lookup other)
    (hlog : List.Forall₂ (Stores participant) (next.rowsOf participant) conversation.log)
    (hround : (next.syncRounds.lookup participant).map (fun row => row.lastRound.value) =
      conversation.lastSyncRound.map Int.ofNat) :
    Represents next (Function.update conversations participant conversation) := by
  refine ⟨fun other => ?_, fun other => ?_⟩
  · by_cases hother : other = participant
    · subst hother
      rwa [Function.update_self]
    · rw [hrows other hother, Function.update_of_ne hother]
      exact h.rows_stored other
  · by_cases hother : other = participant
    · subst hother
      rwa [Function.update_self]
    · rw [hrounds other hother, Function.update_of_ne hother]
      exact h.rounds_eq other

/-- A row that is inserted comes last among those of its participant. -/
theorem rows_of_insert_self {cache : SqliteMessageCache} {row : MessageRow}
    (hnot : row.id ∉ cache.messages.rows.map MessageRow.id) :
    ({ cache with messages := cache.messages.insertOrIgnore row } :
      SqliteMessageCache).rowsOf row.participant = cache.rowsOf row.participant ++ [row] := by
  simp [SqliteMessageCache.rowsOf, Table.select, Table.rows_insert_or_ignore_of_not_mem hnot]

/-- It is not among those of another participant. -/
theorem rows_of_insert_other (cache : SqliteMessageCache) {row : MessageRow} {other : String}
    (hother : other ≠ row.participant) :
    ({ cache with messages := cache.messages.insertOrIgnore row } :
      SqliteMessageCache).rowsOf other = cache.rowsOf other :=
  Table.select_insert_or_ignore_of_not (by simp [Ne.symm hother])

/-- An insertion of a row represents the record of its message. -/
theorem record_represents {cache : SqliteMessageCache} {conversations : Conversations}
    (h : Represents cache conversations) {participant : String} {row : MessageRow}
    {msg : Message} (hrow : Stores participant row msg) :
    Represents { cache with messages := cache.messages.insertOrIgnore row }
      (record Held participant conversations msg) := by
  obtain rfl := hrow.participant_eq
  have hkeys := mem_keys_iff_held h row.participant row.id
  rw [hrow.id_eq] at hkeys
  unfold record
  -- `INSERT OR IGNORE` looks at the primary key alone, so at the logs of all participants.
  by_cases htaken : Held conversations row.participant msg.id
  · have hmem : row.id ∈ cache.messages.rows.map MessageRow.id := hrow.id_eq ▸ hkeys.mpr htaken
    rw [if_pos htaken, Table.insert_or_ignore_of_mem hmem]
    exact h
  · have hnot : row.id ∉ cache.messages.rows.map MessageRow.id :=
      hrow.id_eq ▸ fun hmem => htaken (hkeys.mp hmem)
    rw [if_neg htaken]
    refine h.update (fun other hother => rows_of_insert_other cache hother)
      (fun other _ => rfl) ?_ (h.rounds_eq row.participant)
    rw [rows_of_insert_self hnot]
    exact List.rel_append (h.rows_stored row.participant) (.cons hrow .nil)

/-- A batch of the domain is stored, and represents the record of its messages in order. -/
theorem store_represents {cache : SqliteMessageCache} {conversations : Conversations}
    (h : Represents cache conversations) (participant : String) {messages : List Message}
    (hdomain : ∀ msg ∈ messages, msg.InDomain) :
    (SqliteMessageCache.store participant messages cache).2 = .ok () ∧
      Represents (SqliteMessageCache.store participant messages cache).1
        (messages.foldl (record Held participant) conversations) := by
  induction messages generalizing cache conversations with
  | nil => exact ⟨rfl, h⟩
  | cons msg rest ih =>
      obtain ⟨row, hparams, hrow⟩ :=
        message_params_stores participant (hdomain msg List.mem_cons_self)
      rw [SqliteMessageCache.store, hparams]
      exact ih (record_represents h hrow) fun other hother =>
        hdomain other (List.mem_cons_of_mem _ hother)

/-- A sync round is set for its participant only, and no row changes. -/
theorem set_last_sync_round_other (cache : SqliteMessageCache) {participant other : String}
    (hother : other ≠ participant) (round : Nat) :
    (cache.setLastSyncRound round participant).1.rowsOf other = cache.rowsOf other ∧
      (cache.setLastSyncRound round participant).1.syncRounds.lookup other =
        cache.syncRounds.lookup other := by
  unfold SqliteMessageCache.setLastSyncRound
  cases hround : toSql round with
  | error failure => exact ⟨rfl, rfl⟩
  | ok lastRound =>
      refine ⟨rfl, ?_⟩
      show (cache.syncRounds.insertOrReplace _).lookup other = _
      rw [Table.lookup_insert_or_replace, if_neg (Ne.symm hother)]

/-- A sync round up to `i64::MAX` is set, and is the last one. -/
theorem set_last_sync_round_represents {cache : SqliteMessageCache}
    {conversations : Conversations} (h : Represents cache conversations)
    (participant : String) {round : Nat} (hround : round ≤ i64Max) :
    (cache.setLastSyncRound round participant).2 = .ok () ∧
      Represents (cache.setLastSyncRound round participant).1
        (Function.update conversations participant
          { conversations participant with lastSyncRound := some round }) := by
  have hothers := fun other (hother : other ≠ participant) =>
    set_last_sync_round_other cache hother round
  obtain ⟨i, hi, hvalue⟩ := to_sql_of_le hround
  rw [SqliteMessageCache.setLastSyncRound, hi] at hothers ⊢
  refine ⟨rfl, h.update (fun other hother => (hothers other hother).1)
    (fun other hother => (hothers other hother).2) (h.rows_stored participant) ?_⟩
  show ((cache.syncRounds.insertOrReplace ⟨participant, i⟩).lookup participant).map _ = _
  rw [Table.lookup_insert_or_replace, if_pos rfl]
  exact congrArg some hvalue

/-- A cleared cache represents conversations that have not begun. -/
theorem clear_represents (cache : SqliteMessageCache) : Represents cache.clear .new := by
  have hrows : cache.clear.messages.rows = [] := List.filter_eq_nil_iff.mpr (by simp)
  have hrounds : cache.clear.syncRounds.rows = [] := List.filter_eq_nil_iff.mpr (by simp)
  refine ⟨fun participant => ?_, fun participant => ?_⟩
  · rw [SqliteMessageCache.rowsOf, Table.select, hrows]
    exact .nil
  · rw [Table.lookup, hrounds]
    rfl

/-- What is left for a participant when another one is cleared. -/
theorem rows_of_clear_for (cache : SqliteMessageCache) (participant other : String) :
    (cache.clearFor participant).rowsOf other =
      if other = participant then [] else cache.rowsOf other := by
  show ((cache.messages.rows.filter _).filter _ : List MessageRow) = _
  rw [List.filter_filter]
  by_cases hother : other = participant
  · subst hother
    rw [if_pos rfl, List.filter_eq_nil_iff]
    simp
  · rw [if_neg hother]
    refine List.filter_congr fun row _ => ?_
    by_cases hrow : row.participant = other
    · simp [hrow, hother]
    · simp [hrow]

/-- What is left of the sync rounds. -/
theorem sync_round_of_clear_for (cache : SqliteMessageCache) (participant other : String) :
    (cache.clearFor participant).syncRounds.lookup other =
      if other = participant then none else cache.syncRounds.lookup other := by
  show (cache.syncRounds.deleteWhere _).lookup other = _
  rw [Table.lookup_delete_where]
  simp only [eq_comm]

/-- After `clear_for` the conversation of the participant has not begun. -/
theorem clear_for_represents {cache : SqliteMessageCache} {conversations : Conversations}
    (h : Represents cache conversations) (participant : String) :
    Represents (cache.clearFor participant)
      (Function.update conversations participant ⟨[], none⟩) := by
  refine h.update (fun other hother => ?_) (fun other hother => ?_) ?_ ?_
  · rw [rows_of_clear_for, if_neg hother]
  · rw [sync_round_of_clear_for, if_neg hother]
  · rw [rows_of_clear_for, if_pos rfl]
    exact .nil
  · rw [sync_round_of_clear_for, if_pos rfl]
    rfl

/-- An operation of the domain represents what it does to the conversations. -/
theorem step_represents {cache : SqliteMessageCache} {conversations : Conversations}
    (h : Represents cache conversations) {operation : Operation} (hdomain : operation.InDomain) :
    Represents (step cache operation).1 (specStep Held conversations operation) := by
  cases operation with
  | store messages participant => exact (store_represents h participant hdomain).2
  | retrieve participant afterRound order => exact h
  | setLastSyncRound round participant =>
      exact (set_last_sync_round_represents h participant hdomain).2
  | getLastSyncRound participant => exact h
  | clear => exact clear_represents cache
  | clearFor participant => exact clear_for_represents h participant

/-- After operations of the domain, the cache represents the conversations. -/
theorem run_represents {operations : List Operation}
    (hdomain : ∀ operation ∈ operations, operation.InDomain) :
    Represents (run operations) (specRun Held operations) := by
  induction operations using List.reverseRecOn with
  | nil => exact new_represents
  | append_singleton operations operation ih =>
      rw [run, specRun, List.foldl_concat, List.foldl_concat]
      refine step_represents (ih fun other hother => ?_) (hdomain operation (by simp))
      exact hdomain other (List.mem_append_left _ hother)

/-! ## The answers -/

/-- Rows in any order are read back as their messages in that order. -/
theorem map_m_row_to_message {participant : String} {rows arranged : List MessageRow}
    {log : List Message} (hstored : List.Forall₂ (Stores participant) rows log)
    (hperm : arranged.Perm rows) :
    ∃ retrieved, arranged.mapM rowToMessage = .ok retrieved ∧ retrieved.Perm log ∧
      List.Forall₂ (Stores participant) arranged retrieved := by
  -- The messages are permuted along with the rows that hold them.
  have hcomp : Relation.Comp List.Perm (List.Forall₂ (Stores participant)) arranged log :=
    ⟨rows, hperm, hstored⟩
  rw [← List.forall₂_comp_perm_eq_perm_comp_forall₂] at hcomp
  obtain ⟨retrieved, hretrieved, hlog⟩ := hcomp
  refine ⟨retrieved, ?_, hlog, hretrieved⟩
  clear hperm hlog
  induction hretrieved with
  | nil => rfl
  | cons hhead _ ih => rw [List.mapM_cons, hhead.decoded, ih]; rfl

/-- The rows of a participant after a round. -/
def SqliteMessageCache.rowsAfter (cache : SqliteMessageCache) (participant : String)
    (afterRound : Option Nat) : List MessageRow :=
  (cache.rowsOf participant).filter fun row =>
    afterRound.all fun round : Nat => (round : Int) < row.confirmedRound.value

/-- A condition on the rows of a participant selects among these rows. -/
theorem select_and (cache : SqliteMessageCache) (participant : String)
    (condition : MessageRow → Bool) :
    (cache.messages.select fun row => row.participant = participant && condition row) =
      (cache.rowsOf participant).filter condition := by
  unfold SqliteMessageCache.rowsOf Table.select
  rw [List.filter_filter]
  simp only [Bool.and_comm]

/-- A retrieval of the domain reads back the rows of the participant after the round. -/
theorem retrieve_eq (cache : SqliteMessageCache) (participant : String)
    {afterRound : Option Nat} (hdomain : ∀ round ∈ afterRound, round ≤ i64Max)
    (order : Table.RowOrder MessageRow.sortKey) :
    cache.retrieve participant afterRound order =
      (order.arrange (cache.rowsAfter participant afterRound)).mapM rowToMessage := by
  cases afterRound with
  | none =>
      have hall : cache.rowsAfter participant none = cache.rowsOf participant :=
        List.filter_eq_self.mpr fun _ _ => rfl
      rw [hall]
      rfl
  | some round =>
      obtain ⟨i, hi, hvalue⟩ := to_sql_of_le (hdomain round rfl)
      show ((toSql round) >>= fun _ => _) = _
      rw [hi]
      show (order.arrange (cache.messages.select fun _ => _ && _)).mapM _ = _
      rw [select_and, hvalue]
      rfl

/-- The rows after a round hold the messages of the log after that round. -/
theorem rows_after_stored {cache : SqliteMessageCache} {conversations : Conversations}
    (h : Represents cache conversations) (participant : String) (afterRound : Option Nat) :
    List.Forall₂ (Stores participant) (cache.rowsAfter participant afterRound)
      ((conversations participant).log.filter (isAfter afterRound)) := by
  refine List.rel_filter (fun row msg hrow => ?_) (h.rows_stored participant)
  cases afterRound with
  | none => rfl
  | some round => simp [isAfter, hrow.round_eq]

/-- Whole seconds are ordered as the times are. -/
theorem time_le_of_secs_le {first second : SystemTime} (hfirst : first.nanos = 0)
    (h : first.secs ≤ second.secs) : first ≤ second := by
  show first.secs < second.secs ∨ first.secs = second.secs ∧ first.nanos ≤ second.nanos
  omega

/-- A retrieval returns the messages of the log after the round, each once and by time. -/
theorem retrieve_answers {cache : SqliteMessageCache} {conversations : Conversations}
    (h : Represents cache conversations) (participant : String)
    {afterRound : Option Nat} (hdomain : ∀ round ∈ afterRound, round ≤ i64Max)
    (order : Table.RowOrder MessageRow.sortKey) :
    ∃ retrieved, cache.retrieve participant afterRound order = .ok retrieved ∧
      retrieved.Perm ((conversations participant).log.filter (isAfter afterRound)) ∧
      (retrieved.map Message.id).Nodup ∧
      retrieved.Pairwise fun first second => first.timestamp ≤ second.timestamp := by
  set rows := cache.rowsAfter participant afterRound with hrows
  obtain ⟨retrieved, hretrieved, hperm, hstored⟩ :=
    map_m_row_to_message (rows_after_stored h participant afterRound) (order.perm rows)
  have hsub : rows.Sublist cache.messages.rows :=
    List.filter_sublist.trans List.filter_sublist
  have hids : ((order.arrange rows).map MessageRow.id).Nodup :=
    ((order.perm rows).map _).nodup_iff.mpr
      (cache.messages.keys_nodup.sublist (hsub.map MessageRow.id))
  -- The engine compares seconds, which order the times because these are whole.
  have hsecs : retrieved.Pairwise fun first second =>
      first.timestamp.secs ≤ second.timestamp.secs := by
    have hsorted := order.sorted rows
    have htimes : (order.arrange rows).map MessageRow.sortKey =
        retrieved.map fun msg => msg.timestamp.secs :=
      stored_map_eq hstored fun _ _ hrow => hrow.time_eq
    rw [← List.pairwise_map (f := MessageRow.sortKey) (R := (· ≤ ·)), htimes] at hsorted
    exact List.pairwise_map.mp hsorted
  refine ⟨retrieved, ?_, hperm, stored_ids hstored ▸ hids, ?_⟩
  · rw [retrieve_eq cache participant hdomain order, hretrieved]
  · exact hsecs.imp_of_mem fun hfirst _ hle => time_le_of_secs_le (stored_whole hstored _ hfirst) hle

/-- The last sync round is the one of the conversation. -/
theorem get_last_sync_round_answers {cache : SqliteMessageCache}
    {conversations : Conversations} (h : Represents cache conversations) (participant : String) :
    cache.getLastSyncRound participant = .ok (conversations participant).lastSyncRound := by
  have hrounds := h.rounds_eq participant
  unfold SqliteMessageCache.getLastSyncRound
  cases hlookup : cache.syncRounds.lookup participant with
  | none =>
      rw [hlookup, Option.map_none, eq_comm, Option.map_eq_none_iff] at hrounds
      rw [hrounds]
  | some row =>
      rw [hlookup, Option.map_some, eq_comm, Option.map_eq_some_iff] at hrounds
      obtain ⟨round, hround, hvalue⟩ := hrounds
      show (fromSql 0 row.lastRound >>= fun _ => _) = _
      rw [from_sql_of_value hvalue.symm, hround]
      rfl

/-- An operation of the domain answers as the conversations call for. -/
theorem step_answers {cache : SqliteMessageCache} {conversations : Conversations}
    (h : Represents cache conversations) {operation : Operation} (hdomain : operation.InDomain) :
    Answers conversations operation (step cache operation).2 := by
  cases operation with
  | store messages participant =>
      show (SqliteMessageCache.store participant messages cache).2.map _ = _
      rw [(store_represents h participant hdomain).1]
      rfl
  | retrieve participant afterRound order =>
      obtain ⟨retrieved, hretrieved, hanswers⟩ := retrieve_answers h participant hdomain order
      refine ⟨retrieved, ?_, hanswers⟩
      show (cache.retrieve participant afterRound order).map _ = _
      rw [hretrieved]
      rfl
  | setLastSyncRound round participant =>
      show (cache.setLastSyncRound round participant).2.map _ = _
      rw [(set_last_sync_round_represents h participant hdomain).1]
      rfl
  | getLastSyncRound participant =>
      show (cache.getLastSyncRound participant).map _ = _
      rw [get_last_sync_round_answers h participant]
      rfl
  | clear => rfl
  | clearFor participant => rfl

/-! ## Other participants -/

/-- The participant that an operation is on. -/
def Operation.participant : Operation → Option String
  | .store _ participant | .retrieve participant _ _ | .setLastSyncRound _ participant
  | .getLastSyncRound participant | .clearFor participant => some participant
  | .clear => none

/-- The rows of a participant determine what is retrieved. -/
theorem retrieve_congr {first second : SqliteMessageCache} {participant : String}
    (h : first.rowsOf participant = second.rowsOf participant) (afterRound : Option Nat)
    (order : Table.RowOrder MessageRow.sortKey) :
    first.retrieve participant afterRound order =
      second.retrieve participant afterRound order := by
  cases afterRound with
  | none =>
      show (order.arrange (first.rowsOf participant)).mapM _ = _
      rw [h]
      rfl
  | some round =>
      unfold SqliteMessageCache.retrieve
      simp only [select_and, h]

/-- The row of a message is one of the participant. -/
theorem message_params_participant {participant : String} {msg : Message} {row : MessageRow}
    (h : messageParams participant msg = .ok row) : row.participant = participant := by
  unfold messageParams at h
  cases hsecs : toSql msg.timestamp.secsSinceEpoch with
  | error failure => rw [hsecs] at h; cases h
  | ok secs =>
      cases hround : toSql msg.confirmedRound with
      | error failure => rw [hsecs, hround] at h; cases h
      | ok round =>
          rw [hsecs, hround] at h
          cases h
          rfl

/-- A batch leaves the rows of other participants and all sync rounds. -/
theorem store_other (cache : SqliteMessageCache) {participant other : String}
    (hother : other ≠ participant) (messages : List Message) :
    (SqliteMessageCache.store participant messages cache).1.rowsOf other = cache.rowsOf other ∧
      (SqliteMessageCache.store participant messages cache).1.syncRounds =
        cache.syncRounds := by
  induction messages generalizing cache with
  | nil => exact ⟨rfl, rfl⟩
  | cons msg rest ih =>
      rw [SqliteMessageCache.store]
      cases hparams : messageParams participant msg with
      | error failure => exact ⟨rfl, rfl⟩
      | ok row =>
          obtain ⟨hrows, hrounds⟩ :=
            ih { cache with messages := cache.messages.insertOrIgnore row }
          have hrow := message_params_participant hparams
          exact ⟨hrows.trans (rows_of_insert_other cache (hrow ▸ hother)), hrounds⟩

/-- An operation on one participant leaves the rows and the sync round of every other one. -/
theorem step_other (cache : SqliteMessageCache) {operation : Operation}
    {participant other : String} (hon : operation.participant = some participant)
    (hother : other ≠ participant) :
    (step cache operation).1.rowsOf other = cache.rowsOf other ∧
      (step cache operation).1.syncRounds.lookup other = cache.syncRounds.lookup other := by
  cases operation with
  | store messages on =>
      cases hon
      obtain ⟨hrows, hrounds⟩ := store_other cache hother messages
      exact ⟨hrows, congrArg (Table.lookup · other) hrounds⟩
  | retrieve on afterRound order => exact ⟨rfl, rfl⟩
  | setLastSyncRound round on =>
      cases hon
      exact set_last_sync_round_other cache hother round
  | getLastSyncRound on => exact ⟨rfl, rfl⟩
  | clear => cases hon
  | clearFor on =>
      cases hon
      exact ⟨(rows_of_clear_for cache participant other).trans (if_neg hother),
        (sync_round_of_clear_for cache participant other).trans (if_neg hother)⟩

/-- Over every run of operations, each one answers as the logs call for where a message is
recorded unless its identifier is held in some log, and an operation on one participant changes
neither what is retrieved for another nor its sync round. -/
theorem cache_refines_log {operations : List Operation}
    (hoperations : ∀ operation ∈ operations, operation.InDomain) {operation : Operation}
    (hdomain : operation.InDomain) :
    Answers (specRun Held operations) operation (step (run operations) operation).2 ∧
      ∀ participant other, operation.participant = some participant → other ≠ participant →
        (∀ afterRound order, (step (run operations) operation).1.retrieve other afterRound order =
          (run operations).retrieve other afterRound order) ∧
        (step (run operations) operation).1.getLastSyncRound other =
          (run operations).getLastSyncRound other := by
  refine ⟨step_answers (run_represents hoperations) hdomain, fun participant other hon hother => ?_⟩
  obtain ⟨hrows, hround⟩ := step_other (run operations) hon hother
  refine ⟨fun afterRound order => retrieve_congr hrows afterRound order, ?_⟩
  unfold SqliteMessageCache.getLastSyncRound
  rw [hround]

/-- A message of round 1 at the first second. -/
def firstMessage : Message where
  id := "tx1"
  sender := "alice"
  recipient := "agent"
  content := "hello"
  timestamp := ⟨1, 0, by decide, by decide, by decide⟩
  confirmedRound := 1
  direction := .received
  replyContext := none

/-- The same transaction identifier, with other content. -/
def secondMessage : Message :=
  { firstMessage with sender := "bob", content := "hi" }

/-- A batch of one message of the domain. -/
theorem store_one_in_domain {msg : Message} (h : msg.InDomain) (participant : String) :
    (Operation.store [msg] participant).InDomain := by
  intro other hother
  rwa [List.mem_singleton.mp hother]

/-- The first message is in the domain. -/
theorem first_message_in_domain : firstMessage.InDomain :=
  ⟨by decide, by decide, rfl⟩

/-- The second message is in the domain. -/
theorem second_message_in_domain : secondMessage.InDomain :=
  first_message_in_domain

/-- A message of round 2 at the next second. -/
def laterMessage : Message :=
  { firstMessage with
    id := "tx2"
    content := "again"
    timestamp := ⟨2, 0, by decide, by decide, by decide⟩
    confirmedRound := 2 }

/-- Two messages are stored, the newer one first, and then one of them again for someone else. -/
def sampleOperations : List Operation :=
  [.store [laterMessage, firstMessage] "alice", .setLastSyncRound 2 "alice",
    .store [secondMessage] "bob"]

theorem sample_operations_in_domain : ∀ operation ∈ sampleOperations, operation.InDomain := by
  simp only [sampleOperations, List.forall_mem_cons, List.not_mem_nil, false_implies,
    implies_true, and_true]
  refine ⟨?_, show 2 ≤ i64Max by decide, store_one_in_domain second_message_in_domain "bob"⟩
  exact List.forall_mem_cons.mpr ⟨⟨by decide, by decide, rfl⟩,
    List.forall_mem_singleton.mpr first_message_in_domain⟩

/-- The two messages of the first participant are retrieved, which leaves the other alone. -/
theorem first_message_retrieved :
    Answers (specRun Held sampleOperations) (.retrieve "alice" none (.stable _))
        (step (run sampleOperations) (.retrieve "alice" none (.stable _))).2 ∧
      (step (run sampleOperations) (.retrieve "alice" none (.stable _))).2 =
        .ok (.messages [firstMessage, laterMessage]) ∧
      (step (run sampleOperations) (.retrieve "alice" none (.stable _))).1.retrieve "bob" none
        (.stable _) = .ok [] := by
  have hdomain : (Operation.retrieve "alice" none (.stable _)).InDomain :=
    fun round hround => absurd hround (Option.not_mem_none round)
  obtain ⟨hanswers, hothers⟩ := cache_refines_log sample_operations_in_domain hdomain
  refine ⟨hanswers, by decide, ?_⟩
  rw [(hothers "alice" "bob" rfl (by decide)).1]
  decide

/-- Logs that look for an identifier in their own conversation only are not what the cache
represents: a message of one identifier under two participants is not retrieved for the second. -/
theorem shared_id_lost :
    ¬ ∀ (operations : List Operation) (operation : Operation),
      (∀ other ∈ operations, other.InDomain) → operation.InDomain →
      Answers (specRun HeldFor operations) operation (step (run operations) operation).2 := by
  intro h
  have hoperations : ∀ operation ∈
      [Operation.store [firstMessage] "alice", .store [secondMessage] "bob"],
      operation.InDomain := by
    intro operation hmem
    rcases List.mem_pair.mp hmem with rfl | rfl
    · exact store_one_in_domain first_message_in_domain "alice"
    · exact store_one_in_domain second_message_in_domain "bob"
  have hdomain : (Operation.retrieve "bob" none (.stable _)).InDomain :=
    fun round hround => absurd hround (Option.not_mem_none round)
  obtain ⟨retrieved, hanswer, hperm, -⟩ := h _ _ hoperations hdomain
  cases hanswer
  have hlog : (specRun HeldFor [.store [firstMessage] "alice", .store [secondMessage] "bob"]
      "bob").log = [secondMessage] := by
    simp [specRun, specStep, record, HeldFor, Conversations.new]
  rw [hlog] at hperm
  exact absurd hperm.length_eq (by decide)

/-! ## Identifiers of one conversation -/

/-- Some operation stores an identifier for a participant. -/
def StoredFor (operations : List Operation) (participant id : String) : Prop :=
  ∃ messages, .store messages participant ∈ operations ∧ ∃ msg ∈ messages, msg.id = id

section OneConversation

variable {owner : String → String → Prop}

/-- Every identifier in a log is one that the participant owns. -/
def Within (owner : String → String → Prop) (conversations : Conversations) : Prop :=
  ∀ participant id, HeldFor conversations participant id → owner participant id

/-- Where identifiers have one owner, a message is recorded in the same way whether the
identifier is looked for in one log or in all. -/
theorem record_eq_of_one_owner
    (hone : ∀ first second id, owner first id → owner second id → first = second)
    {conversations : Conversations} (hwithin : Within owner conversations)
    {participant : String} {msg : Message} (howner : owner participant msg.id) :
    record HeldFor participant conversations msg = record Held participant conversations msg ∧
      Within owner (record Held participant conversations msg) := by
  have htaken : Held conversations participant msg.id ↔
      HeldFor conversations participant msg.id := by
    refine ⟨fun hheld => ?_, fun hheld => ⟨participant, hheld⟩⟩
    obtain ⟨other, hother⟩ := hheld
    rwa [hone participant other msg.id howner (hwithin other _ hother)]
  unfold record
  by_cases hheld : Held conversations participant msg.id
  · rw [if_pos hheld, if_pos (htaken.mp hheld)]
    exact ⟨rfl, hwithin⟩
  · rw [if_neg hheld, if_neg (mt htaken.mpr hheld)]
    refine ⟨rfl, fun other id hother => ?_⟩
    obtain ⟨held, hmem, rfl⟩ := hother
    by_cases hsame : other = participant
    · subst hsame
      rw [Function.update_self] at hmem
      rcases List.mem_append.mp hmem with hmem | hmem
      · exact hwithin other _ ⟨held, hmem, rfl⟩
      · rwa [List.mem_singleton.mp hmem]
    · rw [Function.update_of_ne hsame] at hmem
      exact hwithin other _ ⟨held, hmem, rfl⟩

/-- The same for a batch. -/
theorem records_eq_of_one_owner
    (hone : ∀ first second id, owner first id → owner second id → first = second)
    {participant : String} {messages : List Message}
    (howner : ∀ msg ∈ messages, owner participant msg.id)
    {conversations : Conversations} (hwithin : Within owner conversations) :
    messages.foldl (record HeldFor participant) conversations =
        messages.foldl (record Held participant) conversations ∧
      Within owner (messages.foldl (record Held participant) conversations) := by
  induction messages generalizing conversations with
  | nil => exact ⟨rfl, hwithin⟩
  | cons msg rest ih =>
      obtain ⟨heq, hnext⟩ := record_eq_of_one_owner hone hwithin (howner msg List.mem_cons_self)
      rw [List.foldl_cons, List.foldl_cons, heq]
      exact ih (fun other hother => howner other (List.mem_cons_of_mem _ hother)) hnext

/-- The same for an operation. -/
theorem spec_step_eq_of_one_owner
    (hone : ∀ first second id, owner first id → owner second id → first = second)
    {operation : Operation}
    (howner : ∀ participant id, StoredFor [operation] participant id → owner participant id)
    {conversations : Conversations} (hwithin : Within owner conversations) :
    specStep HeldFor conversations operation = specStep Held conversations operation ∧
      Within owner (specStep Held conversations operation) := by
  cases operation with
  | store messages participant =>
      refine records_eq_of_one_owner hone (fun msg hmsg => ?_) hwithin
      exact howner participant msg.id ⟨messages, List.mem_singleton_self _, msg, hmsg, rfl⟩
  | retrieve participant afterRound order => exact ⟨rfl, hwithin⟩
  | setLastSyncRound round participant =>
      refine ⟨rfl, fun other id hheld => hwithin other id ?_⟩
      obtain ⟨msg, hmem, hid⟩ := hheld
      refine ⟨msg, ?_, hid⟩
      by_cases hother : other = participant
      · subst hother
        rwa [specStep, Function.update_self] at hmem
      · rwa [specStep, Function.update_of_ne hother] at hmem
  | getLastSyncRound participant => exact ⟨rfl, hwithin⟩
  | clear => exact ⟨rfl, fun _ _ hheld => absurd hheld (by simp [HeldFor, specStep, Conversations.new])⟩
  | clearFor participant =>
      refine ⟨rfl, fun other id hheld => ?_⟩
      obtain ⟨msg, hmem, hid⟩ := hheld
      by_cases hother : other = participant
      · subst hother
        rw [specStep, Function.update_self] at hmem
        cases hmem
      · rw [specStep, Function.update_of_ne hother] at hmem
        exact hwithin other id ⟨msg, hmem, hid⟩

end OneConversation

/-- Where no run stores an identifier for two participants, the logs are those that look for an
identifier in their own conversation only. -/
theorem spec_run_eq_of_one_owner {operations : List Operation}
    (hone : ∀ first second id, StoredFor operations first id → StoredFor operations second id →
      first = second) : specRun HeldFor operations = specRun Held operations := by
  -- The owners are those of the whole run, so the induction is on what has been done of it.
  have hrun : ∀ done : List Operation, done.Sublist operations →
      specRun HeldFor done = specRun Held done ∧
        Within (StoredFor operations) (specRun Held done) := by
    intro done
    induction done using List.reverseRecOn with
    | nil =>
        intro _
        exact ⟨rfl, fun _ _ hheld => absurd hheld (by simp [HeldFor, specRun, Conversations.new])⟩
    | append_singleton done operation ih =>
        intro hsub
        obtain ⟨heq, hwithin⟩ := ih ((List.sublist_append_left done [operation]).trans hsub)
        have howner : ∀ participant id, StoredFor [operation] participant id →
            StoredFor operations participant id := by
          intro participant id hstored
          obtain ⟨messages, hmem, hmsg⟩ := hstored
          exact ⟨messages, hsub.subset (List.mem_append_right _ hmem), hmsg⟩
        unfold specRun at heq hwithin ⊢
        rw [List.foldl_concat, List.foldl_concat, heq]
        exact spec_step_eq_of_one_owner hone howner hwithin
  exact (hrun operations (List.Sublist.refl operations)).1

/-- In a run that stores no identifier for two participants, each operation answers as a log for
each conversation does. -/
theorem answers_of_one_owner {operations : List Operation}
    (hoperations : ∀ operation ∈ operations, operation.InDomain)
    (hone : ∀ first second id, StoredFor operations first id → StoredFor operations second id →
      first = second) {operation : Operation} (hdomain : operation.InDomain) :
    Answers (specRun HeldFor operations) operation (step (run operations) operation).2 := by
  rw [spec_run_eq_of_one_owner hone]
  exact step_answers (run_represents hoperations) hdomain

end CorvidNano.Agent.MessageCache
