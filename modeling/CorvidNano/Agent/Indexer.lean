import CorvidNano.Library.Base64
import CorvidNano.Library.Paging

/-!
# The indexer client

`HttpIndexerClient` of `algorand.rs`: a search is one query to the indexer, whose answer is read
as transactions with notes. The search between two addresses queries for the first one, with the
limit, and then drops what does not involve the second. `search_between_eq_iff` says when nothing
is missing from its result.
-/

namespace CorvidNano.Agent.Indexer

open Paging

/-- `IndexerPaymentTx`. -/
structure IndexerPaymentTx where
  receiver : String

/-- `IndexerTransaction`: what is read of a transaction in an answer of the indexer. -/
structure IndexerTransaction where
  id : String
  sender : String
  paymentTransaction : Option IndexerPaymentTx
  note : Option String
  confirmedRound : UInt64
  roundTime : UInt64

/-- `NoteTransaction`. -/
structure NoteTransaction where
  txid : String
  sender : String
  receiver : String
  note : List UInt8
  confirmedRound : UInt64
  roundTime : UInt64
  deriving DecidableEq

/-- The receiver of the payment, or the empty text if the transaction is not a payment. -/
def IndexerTransaction.receiver (tx : IndexerTransaction) : String :=
  (tx.paymentTransaction.map IndexerPaymentTx.receiver).getD ""

/-- The bytes of the note, none if it is missing or not in base64. -/
def IndexerTransaction.noteBytes (tx : IndexerTransaction) : List UInt8 :=
  (tx.note.bind fun note => Base64.decode note.toList).getD []

/-- What `to_note_transaction` builds. -/
def IndexerTransaction.noteTransaction (tx : IndexerTransaction) : NoteTransaction where
  txid := tx.id
  sender := tx.sender
  receiver := tx.receiver
  note := tx.noteBytes
  confirmedRound := tx.confirmedRound
  roundTime := tx.roundTime

/-- `to_note_transaction`. -/
def IndexerTransaction.toNoteTransaction (tx : IndexerTransaction) : Option NoteTransaction :=
  some tx.noteTransaction

/-- The parameters in the URL of a search. -/
structure Query where
  address : Option String
  notePrefix : String
  minRound : Option UInt64
  limit : Option UInt32

/-- A request to the indexer: the transactions of its answer, or the text of what went wrong. -/
abbrev Send := Query → Except String (Option (List IndexerTransaction))

/-- `note-prefix=AQ%3D%3D`. -/
def algochatPrefix : String := "AQ=="

/-- `round + 1`, which wraps around in a release build. -/
def minRound (afterRound : Option UInt64) : Option UInt64 :=
  afterRound.map (· + 1)

/-- `search_transactions`. -/
def searchTransactions (send : Send) (address : String) (afterRound : Option UInt64)
    (limit : Option UInt32) : Except String (List NoteTransaction) := do
  let transactions ← send
    { address := some address
      notePrefix := algochatPrefix
      minRound := minRound afterRound
      limit := limit }
  return (transactions.getD []).filterMap IndexerTransaction.toNoteTransaction

/-- The condition of the filter in `search_transactions_between`. -/
def isBetween (address1 address2 : String) (tx : NoteTransaction) : Bool :=
  (tx.sender == address1 && tx.receiver == address2) ||
    (tx.sender == address2 && tx.receiver == address1)

/-- `search_transactions_between`. -/
def searchTransactionsBetween (send : Send) (address1 address2 : String)
    (afterRound : Option UInt64) (limit : Option UInt32) :
    Except String (List NoteTransaction) := do
  let all ← searchTransactions send address1 afterRound limit
  return all.filter (isBetween address1 address2)

/-- What the indexer knows: the transactions in its order, and the addresses that each of them
involves, the sender and the receiver of a payment among them. -/
structure Chain where
  history : List IndexerTransaction
  involves : IndexerTransaction → String → Bool
  involves_sender : ∀ tx, involves tx tx.sender = true
  involves_receiver : ∀ tx payment, tx.paymentTransaction = some payment →
    involves tx payment.receiver = true

/-- Does a note begin with the bytes of a prefix in base64? -/
def hasPrefix (notePrefix : String) (tx : IndexerTransaction) : Bool :=
  ((Base64.decode notePrefix.toList).getD []).isPrefixOf tx.noteBytes

/-- Does a transaction match a query, its limit aside? -/
def Chain.matches (chain : Chain) (query : Query) (tx : IndexerTransaction) : Bool :=
  (query.address.all (chain.involves tx) && hasPrefix query.notePrefix tx) &&
    query.minRound.all fun round => round ≤ tx.confirmedRound

/-- The indexer answers with the first `limit` matches. -/
def Chain.serve (chain : Chain) : Send := fun query =>
  .ok (some (page (query.limit.map UInt32.toNat) (chain.history.filter (chain.matches query))))

/-- The transactions with the prefix of AlgoChat after a round. -/
def Chain.algochatAfter (chain : Chain) (afterRound : Option UInt64) : List IndexerTransaction :=
  chain.history.filter fun tx =>
    hasPrefix algochatPrefix tx && afterRound.all fun round => round < tx.confirmedRound

/-- Those between two addresses. -/
def Chain.conversation (chain : Chain) (address1 address2 : String)
    (afterRound : Option UInt64) : List NoteTransaction :=
  ((chain.algochatAfter afterRound).map IndexerTransaction.noteTransaction).filter
    (isBetween address1 address2)

/-- Those that involve an address. -/
def Chain.transactionsOf (chain : Chain) (address : String) (afterRound : Option UInt64) :
    List NoteTransaction :=
  ((chain.algochatAfter afterRound).filter fun tx => chain.involves tx address).map
    IndexerTransaction.noteTransaction

/-- The last round there is a number for. -/
def lastRound : UInt64 := 18446744073709551615

/-- When a limited search between two addresses misses nothing: the transactions of the first
address that the limit lets through are all between the two, or no further one is. After the last
round there is nothing to find, but the search starts over from round 0. -/
def Chain.Undisplaced (chain : Chain) (address1 address2 : String) (afterRound : Option UInt64)
    (limit : Option Nat) : Prop :=
  if afterRound = some lastRound then
    ∀ tx ∈ page limit (chain.transactionsOf address1 none), isBetween address1 address2 tx = false
  else
    (∀ tx ∈ page limit (chain.transactionsOf address1 afterRound),
      isBetween address1 address2 tx = true) ∨
    ∀ tx ∈ beyond limit (chain.transactionsOf address1 afterRound),
      isBetween address1 address2 tx = false

/-- To start from the round after one is to leave this one and all before it out. -/
theorem min_round_le_iff {round : UInt64} (h : round ≠ lastRound) (other : UInt64) :
    round + 1 ≤ other ↔ round < other := by
  have hne : round.toNat ≠ 18446744073709551615 := fun heq => h (UInt64.toNat_inj.mp heq)
  have hlt := round.toNat_lt
  rw [UInt64.le_iff_toNat_le, UInt64.lt_iff_toNat_lt, UInt64.toNat_add, UInt64.toNat_one,
    Nat.mod_eq_of_lt (by omega)]
  exact Nat.succ_le_iff

/-- The rounds that a search lets through: those after its round, but after the last one all. -/
theorem all_min_round (afterRound : Option UInt64) (other : UInt64) :
    ((minRound afterRound).all fun round => decide (round ≤ other)) =
      (if afterRound = some lastRound then none else afterRound).all fun round =>
        decide (round < other) := by
  cases afterRound with
  | none => rfl
  | some round =>
      by_cases h : round = lastRound
      · rw [if_pos (congrArg some h), h]
        show decide (lastRound + 1 ≤ other) = true
        exact decide_eq_true (UInt64.le_iff_toNat_le.mpr (Nat.zero_le other.toNat))
      · rw [if_neg fun heq => h (Option.some.inj heq)]
        exact decide_eq_decide.mpr (min_round_le_iff h other)

/-- A search returns the first transactions that involve its address. -/
theorem search_transactions_serve (chain : Chain) (address : String)
    (afterRound : Option UInt64) (limit : Option UInt32) :
    searchTransactions chain.serve address afterRound limit =
      .ok (page (limit.map UInt32.toNat) (chain.transactionsOf address
        (if afterRound = some lastRound then none else afterRound))) := by
  have hmatches : (chain.history.filter (chain.matches
      ⟨some address, algochatPrefix, minRound afterRound, limit⟩)) =
      (chain.algochatAfter (if afterRound = some lastRound then none else afterRound)).filter
        fun tx => chain.involves tx address := by
    rw [Chain.algochatAfter, List.filter_filter]
    refine List.filter_congr fun tx _ => ?_
    show (chain.involves tx address && _ && _) = _
    rw [all_min_round, Bool.and_assoc]
  show Except.ok ((page _ (chain.history.filter _)).filterMap
    (some ∘ IndexerTransaction.noteTransaction)) = _
  rw [List.filterMap_eq_map, hmatches, map_page]
  rfl

/-- What is between two addresses involves the first of them. -/
theorem involves_of_is_between (chain : Chain) {address1 address2 : String} (h : address1 ≠ "")
    {tx : IndexerTransaction} (hbetween : isBetween address1 address2 tx.noteTransaction = true) :
    chain.involves tx address1 = true := by
  have hcases : tx.sender = address1 ∧ tx.receiver = address2 ∨
      tx.sender = address2 ∧ tx.receiver = address1 := by
    simpa [isBetween, IndexerTransaction.noteTransaction] using hbetween
  rcases hcases with ⟨hsender, -⟩ | ⟨-, hreceiver⟩
  · exact hsender ▸ chain.involves_sender tx
  · cases hpayment : tx.paymentTransaction with
    | none =>
        rw [IndexerTransaction.receiver, hpayment] at hreceiver
        exact absurd hreceiver.symm h
    | some payment =>
        rw [IndexerTransaction.receiver, hpayment] at hreceiver
        exact hreceiver ▸ chain.involves_receiver tx payment hpayment

/-- The conversation is what the filter leaves of the transactions of the first address. -/
theorem filter_transactions_of (chain : Chain) {address1 : String} (address2 : String)
    (h : address1 ≠ "") (afterRound : Option UInt64) :
    (chain.transactionsOf address1 afterRound).filter (isBetween address1 address2) =
      chain.conversation address1 address2 afterRound := by
  rw [Chain.transactionsOf, Chain.conversation, List.filter_map, List.filter_map,
    List.filter_filter]
  refine congrArg _ (List.filter_congr fun tx _ => ?_)
  cases hbetween : isBetween address1 address2 tx.noteTransaction with
  | false => simp [hbetween]
  | true => simp [hbetween, involves_of_is_between chain h hbetween]

/-- Nothing is after the last round. -/
theorem conversation_after_last (chain : Chain) (address1 address2 : String) :
    chain.conversation address1 address2 (some lastRound) = [] := by
  have hnone : chain.algochatAfter (some lastRound) = [] := by
    refine List.filter_eq_nil_iff.mpr fun tx _ h => ?_
    have hlast := of_decide_eq_true (Bool.and_eq_true_iff.mp h).2
    have hlt := tx.confirmedRound.toNat_lt
    rw [UInt64.lt_iff_toNat_lt] at hlast
    have : lastRound.toNat = 18446744073709551615 := rfl
    omega
  rw [Chain.conversation, hnone]
  rfl

/-- A search between two addresses filters what the limit lets through. -/
theorem search_between_serve (chain : Chain) (address1 address2 : String)
    (afterRound : Option UInt64) (limit : Option UInt32) :
    searchTransactionsBetween chain.serve address1 address2 afterRound limit =
      .ok ((page (limit.map UInt32.toNat) (chain.transactionsOf address1
        (if afterRound = some lastRound then none else afterRound))).filter
          (isBetween address1 address2)) := by
  rw [searchTransactionsBetween, search_transactions_serve]
  rfl

/-- A limited search between two addresses returns the first transactions of their conversation
exactly if the limit displaces none of them. -/
theorem search_between_eq_iff (chain : Chain) {address1 : String} (address2 : String)
    (h : address1 ≠ "") (afterRound : Option UInt64) (limit : Option UInt32) :
    searchTransactionsBetween chain.serve address1 address2 afterRound limit =
        .ok (page (limit.map UInt32.toNat)
          (chain.conversation address1 address2 afterRound)) ↔
      chain.Undisplaced address1 address2 afterRound (limit.map UInt32.toNat) := by
  rw [search_between_serve, Except.ok.injEq, Chain.Undisplaced]
  by_cases hround : afterRound = some lastRound
  · rw [if_pos hround, if_pos hround, hround, conversation_after_last, page_nil,
      List.filter_eq_nil_iff]
    simp only [Bool.not_eq_true]
  · rw [if_neg hround, if_neg hround, ← filter_transactions_of chain address2 h]
    exact filter_page_eq_iff _ _ _

/-- A payment from alice with a note of AlgoChat. -/
def payment (id receiver : String) (round : UInt64) : IndexerTransaction where
  id := id
  sender := "alice"
  paymentTransaction := some ⟨receiver⟩
  note := some "AQA="
  confirmedRound := round
  roundTime := round

/-- A chain where alice writes to carol, then to bob. -/
def paymentsOfAlice : Chain where
  history := [payment "first" "carol" 1, payment "second" "bob" 2]
  involves tx address := tx.sender == address || tx.receiver == address
  involves_sender tx := by simp
  involves_receiver tx payment h := by simp [IndexerTransaction.receiver, h]

/-- With room for both transactions the search finds the one to bob. -/
theorem search_between_eq_iff_two :
    searchTransactionsBetween paymentsOfAlice.serve "alice" "bob" none (some 2) =
      .ok (page ((some 2 : Option UInt32).map UInt32.toNat)
        (paymentsOfAlice.conversation "alice" "bob" none)) :=
  (search_between_eq_iff paymentsOfAlice "bob" (by decide) none (some 2)).mpr
    (.inr (by decide +kernel))

/-- With a limit of 1 the transaction to carol displaces the one to bob. -/
theorem search_between_displaced :
    searchTransactionsBetween paymentsOfAlice.serve "alice" "bob" none (some 1) = .ok [] ∧
      page (some 1) (paymentsOfAlice.conversation "alice" "bob" none) =
        [(payment "second" "bob" 2).noteTransaction] := by
  decide +kernel

end CorvidNano.Agent.Indexer
