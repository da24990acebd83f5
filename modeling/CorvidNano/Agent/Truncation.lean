import CorvidNano.A2a.Lifecycle
import CorvidNano.Agent.MessageCache
import CorvidNano.Agent.MessageLoop
import CorvidNano.Agent.PskKeys
import CorvidNano.Runtime.Event

/-!
# Texts cut for display

The three functions `truncate`, of `agent.rs`, `a2a.rs` and the transport, and the two cuts of
`cmd_inbox`. Each shows a short text as it is and slices a longer one at a byte offset.

`shortens_iff` is the main result: a cut shows an initial part of the text exactly if the text is
short or a character ends where it is cut. `display_is_some_iff` and `inbox_is_some_iff` say which
messages the transport and the inbox can show.
-/

namespace CorvidNano.Agent.Truncation

open PskKeys Utf8

/-- A text of at most `limit` bytes is shown as it is, and `cutAt` bytes of a longer one, followed
by the marker. -/
structure Shortening where
  limit : Nat
  cutAt : Nat
  marker : List Char
  cut_le : cutAt ≤ limit

/-- The text that is shown, or `none` where the slice panics. -/
def Shortening.apply (rule : Shortening) (text : String) : Option (List Char) :=
  if size text.toList ≤ rule.limit then some text.toList
  else (sliceTo rule.cutAt text.toList).map fun slice => slice ++ rule.marker

/-- What the three functions `truncate` do. -/
def cutTo (max : Nat) : Shortening where
  limit := max
  cutAt := max
  marker := []
  cut_le := Nat.le_refl max

/-- `truncate` of `a2a.rs`. -/
def a2aTruncate (s : String) (max : Nat) : Option (List Char) := (cutTo max).apply s

/-- `truncate` of the transport. -/
def transportTruncate (s : String) (max : Nat) : Option (List Char) := (cutTo max).apply s

/-- How `resolve_name` shows an address without a contact. -/
def addressRule : Shortening where
  limit := 12
  cutAt := 12
  marker := "...".toList
  cut_le := by decide

/-- How `cmd_inbox` shows a content. -/
def contentRule : Shortening where
  limit := 60
  cutAt := 57
  marker := "...".toList
  cut_le := by decide

/-! ## Where texts are cut -/

/-- A text that the program cuts: the two in the log of the agent's loop, the message that a task
of the A2A server echoes, the three in the display of a message of the transport, and the two in a
row of the inbox. -/
inductive Site where
  | agentContent
  | agentResponse
  | a2aMessage
  | displaySender
  | displayRecipient
  | displayContent
  | inboxAddress
  | inboxContent

/-- What is shown of a text there. -/
def Site.shorten : Site → String → Option (List Char)
  | .agentContent, text => MessageLoop.truncate text 100
  | .agentResponse, text => MessageLoop.truncate text 100
  | .a2aMessage, text => a2aTruncate text 200
  | .displaySender, text => transportTruncate text 8
  | .displayRecipient, text => transportTruncate text 8
  | .displayContent, text => transportTruncate text 60
  | .inboxAddress, text => addressRule.apply text
  | .inboxContent, text => contentRule.apply text

/-- How a text is cut there. -/
def Site.rule : Site → Shortening
  | .agentContent => cutTo 100
  | .agentResponse => cutTo 100
  | .a2aMessage => cutTo 200
  | .displaySender => cutTo 8
  | .displayRecipient => cutTo 8
  | .displayContent => cutTo 60
  | .inboxAddress => addressRule
  | .inboxContent => contentRule

/-- An initial part of the text, no longer than the limit, with the marker if it is not all of
the text. -/
def Shortened (rule : Shortening) (text : String) (shown : List Char) : Prop :=
  ∃ initial, initial <+: text.toList ∧ size initial ≤ rule.limit ∧
    shown = initial ++ if initial = text.toList then [] else rule.marker

/-- The text is short, or a character ends where it is cut. -/
def Cuttable (rule : Shortening) (text : String) : Prop :=
  size text.toList ≤ rule.limit ∨ IsBoundary rule.cutAt text.toList

/-! ## What is shown -/

/-- The function `truncate` of the agent's loop, and the cut of a task, do the same. -/
theorem apply_cut_to (max : Nat) (text : String) :
    (cutTo max).apply text = cut max text.toList := by
  unfold Shortening.apply cut cutTo
  dsimp only
  by_cases hsize : size text.toList ≤ max
  · rw [if_pos hsize, if_pos hsize]
  · rw [if_neg hsize, if_neg hsize]
    simp only [List.append_nil, Option.map_id']

/-- Each place cuts by its rule. -/
theorem Site.shorten_eq (site : Site) (text : String) :
    site.shorten text = site.rule.apply text := by
  cases site with
  | agentContent => exact (apply_cut_to 100 text).symm
  | agentResponse => exact (apply_cut_to 100 text).symm
  | a2aMessage => rfl
  | displaySender => rfl
  | displayRecipient => rfl
  | displayContent => rfl
  | inboxAddress => rfl
  | inboxContent => rfl

/-- The echo of a task is the cut of its message. -/
theorem process_message_eq (hub : HubClient.Hub) (message : String) :
    A2a.Lifecycle.processMessage none hub message =
      (a2aTruncate message 200).map fun text =>
        .ok ("[nano] Received your message. Hub forwarding is disabled (P2P mode). Message: " ++
          String.ofList text) := by
  rw [a2aTruncate, apply_cut_to]
  rfl

/-- A slice of a longer text is not all of it. -/
theorem ne_of_size_eq {rule : Shortening} {text : String} {slice : List Char}
    (hlong : ¬ size text.toList ≤ rule.limit) (hsize : size slice = rule.cutAt) :
    slice ≠ text.toList := by
  rintro rfl
  have hle := rule.cut_le
  omega

/-- What a rule shows is an initial part of the text. -/
theorem shortened_of_apply {rule : Shortening} {text : String} {shown : List Char}
    (h : rule.apply text = some shown) : Shortened rule text shown := by
  unfold Shortening.apply at h
  by_cases hsize : size text.toList ≤ rule.limit
  · rw [if_pos hsize] at h
    obtain rfl := Option.some.inj h
    exact ⟨text.toList, List.prefix_rfl, hsize, by rw [if_pos rfl, List.append_nil]⟩
  · rw [if_neg hsize, Option.map_eq_some_iff] at h
    obtain ⟨slice, hslice, rfl⟩ := h
    obtain ⟨hinitial, hcut⟩ := slice_to_eq_some_iff.mp hslice
    refine ⟨slice, hinitial, hcut.trans_le rule.cut_le, ?_⟩
    rw [if_neg (ne_of_size_eq hsize hcut)]

/-- A rule shows a text exactly if it can be cut. -/
theorem is_some_apply_iff {rule : Shortening} {text : String} :
    (rule.apply text).isSome ↔ Cuttable rule text := by
  unfold Shortening.apply Cuttable
  rw [← is_some_slice_to_iff]
  by_cases hsize : size text.toList ≤ rule.limit
  · simp [hsize]
  · simp [hsize]

/-- Each place shows an initial part of a text, with the marker if something is left out, exactly
if the text can be cut there. -/
theorem shortens_iff (site : Site) (text : String) :
    (∃ shown, site.shorten text = some shown ∧ Shortened site.rule text shown) ↔
      Cuttable site.rule text := by
  rw [site.shorten_eq, ← is_some_apply_iff, Option.isSome_iff_exists]
  constructor
  · intro ⟨shown, hshown, _⟩
    exact ⟨shown, hshown⟩
  · intro ⟨shown, hshown⟩
    exact ⟨shown, hshown, shortened_of_apply hshown⟩

/-- A text of ASCII characters and then one of two bytes cannot be cut in between. -/
theorem not_cuttable_accented (max : Nat) :
    ¬ Cuttable (cutTo (max + 1)) (String.ofList (List.replicate max 'a' ++ ['é'])) := by
  have hsize : size (List.replicate max 'a') = max := by
    have hletter : Char.utf8Size 'a' = 1 := by decide
    rw [size, List.map_replicate, hletter, List.sum_replicate_nat, Nat.mul_one]
  have haccent : Char.utf8Size 'é' = 2 := by decide
  unfold Cuttable cutTo
  dsimp only
  rw [String.toList_ofList, not_or]
  refine ⟨?_, not_is_boundary_inside ?_ ?_⟩
  · rw [size_append, hsize, size_cons, haccent, size_nil]
    omega
  · rw [hsize]
    exact Nat.lt_succ_self max
  · rw [hsize, haccent]
    exact Nat.lt_succ_self (max + 1)

/-- A message whose 200th byte is the first of a character of two cannot be echoed. -/
theorem accent_panics :
    ¬ ∃ shown, Site.a2aMessage.shorten (String.ofList (List.replicate 199 'a' ++ ['é'])) =
        some shown ∧
      Shortened Site.a2aMessage.rule (String.ofList (List.replicate 199 'a' ++ ['é'])) shown := by
  intro ⟨shown, hshown, _⟩
  rw [Site.shorten_eq] at hshown
  exact not_cuttable_accented 199 (is_some_apply_iff.mp (Option.isSome_of_eq_some hshown))

/-! ## The transport and the inbox -/

/-- `Message` as it is displayed, with the text of its time. -/
def displayMessage (time : List Char) (message : Runtime.Message) : Option (List Char) := do
  let sender ← transportTruncate message.sender 8
  let recipient ← transportTruncate message.recipient 8
  let content ← transportTruncate message.content 60
  pure ('[' :: time ++ "] ".toList ++ sender ++ " -> ".toList ++ recipient ++ ": ".toList ++
    content)

/-- A message is displayed exactly if its three texts can be cut. -/
theorem display_is_some_iff (time : List Char) (message : Runtime.Message) :
    (displayMessage time message).isSome ↔
      Cuttable (cutTo 8) message.sender ∧ Cuttable (cutTo 8) message.recipient ∧
        Cuttable (cutTo 60) message.content := by
  unfold displayMessage transportTruncate
  rw [← is_some_apply_iff, ← is_some_apply_iff, ← is_some_apply_iff]
  cases (cutTo 8).apply message.sender with
  | none => simp
  | some sender =>
      cases (cutTo 8).apply message.recipient with
      | none => simp
      | some recipient =>
          cases (cutTo 60).apply message.content with
          | none => simp
          | some content => simp

/-- `get_by_address`: the first contact with the address. -/
def getByAddress (store : ContactStore) (address : String) : Option Contact :=
  (store.contacts.select fun contact => contact.address = address).head?

/-- `resolve_name` of `cmd_inbox`, with the contacts if they can be read. -/
def resolveName (contactStore : Option ContactStore) (addr : String) : Option (List Char) :=
  match contactStore.bind fun store => getByAddress store addr with
  | some contact => some contact.name.toList
  | none => addressRule.apply addr

/-- The other side of a message. -/
def peer (row : MessageCache.MessageRow) : String :=
  if row.direction = "sent" then row.recipient else row.sender

/-- What the loop of `cmd_inbox` shows for a message: the peer and the content. -/
def inboxRow (contactStore : Option ContactStore) (row : MessageCache.MessageRow) :
    Option (List Char × List Char) := do
  let name ← resolveName contactStore (peer row)
  let displayContent ← contentRule.apply row.content
  pure (name, displayContent)

/-- The loop of `cmd_inbox`. -/
def inboxRows (contactStore : Option ContactStore) (rows : List MessageCache.MessageRow) :
    Option (List (List Char × List Char)) :=
  rows.mapM (inboxRow contactStore)

/-- A message can be shown in the inbox. -/
def Showable (contactStore : Option ContactStore) (row : MessageCache.MessageRow) : Prop :=
  ((contactStore.bind fun store => getByAddress store (peer row)) = none →
    Cuttable addressRule (peer row)) ∧
  Cuttable contentRule row.content

theorem inbox_row_is_some_iff {contactStore : Option ContactStore}
    {row : MessageCache.MessageRow} :
    (inboxRow contactStore row).isSome ↔ Showable contactStore row := by
  unfold inboxRow Showable resolveName
  rw [← is_some_apply_iff, ← is_some_apply_iff]
  cases contactStore.bind fun store => getByAddress store (peer row) with
  | some contact =>
      cases contentRule.apply row.content with
      | none => simp
      | some content => simp
  | none =>
      cases addressRule.apply (peer row) with
      | none => simp
      | some name =>
          cases contentRule.apply row.content with
          | none => simp
          | some content => simp

/-- The inbox is shown exactly if each of its messages can be. One that cannot hides all others. -/
theorem inbox_is_some_iff (contactStore : Option ContactStore)
    (rows : List MessageCache.MessageRow) :
    (inboxRows contactStore rows).isSome ↔ ∀ row ∈ rows, Showable contactStore row := by
  unfold inboxRows
  induction rows with
  | nil => simp
  | cons row rest ih =>
      rw [List.mapM_cons, List.forall_mem_cons, ← ih, ← inbox_row_is_some_iff]
      cases inboxRow contactStore row with
      | none => simp
      | some shown =>
          cases rest.mapM (inboxRow contactStore) with
          | none => simp
          | some others => simp

end CorvidNano.Agent.Truncation
