import CorvidNano.Agent.Contacts
import CorvidNano.Agent.MessageCache
import CorvidNano.Agent.PskText
import CorvidNano.Agent.Wallet
import CorvidNano.Bridge.ToolInput
import CorvidNano.Host.Signature
import CorvidNano.Plugins.KeyValue

/-!
# The MCP server

`can mcp` in `mcp.rs`: JSON-RPC requests line by line on stdin, and the six tools over the contacts
and the cached messages. `Circumstances` are what a request meets outside of the server: which
files can be opened, which statements fail, what the network answers.

`session_view` is the main result: what a client that knows the contacts at the start makes of its
own lines and the responses to them is what the server holds. `contacts_reachable` says that a
contact that the client knows can be written to, and `list_messages_newest` which messages it is
shown.
-/

namespace CorvidNano.Agent.Mcp

open Batch Bridge.ToolInput Contacts MessageCache PskKeys PskText
open Plugins.KeyValue (asU64)
open Text (before before_append_cons)

/-! ## Requests and responses -/

/-- The libraries: the parser and the printers of JSON, the hash and the codec of addresses, and
what the codecs of keys say of other texts. -/
structure Libraries where
  fromStr : String → Option Json
  toStringPretty : Json → String
  sha : Address.Sha512_256
  base32 : Address.Base32NoPad
  reasons : DecodeReasons

/-- `McpContext`, as far as the tools show it, and the package version. -/
structure McpContext where
  version : String
  network : String
  algodUrl : String
  address : String
  hubUrl : String

variable (libraries : Libraries) (ctx : McpContext)

/-- `McpRequest`. -/
structure McpRequest where
  id : Option Json
  method : String
  params : Json

/-- `McpRequest::parse`. -/
def McpRequest.parse (line : String) : Option McpRequest := do
  let v ← libraries.fromStr line
  let method ← asStr (← v.get? "method")
  pure { id := v.get? "id", method, params := (v.get? "params").getD (.object []) }

/-- `write_response`. -/
def response (id : Option Json) (result : Json) : Json :=
  .object [("id", id.getD .null), ("jsonrpc", .string "2.0"), ("result", result)]

/-- `write_error`. -/
def errorResponse (id : Option Json) (code : Int) (message : String) : Json :=
  .object [
    ("error", .object [("code", .number code 0), ("message", .string message)]),
    ("id", id.getD .null),
    ("jsonrpc", .string "2.0")]

/-- The result of a tool: a text, which is an error or is not. -/
def toolResult : Except String String → Json
  | .ok text => .object [("content", .array [.object [
      ("text", .string text), ("type", .string "text")]])]
  | .error text => .object [
      ("content", .array [.object [("text", .string text), ("type", .string "text")]]),
      ("isError", .bool true)]

/-! ## The tools -/

/-- The order of a query for the newest messages. -/
def newestFirst (row : MessageRow) : Int := -row.sortKey

/-- What a request meets. -/
structure Circumstances where
  contactsOpen : Except String Unit
  contactsReopen : Except String Unit
  createDir : Except String Unit
  database : Batch.Environment
  messages : Option (Table MessageRow.id)
  messagesOpen : Except String Unit
  prepare : Except String Unit
  select : Except String Unit
  order : Table.RowOrder newestFirst
  keyStorage : Except String Unit
  messageCache : Except String Unit
  client : Except String Unit
  send : Except String String

/-- A message that is handed to the network, with the contacts whose keys are offered to the chat
client before, and the network's answer. -/
structure Sent where
  recipient : String
  message : String
  registered : List ContactRow
  answer : Except String String

/-- What a tool leaves and returns. There is no table before the file of contacts is created. -/
structure Outcome where
  contacts : Option ContactTable
  sent : Option Sent
  result : Except String String

/-- A tool that changes nothing. -/
def Outcome.of (contacts : Option ContactTable) (result : Except String String) : Outcome :=
  ⟨contacts, none, result⟩

/-- `ContactStore::open`, which creates the file. -/
def openContacts (contacts : Option ContactTable) (opened : Except String Unit) :
    Except String ContactTable :=
  opened.map fun _ => contacts.getD Table.empty

/-- `ContactStore::get`. -/
def get (environment : Batch.Environment) (name : String) :
    Program StoreError ContactTable (Option ContactRow) :=
  query environment .database fun table => table.lookup name

/-- `ContactStore::count`. -/
def count (environment : Batch.Environment) : Program StoreError ContactTable Nat :=
  query environment .database fun table => table.rows.length

/-- A contact by name, where there is a file that can be opened and read. -/
def findContact (contacts : Option ContactTable) (circumstances : Circumstances) (name : String) :
    Option ContactRow :=
  match contacts, circumstances.contactsOpen with
  | some table, .ok () =>
      match (start (get circumstances.database name) ⟨table, 0⟩).1 with
      | .ok found => found
      | .error _ => none
  | _, _ => none

/-- `tool_list_contacts`. -/
def toolListContacts (contacts : Option ContactTable) (circumstances : Circumstances) : Outcome :=
  .of contacts <|
    match contacts with
    | none => .ok "No contacts found."
    | some _ =>
        match openContacts contacts circumstances.contactsOpen with
        | .error e => .error ("Failed to open contacts: " ++ e)
        | .ok table =>
            match (start (list circumstances.database) ⟨table, 0⟩).1 with
            | .error e => .error ("Error: " ++ e.text)
            | .ok [] => .ok "No contacts."
            | .ok rows => .ok (libraries.toStringPretty (.array (rows.map fun row => .object [
                ("added_at", .string row.addedAt),
                ("address", .string row.address),
                ("name", .string row.name)])))

/-- A parameter that is a string. -/
def parameter (args : Json) (name : String) : Option String := (args.get? name).bind asStr

/-- `tool_add_contact`. -/
def toolAddContact (contacts : Option ContactTable) (circumstances : Circumstances) (args : Json) :
    Outcome :=
  match parameter args "name" with
  | none => .of contacts (.error "Missing 'name'")
  | some name =>
  match parameter args "address" with
  | none => .of contacts (.error "Missing 'address'")
  | some address =>
  match parameter args "psk" with
  | none => .of contacts (.error "Missing 'psk'")
  | some pskStr =>
  match Wallet.decodeAddress libraries.sha libraries.base32 address with
  | .error e => .of contacts (.error ("Invalid address: " ++ e))
  | .ok _ =>
  match parsePsk libraries.reasons pskStr.toList with
  | .error e => .of contacts (.error ("Invalid PSK: " ++ e))
  | .ok psk =>
  match circumstances.createDir with
  | .error e => .of contacts (.error ("Failed to create data dir: " ++ e))
  | .ok () =>
  match openContacts contacts circumstances.contactsOpen with
  | .error e => .of contacts (.error ("Failed to open contacts: " ++ e))
  | .ok table =>
      let (result, after) := start (add circumstances.database name address psk.bytes) ⟨table, 0⟩
      .of (some after.db) <|
        match result with
        | .ok () => .ok ("Added contact: " ++ name ++ " (" ++ address ++ ")")
        | .error e => .error ("Failed to add: " ++ e.text)

/-- `tool_remove_contact`. -/
def toolRemoveContact (contacts : Option ContactTable) (circumstances : Circumstances)
    (args : Json) : Outcome :=
  match parameter args "name" with
  | none => .of contacts (.error "Missing 'name'")
  | some name =>
  match openContacts contacts circumstances.contactsOpen with
  | .error e => .of contacts (.error ("Failed to open contacts: " ++ e))
  | .ok table =>
      let (result, after) := start (remove circumstances.database name) ⟨table, 0⟩
      .of (some after.db) <|
        match result with
        | .ok true => .ok ("Removed contact: " ++ name)
        | .ok false => .ok ("Contact '" ++ name ++ "' not found")
        | .error e => .error ("Error: " ++ e.text)

/-- The parameter `limit` as an `i64`. -/
def limitOf (args : Json) : Int :=
  let limit := ((args.get? "limit").bind asU64).getD 20
  if limit < 2 ^ 63 then limit else limit - 2 ^ 64

/-- `LIMIT`. There is none if the number is negative. -/
def limited (limit : Int) (rows : List MessageRow) : List MessageRow :=
  if limit < 0 then rows else rows.take limit.toNat

/-- The rows that `tool_list_messages` selects. -/
def selectMessages (messages : Table MessageRow.id) (order : Table.RowOrder newestFirst)
    (sender : Option String) (limit : Int) : List MessageRow :=
  limited limit (order.arrange (messages.select fun row =>
    sender.all fun address => row.participant = address))

/-- The text that shows some rows. -/
def listing : List MessageRow → String
  | [] => "No messages found."
  | rows => libraries.toStringPretty (.array (rows.map fun row => .object [
      ("content", .string row.content),
      ("direction", .string row.direction),
      ("from", .string row.sender),
      ("timestamp", .number row.timestampSecs.value 0)]))

/-- `tool_list_messages`. -/
def toolListMessages (contacts : Option ContactTable) (circumstances : Circumstances)
    (args : Json) : Outcome :=
  .of contacts <|
    match circumstances.messages with
    | none => .ok "No messages cached yet."
    | some messages =>
        let sender := (parameter args "from").map fun name =>
          ((findContact contacts circumstances name).map fun row => row.address).getD name
        match circumstances.messagesOpen with
        | .error e => .error ("Failed to open messages.db: " ++ e)
        | .ok () =>
        match circumstances.prepare with
        | .error e => .error ("Query error: " ++ e)
        | .ok () =>
        match circumstances.select with
        | .error e => .error ("Query failed: " ++ e)
        | .ok () =>
        .ok (listing libraries
          (selectMessages messages circumstances.order sender (limitOf args)))

/-- `tool_get_status`. -/
def toolGetStatus (contacts : Option ContactTable) (circumstances : Circumstances) : Outcome :=
  let contactCount : Nat :=
    match contacts, circumstances.contactsOpen with
    | some table, .ok () =>
        ((start (count circumstances.database) ⟨table, 0⟩).1.toOption).getD 0
    | _, _ => 0
  .of contacts (.ok (libraries.toStringPretty (.object [
    ("address", .string ctx.address),
    ("algod_url", .string ctx.algodUrl),
    ("contacts", .number contactCount 0),
    ("hub_url", .string ctx.hubUrl),
    ("network", .string ctx.network)])))

/-- The contacts whose keys are registered before a message is sent. -/
def registeredContacts (contacts : Option ContactTable) (circumstances : Circumstances) :
    List ContactRow :=
  match contacts, circumstances.contactsReopen with
  | some table, .ok () =>
      ((start (list circumstances.database) ⟨table, 1⟩).1.toOption).getD []
  | _, _ => []

/-- `tool_send_message`. -/
def toolSendMessage (contacts : Option ContactTable) (circumstances : Circumstances) (args : Json) :
    Outcome :=
  match parameter args "to" with
  | none => .of contacts (.error "Missing 'to'")
  | some recipient =>
  match parameter args "message" with
  | none => .of contacts (.error "Missing 'message'")
  | some message =>
  let address :=
    ((findContact contacts circumstances recipient).map fun row => row.address).getD recipient
  match Wallet.decodeAddress libraries.sha libraries.base32 address with
  | .error e => .of contacts (.error ("Invalid address '" ++ address ++ "': " ++ e))
  | .ok _ =>
  match circumstances.keyStorage with
  | .error e => .of contacts (.error ("Failed to open key storage: " ++ e))
  | .ok () =>
  match circumstances.messageCache with
  | .error e => .of contacts (.error ("Failed to open message cache: " ++ e))
  | .ok () =>
  match circumstances.client with
  | .error e => .of contacts (.error ("Failed to initialize AlgoChat: " ++ e))
  | .ok () =>
      { contacts
        sent := some {
          recipient := address
          message
          registered := registeredContacts contacts circumstances
          answer := circumstances.send }
        result :=
          match circumstances.send with
          | .ok txid => .ok ("Message sent to " ++ address ++ ". Transaction ID: " ++ txid)
          | .error e => .error ("Failed to send: " ++ e) }

/-- `handle_tool_call`. -/
def handleToolCall (contacts : Option ContactTable) (circumstances : Circumstances) (name : String)
    (args : Json) : Outcome :=
  match name with
  | "list_contacts" => toolListContacts libraries contacts circumstances
  | "add_contact" => toolAddContact libraries contacts circumstances args
  | "remove_contact" => toolRemoveContact contacts circumstances args
  | "list_messages" => toolListMessages libraries contacts circumstances args
  | "get_status" => toolGetStatus libraries ctx contacts circumstances
  | "send_message" => toolSendMessage libraries contacts circumstances args
  | name => .of contacts (.error ("Unknown tool: " ++ name))

/-- A property of a tool's input. -/
def property (name type description : String) : String × Json :=
  (name, .object [("description", .string description), ("type", .string type)])

/-- An entry of `tool_list`. -/
def listedTool (name description : String) (properties : List (String × Json))
    (required : List String) : Json :=
  .object [
    ("description", .string description),
    ("inputSchema", .object (
      [("properties", .object properties)] ++
      (if required = [] then [] else [("required", .array (required.map Json.string))]) ++
      [("type", .string "object")])),
    ("name", .string name)]

/-- `tool_list`. -/
def toolList : Json :=
  .object [("tools", .array [
    listedTool "send_message"
      "Send an encrypted AlgoChat message to a contact or Algorand address" [
        property "message" "string" "Message text to send",
        property "to" "string" "Contact name or Algorand address"]
      ["to", "message"],
    listedTool "list_contacts" "List all PSK contacts" [] [],
    listedTool "add_contact" "Add a new PSK contact" [
        property "address" "string" "Algorand address",
        property "name" "string" "Contact name",
        property "psk" "string" "Pre-shared key (hex or base64)"]
      ["name", "address", "psk"],
    listedTool "remove_contact" "Remove a contact by name"
      [property "name" "string" "Contact name to remove"] ["name"],
    listedTool "list_messages" "List recent messages from the local inbox" [
        property "from" "string" "Filter by sender contact name or address",
        property "limit" "integer" "Maximum number of messages to return (default 20)"]
      [],
    listedTool "get_status" "Get agent status: network, address, and contact count" [] []])]

/-! ## The server -/

/-- What the server keeps: the file of contacts, and what it has sent. -/
structure Server where
  contacts : Option ContactTable
  sent : List Sent

/-- The tool that a request calls, with its arguments. -/
def McpRequest.tool (req : McpRequest) : String × Json :=
  (((req.params.get? "name").bind asStr).getD "", (req.params.get? "arguments").getD (.object []))

/-- A request: what it leaves, and what is written, if anything is. -/
def handleRequest (server : Server) (circumstances : Circumstances) (req : McpRequest) :
    Server × Option Json :=
  match req.method with
  | "initialize" =>
      (server, response req.id (.object [
        ("capabilities", .object [("tools", .object [])]),
        ("protocolVersion", .string "2024-11-05"),
        ("serverInfo", .object [
          ("name", .string "corvid-agent-nano"), ("version", .string ctx.version)])]))
  | "notifications/initialized" => (server, none)
  | "tools/list" => (server, response req.id toolList)
  | "tools/call" =>
      let (toolName, toolArgs) := req.tool
      if toolName = "" then (server, errorResponse req.id (-32602) "Missing tool name")
      else
        let outcome :=
          handleToolCall libraries ctx server.contacts circumstances toolName toolArgs
        ({ contacts := outcome.contacts, sent := server.sent ++ outcome.sent.toList },
          response req.id (toolResult outcome.result))
  | "ping" => (server, response req.id (.object []))
  | other => (server, errorResponse req.id (-32601) ("Method not found: " ++ other))

/-- A line. -/
def handleLine (server : Server) (circumstances : Circumstances) (line : String) :
    Server × Option Json :=
  let line := String.ofList (Host.Signature.trim line.toList)
  if line = "" then (server, none)
  else
    match McpRequest.parse libraries line with
    | none => (server, errorResponse none (-32700) "Parse error")
    | some req => handleRequest libraries ctx server circumstances req

/-- A line that has been handled, with what was written for it. -/
structure Exchange where
  line : String
  written : Option Json

/-- `cmd_mcp`, from the first line on. A line that is no text ends the server. -/
def cmdMcp (server : Server) : List (Option String × Circumstances) → Server × List Exchange
  | [] => (server, [])
  | (none, _) :: _ => (server, [])
  | (some line, circumstances) :: rest =>
      let (next, written) := handleLine libraries ctx server circumstances line
      let (final, exchanges) := cmdMcp next rest
      (final, ⟨line, written⟩ :: exchanges)

/-! ## What a client makes of the responses -/

/-- A client's view: the address that it has for each contact, and the messages that the network
took, each with its recipient. -/
structure View where
  book : String → Option String
  sent : List (String × String)

/-- The tool that a line calls. -/
def toolCall (line : String) : Option (String × Json) :=
  let line := String.ofList (Host.Signature.trim line.toList)
  if line = "" then none
  else (McpRequest.parse libraries line).bind fun req =>
    if req.method = "tools/call" then some req.tool else none

/-- The text of a response with a result that is no error. -/
def successText (written : Option Json) : Option String := do
  let result ← (← written).get? "result"
  if (result.get? "isError").isSome then none
  else
    let content ← (result.getElements "content").head?
    content.getStr? "text"

/-- The recipient that a confirmation names. -/
def recipient? (text : String) : Option String :=
  ("Message sent to ".toList.isPrefixOf? text.toList).map fun rest => .ofList (before '.' rest)

/-- The contact that a successful call adds. -/
def View.add (view : View) (args : Json) : View :=
  match parameter args "name", parameter args "address" with
  | some name, some address => { view with book := Function.update view.book name (some address) }
  | _, _ => view

/-- The contact that a successful call removes. -/
def View.remove (view : View) (args : Json) : View :=
  match parameter args "name" with
  | some name => { view with book := Function.update view.book name none }
  | none => view

/-- The message that a successful call sends, to the recipient that the response names. -/
def View.send (view : View) (args : Json) (text : String) : View :=
  match recipient? text, parameter args "message" with
  | some recipient, some message => { view with sent := view.sent ++ [(recipient, message)] }
  | _, _ => view

/-- What the client makes of a successful call. -/
def View.call (view : View) (name : String) (args : Json) (text : String) : View :=
  match name with
  | "add_contact" => view.add args
  | "remove_contact" => view.remove args
  | "send_message" => view.send args text
  | _ => view

/-- What the client makes of a response. A call that has not succeeded is nothing to it. -/
def View.step (view : View) (exchange : Exchange) : View :=
  match toolCall libraries exchange.line, successText exchange.written with
  | some (name, args), some text => view.call name args text
  | _, _ => view

/-- The addresses of a file of contacts. -/
def bookOf (contacts : Option ContactTable) (name : String) : Option String :=
  (contacts.bind fun table => table.lookup name).map fun row => row.address

/-- The messages that the network took. -/
def confirmed (sent : List Sent) : List (String × String) :=
  sent.filterMap fun sent => sent.answer.toOption.map fun _ => (sent.recipient, sent.message)

/-- What the server holds, as the client sees it. -/
def Server.view (server : Server) : View where
  book := bookOf server.contacts
  sent := confirmed server.sent

/-- The contacts can be read. -/
def Circumstances.readable (circumstances : Circumstances) : Bool :=
  circumstances.contactsOpen.isOk && (circumstances.database.fault 0).isNone

variable {libraries : Libraries} {ctx : McpContext} {contacts : Option ContactTable}
  {circumstances : Circumstances}

/-- A table that was opened has the same contacts. -/
theorem book_of_opened {opened : Except String Unit} {table : ContactTable}
    (h : openContacts contacts opened = .ok table) : bookOf (some table) = bookOf contacts := by
  cases opened with
  | error e => cases h
  | ok _ =>
      cases h
      cases contacts with
      | none => rfl
      | some table => rfl

/-- What `add` of a key of 32 bytes does. -/
theorem start_add (environment : Batch.Environment) (name address : String) (psk : Psk)
    (table : ContactTable) :
    ((start (add environment name address psk.bytes) ⟨table, 0⟩).1 = .ok () ∧
      bookOf (some (start (add environment name address psk.bytes) ⟨table, 0⟩).2.db) =
        Function.update (bookOf (some table)) name (some address)) ∨
    ∃ e, (start (add environment name address psk.bytes) ⟨table, 0⟩).1 = .error e ∧
      (start (add environment name address psk.bytes) ⟨table, 0⟩).2.db = table := by
  have hadd : start (add environment name address psk.bytes) ⟨table, 0⟩ =
      start (insertContact environment ⟨name, address, psk⟩) ⟨table, 0⟩ := by
    rw [add, start_bind, check_psk, start_of_except]
  rw [hadd]
  cases hfault : environment.fault 0 with
  | some reason =>
      right
      rw [insertContact, start_execute_fault hfault]
      exact ⟨_, rfl, rfl⟩
  | none =>
      cases hlookup : table.lookup name with
      | some row =>
          right
          simp only [insertContact, start, execute, hfault, hlookup, Option.isSome_some, if_true]
          exact ⟨_, rfl, trivial⟩
      | none =>
          left
          simp only [insertContact, start, execute, hfault, hlookup, Option.isSome_none,
            Bool.false_eq_true, if_false]
          refine ⟨trivial, funext fun other => ?_⟩
          rw [bookOf, Option.bind_some, Table.lookup_insert_or_ignore hlookup]
          by_cases hother : name = other
          · subst hother
            rw [if_pos rfl, Function.update_self]
            rfl
          · rw [if_neg hother, Function.update_of_ne (Ne.symm hother)]
            rfl

/-- What `remove` does. -/
theorem start_remove (environment : Batch.Environment) (name : String) (table : ContactTable) :
    (∃ found, (start (remove environment name) ⟨table, 0⟩).1 = .ok found ∧
      bookOf (some (start (remove environment name) ⟨table, 0⟩).2.db) =
        Function.update (bookOf (some table)) name none) ∨
    ∃ e, (start (remove environment name) ⟨table, 0⟩).1 = .error e ∧
      (start (remove environment name) ⟨table, 0⟩).2.db = table := by
  rw [remove, start_bind]
  cases hfault : environment.fault 0 with
  | some reason =>
      right
      simp only [start, executeRows, hfault]
      exact ⟨_, rfl, trivial⟩
  | none =>
      left
      simp only [start, executeRows, hfault]
      refine ⟨_, rfl, funext fun other => ?_⟩
      show ((table.deleteWhere fun row => row.name = name).lookup other).map _ = _
      rw [Table.lookup_delete_where]
      by_cases hother : name = other
      · subst hother
        rw [if_pos rfl, Function.update_self]
        rfl
      · rw [if_neg hother, Function.update_of_ne (Ne.symm hother)]
        rfl

/-- The text of a tool is read back from the response, if the call has succeeded. -/
theorem success_text_tool_result (id : Option Json) (result : Except String String) :
    successText (some (response id (toolResult result))) = result.toOption := by
  cases result with
  | ok text => rfl
  | error e => rfl

/-- The recipient is read back from the confirmation. -/
theorem recipient_of_confirmation (hbase32 : Wallet.Canonical libraries.base32) {address : String}
    (haddress : (Wallet.decodeAddress libraries.sha libraries.base32 address).isOk = true)
    (txid : String) :
    recipient? ("Message sent to " ++ address ++ ". Transaction ID: " ++ txid) = some address := by
  have hdot : '.' ∉ address.toList := by
    intro hmem
    cases hdecode : Wallet.decodeAddress libraries.sha libraries.base32 address with
    | error e =>
        rw [hdecode] at haddress
        cases haddress
    | ok key =>
        obtain ⟨n, hn, hsymbol⟩ := Wallet.address_chars hbase32 hdecode hmem
        have hall : ∀ m < 32, '.' ≠ Char.ofNat (Base32.symbol m).toNat := by decide
        exact hall n hn hsymbol
  have htext : ("Message sent to " ++ address ++ ". Transaction ID: " ++ txid).toList =
      "Message sent to ".toList ++
        (address.toList ++ '.' :: (" Transaction ID: ".toList ++ txid.toList)) := by
    simp
  have hrest : "Message sent to ".toList.isPrefixOf?
      ("Message sent to " ++ address ++ ". Transaction ID: " ++ txid).toList =
      some (address.toList ++ '.' :: (" Transaction ID: ".toList ++ txid.toList)) := by
    rw [List.isPrefixOf?_eq_some_iff_append_eq, htext]
  rw [recipient?, hrest, Option.map_some, before_append_cons hdot, String.ofList_toList]

/-- What a tool does to the view if it succeeds and if it fails. -/
def Changes (view changed : View) (outcome : Outcome) : Prop :=
  outcome.sent = none ∧
    ((∃ text, outcome.result = .ok text ∧ bookOf outcome.contacts = changed.book) ∨
      ∃ e, outcome.result = .error e ∧ bookOf outcome.contacts = view.book)

/-- A tool that fails before it changes anything. -/
theorem changes_of_error (contacts : Option ContactTable) (sent : List (String × String))
    (changed : View) (e : String) :
    Changes ⟨bookOf contacts, sent⟩ changed (.of contacts (.error e)) :=
  ⟨rfl, .inr ⟨e, rfl, rfl⟩⟩

/-- A contact is added by a call that succeeds, and by no other. -/
theorem add_contact_view (args : Json) (sent : List (String × String)) :
    Changes ⟨bookOf contacts, sent⟩ (View.add ⟨bookOf contacts, sent⟩ args)
      (toolAddContact libraries contacts circumstances args) := by
  unfold toolAddContact View.add
  cases parameter args "name" with
  | none => exact changes_of_error ..
  | some name =>
  cases parameter args "address" with
  | none => exact changes_of_error ..
  | some address =>
  cases parameter args "psk" with
  | none => exact changes_of_error ..
  | some pskStr =>
  dsimp only
  cases Wallet.decodeAddress libraries.sha libraries.base32 address with
  | error e => exact changes_of_error ..
  | ok _ =>
  cases parsePsk libraries.reasons pskStr.toList with
  | error e => exact changes_of_error ..
  | ok psk =>
  cases circumstances.createDir with
  | error e => exact changes_of_error ..
  | ok _ =>
  cases hopen : openContacts contacts circumstances.contactsOpen with
  | error e => exact changes_of_error ..
  | ok table =>
  refine ⟨rfl, ?_⟩
  dsimp only [Outcome.of]
  rw [← book_of_opened hopen]
  rcases start_add circumstances.database name address psk table with
    ⟨hresult, hbook⟩ | ⟨e, hresult, hdb⟩
  · rw [hresult]
    exact .inl ⟨_, rfl, hbook⟩
  · rw [hresult, hdb]
    exact .inr ⟨_, rfl, rfl⟩

/-- So is one removed. -/
theorem remove_contact_view (args : Json) (sent : List (String × String)) :
    Changes ⟨bookOf contacts, sent⟩ (View.remove ⟨bookOf contacts, sent⟩ args)
      (toolRemoveContact contacts circumstances args) := by
  unfold toolRemoveContact View.remove
  cases parameter args "name" with
  | none => exact changes_of_error ..
  | some name =>
  dsimp only
  cases hopen : openContacts contacts circumstances.contactsOpen with
  | error e => exact changes_of_error ..
  | ok table =>
  refine ⟨rfl, ?_⟩
  dsimp only [Outcome.of]
  rw [← book_of_opened hopen]
  rcases start_remove circumstances.database name table with
    ⟨found, hresult, hbook⟩ | ⟨e, hresult, hdb⟩
  · rw [hresult]
    cases found with
    | true => exact .inl ⟨_, rfl, hbook⟩
    | false => exact .inl ⟨_, rfl, hbook⟩
  · rw [hresult, hdb]
    exact .inr ⟨_, rfl, rfl⟩

/-- A message that the network takes is read from the confirmation, and no other. -/
theorem send_message_view (hbase32 : Wallet.Canonical libraries.base32) (args : Json)
    (sent : List (String × String)) :
    let outcome := toolSendMessage libraries contacts circumstances args
    outcome.contacts = contacts ∧
      (⟨bookOf contacts, sent ++ confirmed outcome.sent.toList⟩ : View) =
        outcome.result.toOption.elim ⟨bookOf contacts, sent⟩
          (View.send ⟨bookOf contacts, sent⟩ args) := by
  have hnone {e : String} : (⟨bookOf contacts, sent ++ confirmed
      (Outcome.of contacts (.error e)).sent.toList⟩ : View) = ⟨bookOf contacts, sent⟩ :=
    congrArg (View.mk (bookOf contacts)) (List.append_nil sent)
  unfold toolSendMessage
  cases parameter args "to" with
  | none => exact ⟨rfl, hnone⟩
  | some name =>
  cases hmessage : parameter args "message" with
  | none => exact ⟨rfl, hnone⟩
  | some message =>
  dsimp only
  cases hdecode : Wallet.decodeAddress libraries.sha libraries.base32
      (((findContact contacts circumstances name).map fun row => row.address).getD name) with
  | error e => exact ⟨rfl, hnone⟩
  | ok _ =>
  cases circumstances.keyStorage with
  | error e => exact ⟨rfl, hnone⟩
  | ok _ =>
  cases circumstances.messageCache with
  | error e => exact ⟨rfl, hnone⟩
  | ok _ =>
  cases circumstances.client with
  | error e => exact ⟨rfl, hnone⟩
  | ok _ =>
  cases circumstances.send with
  | error e => exact ⟨rfl, congrArg (View.mk (bookOf contacts)) (List.append_nil sent)⟩
  | ok txid =>
      refine ⟨rfl, ?_⟩
      have hrecipient := recipient_of_confirmation hbase32 (by rw [hdecode]; rfl) txid
      show _ = View.send ⟨bookOf contacts, sent⟩ args _
      rw [View.send, hrecipient, hmessage]
      rfl

/-- What a tool leaves, as the client sees it. -/
theorem tool_call_view (ctx : McpContext) (hbase32 : Wallet.Canonical libraries.base32)
    (contacts : Option ContactTable) (circumstances : Circumstances) (name : String) (args : Json)
    (sent : List (String × String)) :
    let outcome := handleToolCall libraries ctx contacts circumstances name args
    (⟨bookOf outcome.contacts, sent ++ confirmed outcome.sent.toList⟩ : View) =
      outcome.result.toOption.elim ⟨bookOf contacts, sent⟩
        (View.call ⟨bookOf contacts, sent⟩ name args) := by
  have hchanges {changed : View} {outcome : Outcome}
      (h : Changes ⟨bookOf contacts, sent⟩ changed outcome) (hsent : changed.sent = sent) :
      (⟨bookOf outcome.contacts, sent ++ confirmed outcome.sent.toList⟩ : View) =
        outcome.result.toOption.elim ⟨bookOf contacts, sent⟩ fun _ => changed := by
    obtain ⟨hnone, ⟨text, hresult, hbook⟩ | ⟨e, hresult, hbook⟩⟩ := h
    · rw [hnone, hresult, hbook, Option.toList_none, confirmed, List.filterMap_nil,
        List.append_nil]
      exact congrArg (View.mk changed.book) hsent.symm
    · rw [hnone, hresult, hbook, Option.toList_none, confirmed, List.filterMap_nil,
        List.append_nil]
      rfl
  have hsame {result : Except String String} :
      (⟨bookOf (Outcome.of contacts result).contacts,
        sent ++ confirmed (Outcome.of contacts result).sent.toList⟩ : View) =
        (Outcome.of contacts result).result.toOption.elim ⟨bookOf contacts, sent⟩
          fun _ => ⟨bookOf contacts, sent⟩ := by
    cases result with
    | ok text => exact congrArg (View.mk (bookOf contacts)) (List.append_nil sent)
    | error e => exact congrArg (View.mk (bookOf contacts)) (List.append_nil sent)
  unfold View.call
  split
  next => exact hchanges (add_contact_view args sent) (by unfold View.add; split <;> rfl)
  next => exact hchanges (remove_contact_view args sent) (by unfold View.remove; split <;> rfl)
  next =>
    obtain ⟨hcontacts, hview⟩ : (toolSendMessage libraries contacts circumstances args).contacts =
        contacts ∧ _ := send_message_view hbase32 args sent
    show (⟨bookOf (toolSendMessage libraries contacts circumstances args).contacts, _⟩ : View) = _
    rw [hcontacts]
    exact hview
  next hadd hremove hsend =>
    unfold handleToolCall
    split
    next => exact hsame
    next => exact absurd rfl hadd
    next => exact absurd rfl hremove
    next => exact hsame
    next => exact hsame
    next => exact absurd rfl hsend
    next => exact hsame

/-! ## Sessions -/

/-- A request that calls no tool changes nothing. -/
theorem handle_request_other (server : Server) {req : McpRequest} (h : req.method ≠ "tools/call") :
    (handleRequest libraries ctx server circumstances req).1 = server := by
  unfold handleRequest
  split
  next => rfl
  next => rfl
  next => rfl
  next hcall => exact absurd hcall h
  next => rfl
  next => rfl

/-- A request that calls a tool. -/
theorem handle_request_call (server : Server) {req : McpRequest} (h : req.method = "tools/call") :
    handleRequest libraries ctx server circumstances req =
      if req.tool.1 = "" then (server, some (errorResponse req.id (-32602) "Missing tool name"))
      else
        let outcome :=
          handleToolCall libraries ctx server.contacts circumstances req.tool.1 req.tool.2
        ({ contacts := outcome.contacts, sent := server.sent ++ outcome.sent.toList },
          some (response req.id (toolResult outcome.result))) := by
  unfold handleRequest
  split
  next hother => exact absurd (hother.symm.trans h) (by decide)
  next hother => exact absurd (hother.symm.trans h) (by decide)
  next hother => exact absurd (hother.symm.trans h) (by decide)
  next => rfl
  next hother => exact absurd (hother.symm.trans h) (by decide)
  next hother _ => exact absurd h hother

theorem confirmed_append (sent others : List Sent) :
    confirmed (sent ++ others) = confirmed sent ++ confirmed others :=
  List.filterMap_append ..

/-- A request does to what the server holds what the client makes of the response. -/
theorem handle_line_view (hbase32 : Wallet.Canonical libraries.base32) (server : Server)
    (line : String) :
    (handleLine libraries ctx server circumstances line).1.view =
      server.view.step libraries
        ⟨line, (handleLine libraries ctx server circumstances line).2⟩ := by
  unfold handleLine View.step toolCall
  dsimp only
  by_cases hblank : String.ofList (Host.Signature.trim line.toList) = ""
  · rw [if_pos hblank, if_pos hblank]
  · rw [if_neg hblank, if_neg hblank]
    cases McpRequest.parse libraries (String.ofList (Host.Signature.trim line.toList)) with
    | none => rfl
    | some req =>
        dsimp only [Option.bind_some]
        by_cases hcall : req.method = "tools/call"
        · rw [if_pos hcall, handle_request_call server hcall]
          dsimp only
          by_cases hname : req.tool.1 = ""
          · rw [if_pos hname]
            rfl
          · rw [if_neg hname]
            dsimp only
            rw [success_text_tool_result]
            have hview := tool_call_view ctx hbase32 server.contacts circumstances req.tool.1
              req.tool.2 (confirmed server.sent)
            dsimp only at hview
            rw [← confirmed_append] at hview
            refine hview.trans ?_
            cases (handleToolCall libraries ctx server.contacts circumstances req.tool.1
              req.tool.2).result.toOption with
            | none => rfl
            | some text => rfl
        · rw [if_neg hcall, handle_request_other server hcall]

/-- So do the requests of a session. -/
theorem cmd_mcp_view (ctx : McpContext) (hbase32 : Wallet.Canonical libraries.base32)
    (server : Server) (lines : List (Option String × Circumstances)) :
    (cmdMcp libraries ctx server lines).1.view =
      (cmdMcp libraries ctx server lines).2.foldl (View.step libraries) server.view := by
  induction lines generalizing server with
  | nil => rfl
  | cons entry rest ih =>
      obtain ⟨line, circumstances⟩ := entry
      cases line with
      | none => rfl
      | some line =>
          rw [cmdMcp]
          dsimp only
          rw [List.foldl_cons, ← handle_line_view hbase32]
          exact ih _

/-! ## The listed tools -/

/-- The tools of `tool_list` by name, with the parameters that their schemas require. -/
def listedTools : List (String × List String) :=
  (toolList.getElements "tools").map fun tool =>
    ((tool.getStr? "name").getD "",
      (((tool.get? "inputSchema").map fun schema =>
        schema.getElements "required").getD []).filterMap asStr)

/-- The outcome is not that of a tool that does not exist. -/
def Answered (outcome : Outcome) : Prop :=
  ∀ name, outcome.result ≠ .error ("Unknown tool: " ++ name)

theorem answered_ok {outcome : Outcome} {text : String} (h : outcome.result = .ok text) :
    Answered outcome := by
  intro name hunknown
  rw [h] at hunknown
  cases hunknown

/-- The error for a tool that does not exist is known by its first letter. -/
theorem answered_error {outcome : Outcome} {text : String} (h : outcome.result = .error text)
    (hfirst : text.toList.head? ≠ some 'U') : Answered outcome := by
  intro name hunknown
  rw [h] at hunknown
  rw [Except.error.inj hunknown] at hfirst
  exact hfirst (by simp)

theorem list_contacts_answered : Answered (toolListContacts libraries contacts circumstances) := by
  unfold toolListContacts
  cases contacts with
  | none => exact answered_ok rfl
  | some table =>
  dsimp only
  cases openContacts (some table) circumstances.contactsOpen with
  | error e => exact answered_error rfl (by simp)
  | ok table =>
  dsimp only
  split
  · exact answered_error rfl (by simp)
  · exact answered_ok rfl
  · exact answered_ok rfl

theorem list_messages_answered (args : Json) :
    Answered (toolListMessages libraries contacts circumstances args) := by
  unfold toolListMessages
  cases circumstances.messages with
  | none => exact answered_ok rfl
  | some messages =>
  dsimp only
  cases circumstances.messagesOpen with
  | error e => exact answered_error rfl (by simp)
  | ok _ =>
  cases circumstances.prepare with
  | error e => exact answered_error rfl (by simp)
  | ok _ =>
  cases circumstances.select with
  | error e => exact answered_error rfl (by simp)
  | ok _ => exact answered_ok rfl

theorem add_contact_answered (args : Json) :
    Answered (toolAddContact libraries contacts circumstances args) := by
  unfold toolAddContact
  cases parameter args "name" with
  | none => exact answered_error rfl (by simp)
  | some name =>
  cases parameter args "address" with
  | none => exact answered_error rfl (by simp)
  | some address =>
  cases parameter args "psk" with
  | none => exact answered_error rfl (by simp)
  | some pskStr =>
  dsimp only
  cases Wallet.decodeAddress libraries.sha libraries.base32 address with
  | error e => exact answered_error rfl (by simp)
  | ok _ =>
  cases parsePsk libraries.reasons pskStr.toList with
  | error e => exact answered_error rfl (by simp)
  | ok psk =>
  cases circumstances.createDir with
  | error e => exact answered_error rfl (by simp)
  | ok _ =>
  cases openContacts contacts circumstances.contactsOpen with
  | error e => exact answered_error rfl (by simp)
  | ok table =>
  dsimp only
  cases (start (add circumstances.database name address psk.bytes) ⟨table, 0⟩).1 with
  | error e => exact answered_error rfl (by simp)
  | ok _ => exact answered_ok rfl

theorem remove_contact_answered (args : Json) :
    Answered (toolRemoveContact contacts circumstances args) := by
  unfold toolRemoveContact
  cases parameter args "name" with
  | none => exact answered_error rfl (by simp)
  | some name =>
  dsimp only
  cases openContacts contacts circumstances.contactsOpen with
  | error e => exact answered_error rfl (by simp)
  | ok table =>
  dsimp only
  split
  · exact answered_ok rfl
  · exact answered_ok rfl
  · exact answered_error rfl (by simp)

theorem send_message_answered (args : Json) :
    Answered (toolSendMessage libraries contacts circumstances args) := by
  unfold toolSendMessage
  cases parameter args "to" with
  | none => exact answered_error rfl (by simp)
  | some name =>
  cases parameter args "message" with
  | none => exact answered_error rfl (by simp)
  | some message =>
  dsimp only
  cases Wallet.decodeAddress libraries.sha libraries.base32
      (((findContact contacts circumstances name).map fun row => row.address).getD name) with
  | error e => exact answered_error rfl (by simp)
  | ok _ =>
  cases circumstances.keyStorage with
  | error e => exact answered_error rfl (by simp)
  | ok _ =>
  cases circumstances.messageCache with
  | error e => exact answered_error rfl (by simp)
  | ok _ =>
  cases circumstances.client with
  | error e => exact answered_error rfl (by simp)
  | ok _ =>
  cases circumstances.send with
  | error e => exact answered_error rfl (by simp)
  | ok txid => exact answered_ok rfl

/-- The first parameter that is missing is the first one, or it is there. -/
theorem missing_cons {args : Json} {first missing : String} {rest : List String}
    (h : (first :: rest).find? (fun name => (parameter args name).isNone) = some missing) :
    parameter args first = none ∧ missing = first ∨
      (∃ value, parameter args first = some value) ∧
        rest.find? (fun name => (parameter args name).isNone) = some missing := by
  rw [List.find?_cons] at h
  cases hfirst : parameter args first with
  | none =>
      rw [hfirst] at h
      exact .inl ⟨rfl, (Option.some.inj h).symm⟩
  | some value =>
      rw [hfirst] at h
      exact .inr ⟨⟨value, rfl⟩, h⟩

/-- The tools that are handled are those that are listed: any other is answered as unknown, and none
of these is. A call without a parameter that the schema requires is refused for the first one, in
the order of the schema, and changes nothing. -/
theorem listed_tools_handled (libraries : Libraries) (ctx : McpContext)
    (contacts : Option ContactTable) (circumstances : Circumstances) (name : String) (args : Json) :
    (name ∉ listedTools.map Prod.fst →
      handleToolCall libraries ctx contacts circumstances name args =
        .of contacts (.error ("Unknown tool: " ++ name))) ∧
    (name ∈ listedTools.map Prod.fst →
      Answered (handleToolCall libraries ctx contacts circumstances name args)) ∧
    ∀ required missing, (name, required) ∈ listedTools →
      required.find? (fun parameterName => (parameter args parameterName).isNone) = some missing →
      handleToolCall libraries ctx contacts circumstances name args =
        .of contacts (.error ("Missing '" ++ missing ++ "'")) := by
  have hlisted : listedTools = [
      ("send_message", ["to", "message"]), ("list_contacts", []),
      ("add_contact", ["name", "address", "psk"]), ("remove_contact", ["name"]),
      ("list_messages", []), ("get_status", [])] := rfl
  rw [hlisted]
  refine ⟨fun hname => ?_, fun hname => ?_, ?_⟩
  · simp only [List.map_cons, List.map_nil, List.mem_cons, List.not_mem_nil, or_false, not_or]
      at hname
    unfold handleToolCall
    split
    next => exact absurd rfl hname.2.1
    next => exact absurd rfl hname.2.2.1
    next => exact absurd rfl hname.2.2.2.1
    next => exact absurd rfl hname.2.2.2.2.1
    next => exact absurd rfl hname.2.2.2.2.2
    next => exact absurd rfl hname.1
    next => rfl
  · simp only [List.map_cons, List.map_nil, List.mem_cons, List.not_mem_nil, or_false] at hname
    rcases hname with rfl | rfl | rfl | rfl | rfl | rfl
    · exact send_message_answered args
    · exact list_contacts_answered
    · exact add_contact_answered args
    · exact remove_contact_answered args
    · exact list_messages_answered args
    · exact answered_ok rfl
  · intro required missing hmem hmissing
    simp only [List.mem_cons, List.not_mem_nil, or_false, Prod.mk.injEq] at hmem
    rcases hmem with ⟨rfl, rfl⟩ | ⟨rfl, rfl⟩ | ⟨rfl, rfl⟩ | ⟨rfl, rfl⟩ | ⟨rfl, rfl⟩ | ⟨rfl, rfl⟩
    · show toolSendMessage libraries contacts circumstances args = _
      unfold toolSendMessage
      obtain ⟨hnone, rfl⟩ | ⟨⟨_, hto⟩, hrest⟩ := missing_cons hmissing
      · rw [hnone]
        rfl
      obtain ⟨hnone, rfl⟩ | ⟨-, hrest⟩ := missing_cons hrest
      · rw [hto, hnone]
        rfl
      · cases hrest
    · cases hmissing
    · show toolAddContact libraries contacts circumstances args = _
      unfold toolAddContact
      obtain ⟨hnone, rfl⟩ | ⟨⟨_, hname⟩, hrest⟩ := missing_cons hmissing
      · rw [hnone]
        rfl
      obtain ⟨hnone, rfl⟩ | ⟨⟨_, haddress⟩, hrest⟩ := missing_cons hrest
      · rw [hname, hnone]
        rfl
      obtain ⟨hnone, rfl⟩ | ⟨-, hrest⟩ := missing_cons hrest
      · rw [hname, haddress, hnone]
        rfl
      · cases hrest
    · show toolRemoveContact contacts circumstances args = _
      unfold toolRemoveContact
      obtain ⟨hnone, rfl⟩ | ⟨-, hrest⟩ := missing_cons hmissing
      · rw [hnone]
        rfl
      · cases hrest
    · cases hmissing
    · cases hmissing

/-! ## Contacts that can be written to -/

/-- Every address in the book is an address. -/
def ValidBook (libraries : Libraries) (book : String → Option String) : Prop :=
  ∀ name address, book name = some address →
    (Wallet.decodeAddress libraries.sha libraries.base32 address).isOk = true

/-- A contact is added under an address. -/
theorem address_of_added {args : Json} {text : String}
    (h : (toolAddContact libraries contacts circumstances args).result = .ok text) :
    ∃ address, parameter args "address" = some address ∧
      (Wallet.decodeAddress libraries.sha libraries.base32 address).isOk = true := by
  unfold toolAddContact at h
  cases hname : parameter args "name" with
  | none =>
      rw [hname] at h
      cases h
  | some name =>
      cases haddress : parameter args "address" with
      | none =>
          rw [hname, haddress] at h
          cases h
      | some address =>
          refine ⟨address, rfl, ?_⟩
          rw [hname, haddress] at h
          cases hpsk : parameter args "psk" with
          | none =>
              rw [hpsk] at h
              cases h
          | some pskStr =>
              rw [hpsk] at h
              dsimp only at h
              cases hdecode : Wallet.decodeAddress libraries.sha libraries.base32 address with
              | error e =>
                  rw [hdecode] at h
                  cases h
              | ok key => rfl

/-- A tool keeps the addresses in the book valid. -/
theorem tool_call_valid (ctx : McpContext) (hbase32 : Wallet.Canonical libraries.base32)
    {contacts : Option ContactTable} (circumstances : Circumstances)
    (hvalid : ValidBook libraries (bookOf contacts)) (name : String) (args : Json) :
    ValidBook libraries
      (bookOf (handleToolCall libraries ctx contacts circumstances name args).contacts) := by
  have hbook := congrArg View.book
    (tool_call_view ctx hbase32 contacts circumstances name args [])
  dsimp only at hbook
  rw [hbook]
  cases hresult : (handleToolCall libraries ctx contacts circumstances name args).result with
  | error e => exact hvalid
  | ok text =>
      show ValidBook libraries (View.call ⟨bookOf contacts, []⟩ name args text).book
      unfold View.call
      split
      next =>
        obtain ⟨address, haddress, hdecoded⟩ := address_of_added hresult
        unfold View.add
        rw [haddress]
        cases parameter args "name" with
        | none => exact hvalid
        | some added =>
            intro other found hfound
            dsimp only at hfound
            rw [Function.update_apply] at hfound
            split at hfound
            · cases hfound
              exact hdecoded
            · exact hvalid other found hfound
      next =>
        unfold View.remove
        cases parameter args "name" with
        | none => exact hvalid
        | some removed =>
            intro other found hfound
            dsimp only at hfound
            rw [Function.update_apply] at hfound
            split at hfound
            · cases hfound
            · exact hvalid other found hfound
      next =>
        unfold View.send
        split
        · exact hvalid
        · exact hvalid
      next => exact hvalid

/-- So does a session. -/
theorem session_valid (ctx : McpContext) (hbase32 : Wallet.Canonical libraries.base32)
    {server : Server} (hvalid : ValidBook libraries (bookOf server.contacts))
    (lines : List (Option String × Circumstances)) :
    ValidBook libraries (bookOf (cmdMcp libraries ctx server lines).1.contacts) := by
  induction lines generalizing server with
  | nil => exact hvalid
  | cons entry rest ih =>
      obtain ⟨line, circumstances⟩ := entry
      cases line with
      | none => exact hvalid
      | some line =>
          rw [cmdMcp]
          refine ih ?_
          unfold handleLine
          dsimp only
          split
          · exact hvalid
          · cases McpRequest.parse libraries (String.ofList (Host.Signature.trim line.toList)) with
            | none => exact hvalid
            | some req =>
                dsimp only
                by_cases hcall : req.method = "tools/call"
                · rw [handle_request_call server hcall]
                  split
                  · exact hvalid
                  · exact tool_call_valid ctx hbase32 circumstances hvalid _ _
                · rw [handle_request_other server hcall]
                  exact hvalid

/-- In every session, what a client that knows the contacts at the start makes of its lines and the
responses is what the server holds: the contacts with their addresses, and the messages that the
network took, whatever files, statements and the network do. If the addresses are valid at the
start, so are all that the client has. -/
theorem session_view (libraries : Libraries) (ctx : McpContext)
    (hbase32 : Wallet.Canonical libraries.base32) (server : Server)
    (lines : List (Option String × Circumstances)) :
    let view := (cmdMcp libraries ctx server lines).2.foldl (View.step libraries) server.view
    (cmdMcp libraries ctx server lines).1.view = view ∧
      (ValidBook libraries (bookOf server.contacts) → ValidBook libraries view.book) := by
  intro view
  have hview : (cmdMcp libraries ctx server lines).1.view = view :=
    cmd_mcp_view ctx hbase32 server lines
  refine ⟨hview, fun hvalid => ?_⟩
  rw [← hview]
  exact session_valid ctx hbase32 hvalid lines

/-- The hash of the key of zeros. -/
def zeroSha : Address.Sha512_256 where
  digest _ := Vector.map UInt8.ofNat #v[
    0xaf, 0x13, 0xc0, 0x48, 0x99, 0x12, 0x24, 0xa5, 0xe4, 0xc6, 0x64, 0x44, 0x6b, 0x68, 0x8a, 0xaf,
    0x48, 0xfb, 0x54, 0x56, 0xdb, 0x36, 0x29, 0x60, 0x1b, 0x00, 0xec, 0x16, 0x0c, 0x74, 0xe5, 0x54]

/-- The address of that key. -/
def zeroAddress : String := "AAAAAAAAAAAAAAAAAAAAAAAAAAAAAAAAAAAAAAAAAAAAAAAAAAAAY5HFKQ"

/-- A pre-shared key. -/
def zeroPsk : String := "0000000000000000000000000000000000000000000000000000000000000000"

/-- A request that adds a contact. -/
def addLine : List Char :=
  "\x7b\"id\":1,\"method\":\"tools/call\",\"params\":\x7b".toList ++
    "\"arguments\":\x7b\"address\":\"".toList ++ zeroAddress.toList ++
    "\",\"name\":\"alice\",\"psk\":\"".toList ++ zeroPsk.toList ++
    "\"\x7d,\"name\":\"add_contact\"\x7d\x7d".toList

/-- A request that sends a message to the contact. -/
def sendLine : List Char :=
  "\x7b\"id\":2,\"method\":\"tools/call\",\"params\":\x7b".toList ++
    "\"arguments\":\x7b\"message\":\"hi\",\"to\":\"alice\"\x7d,".toList ++
    "\"name\":\"send_message\"\x7d\x7d".toList

/-- What the two requests say. -/
def addRequest : McpRequest where
  id := some (.number 1 0)
  method := "tools/call"
  params := .object [
    ("arguments", .object [("address", .string zeroAddress), ("name", .string "alice"),
      ("psk", .string zeroPsk)]),
    ("name", .string "add_contact")]

def sendRequest : McpRequest where
  id := some (.number 2 0)
  method := "tools/call"
  params := .object [
    ("arguments", .object [("message", .string "hi"), ("to", .string "alice")]),
    ("name", .string "send_message")]

/-- A request in JSON. -/
def McpRequest.json (req : McpRequest) : Json :=
  .object [("id", req.id.getD .null), ("method", .string req.method), ("params", req.params)]

/-- The libraries, as far as they meet these requests and that address. -/
def sampleLibraries : Libraries where
  fromStr line :=
    if line.toList = addLine then some addRequest.json
    else if line.toList = sendLine then some sendRequest.json
    else none
  toStringPretty _ := ""
  sha := zeroSha
  base32 := Wallet.noPad
  reasons := ⟨fun _ => "Odd number of digits", fun _ => "Invalid padding"⟩

/-- A server on a local network. -/
def sampleContext : McpContext where
  version := "0.1.0"
  network := "localnet"
  algodUrl := "http://localhost:4001"
  address := zeroAddress
  hubUrl := "http://localhost:3578"

/-- Nothing fails. -/
def calm : Circumstances where
  contactsOpen := .ok ()
  contactsReopen := .ok ()
  createDir := .ok ()
  database := ⟨fun _ => "2026-01-01 00:00:00", fun _ => none⟩
  messages := none
  messagesOpen := .ok ()
  prepare := .ok ()
  select := .ok ()
  order := .stable newestFirst
  keyStorage := .ok ()
  messageCache := .ok ()
  client := .ok ()
  send := .ok "TXID"

/-- A server without contacts. -/
def emptyServer : Server := ⟨none, []⟩

theorem empty_server_valid : ValidBook sampleLibraries (bookOf emptyServer.contacts) :=
  fun _ _ h => by cases h

/-- `session_view` for a session in which a contact is added, added again in vain, and written to,
first while the network does not answer. -/
theorem sample_session_view :
    let lines := [(some (String.ofList addLine), calm), (some (String.ofList addLine), calm),
      (some (String.ofList sendLine), { calm with send := .error "timeout" }),
      (some (String.ofList sendLine), calm)]
    let view := (cmdMcp sampleLibraries sampleContext emptyServer lines).2.foldl
      (View.step sampleLibraries) emptyServer.view
    (cmdMcp sampleLibraries sampleContext emptyServer lines).1.view = view ∧
      ValidBook sampleLibraries view.book := by
  intro lines view
  obtain ⟨hview, hvalid⟩ :=
    session_view sampleLibraries sampleContext Wallet.no_pad_canonical emptyServer lines
  exact ⟨hview, hvalid empty_server_valid⟩

/-- The rows that are selected for a participant, after operations of the cache that the agent has
done, hold messages of that conversation, the newest first, each once, as many as the limit admits,
and none that is left out is newer. -/
theorem select_messages_newest {operations : List Operation}
    (hdomain : ∀ operation ∈ operations, operation.InDomain) (order : Table.RowOrder newestFirst)
    (participant : String) (limit : Int) :
    let log := (specRun Held operations participant).log
    ∃ shown rest,
      List.Forall₂ (Stores participant)
        (selectMessages (MessageCache.run operations).messages order (some participant)
          limit) shown ∧
      (shown ++ rest).Perm log ∧
      (shown ++ rest).Pairwise (fun newer older => older.timestamp.secs ≤ newer.timestamp.secs) ∧
      shown.length = if limit < 0 then log.length else min limit.toNat log.length := by
  intro log
  have hstored : List.Forall₂ (Stores participant)
      ((MessageCache.run operations).rowsOf participant) log :=
    (run_represents hdomain).rows_stored participant
  have hrows : (MessageCache.run operations).messages.select (fun row =>
      (some participant).all fun address => row.participant = address) =
        (MessageCache.run operations).rowsOf participant := rfl
  obtain ⟨arranged, -, hperm, harranged⟩ := map_m_row_to_message hstored
    (order.perm ((MessageCache.run operations).rowsOf participant))
  have hsorted :
      arranged.Pairwise fun newer older => older.timestamp.secs ≤ newer.timestamp.secs := by
    have hkeys :
        (order.arrange ((MessageCache.run operations).rowsOf participant)).map newestFirst =
          arranged.map fun msg => -msg.timestamp.secs :=
      stored_map_eq harranged fun row msg hrow => congrArg Neg.neg hrow.time_eq
    have hpairs := order.sorted ((MessageCache.run operations).rowsOf participant)
    rw [← List.pairwise_map (f := newestFirst) (R := (· ≤ ·)), hkeys] at hpairs
    exact (List.pairwise_map.mp hpairs).imp fun h => Int.neg_le_neg_iff.mp h
  have hlength : arranged.length = log.length := hperm.length_eq
  unfold selectMessages limited
  rw [hrows]
  by_cases hlimit : limit < 0
  · rw [if_pos hlimit, if_pos hlimit]
    refine ⟨arranged, [], harranged, ?_, ?_, hlength⟩
    · rwa [List.append_nil]
    · rwa [List.append_nil]
  · rw [if_neg hlimit, if_neg hlimit]
    refine ⟨arranged.take limit.toNat, arranged.drop limit.toNat,
      List.forall₂_take _ harranged, ?_, ?_, ?_⟩
    · rwa [List.take_append_drop]
    · rwa [List.take_append_drop]
    · rw [List.length_take, hlength]

/-- After any operations of the cache, `list_messages` for a contact or an address shows messages of
that conversation only, if the file can be opened and queried: the newest first, each once, as many
as the limit admits, and none that is left out is newer. -/
theorem list_messages_newest (libraries : Libraries) {operations : List Operation}
    (hdomain : ∀ operation ∈ operations, operation.InDomain) (contacts : Option ContactTable)
    {circumstances : Circumstances}
    (hmessages : circumstances.messages = some (MessageCache.run operations).messages)
    (hopen : circumstances.messagesOpen = .ok ()) (hprepare : circumstances.prepare = .ok ())
    (hselect : circumstances.select = .ok ()) {args : Json} {name : String}
    (hfrom : parameter args "from" = some name) :
    let participant :=
      ((findContact contacts circumstances name).map fun row => row.address).getD name
    let log := (specRun Held operations participant).log
    ∃ rows shown rest,
      (toolListMessages libraries contacts circumstances args).result =
        .ok (listing libraries rows) ∧
      List.Forall₂ (Stores participant) rows shown ∧
      (shown ++ rest).Perm log ∧
      (shown ++ rest).Pairwise (fun newer older => older.timestamp.secs ≤ newer.timestamp.secs) ∧
      shown.length =
        if limitOf args < 0 then log.length else min (limitOf args).toNat log.length := by
  intro participant log
  obtain ⟨shown, rest, hrows, hnewest⟩ :=
    select_messages_newest hdomain circumstances.order participant (limitOf args)
  refine ⟨_, shown, rest, ?_, hrows, hnewest⟩
  unfold toolListMessages
  rw [hmessages, hfrom, hopen, hprepare, hselect]
  rfl

/-- Nothing fails, and the cache is the sample. -/
def withMessages : Circumstances :=
  { calm with messages := some (MessageCache.run sampleOperations).messages }

/-- `list_messages_newest` for a conversation of two messages, of which one is asked for. -/
theorem newest_message_listed :
    let args : Json := .object [("from", .string "alice"), ("limit", .number 1 0)]
    let log := (specRun Held sampleOperations "alice").log
    (∃ rows shown rest,
      (toolListMessages sampleLibraries none withMessages args).result =
        .ok (listing sampleLibraries rows) ∧
      List.Forall₂ (Stores "alice") rows shown ∧ (shown ++ rest).Perm log ∧
      (shown ++ rest).Pairwise (fun newer older => older.timestamp.secs ≤ newer.timestamp.secs) ∧
      shown.length = min 1 log.length) ∧
    (selectMessages (MessageCache.run sampleOperations).messages (.stable newestFirst)
      (some "alice") 1).map (fun row => row.content) = ["again"] := by
  intro args log
  have hmessages : withMessages.messages = some (MessageCache.run sampleOperations).messages := rfl
  have hfrom : parameter args "from" = some "alice" := rfl
  refine ⟨?_, by decide⟩
  exact list_messages_newest sampleLibraries sample_operations_in_domain none hmessages rfl rfl rfl
    hfrom

end CorvidNano.Agent.Mcp
