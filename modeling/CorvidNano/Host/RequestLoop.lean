import CorvidNano.Library.Lines
import CorvidNano.Library.Runs
import CorvidNano.Library.Utf8
import Mathlib.Data.List.Infix
import Mathlib.Data.List.TakeWhile

/-!
# The request loop of a connection

The loop of `main.rs` that reads the request lines of one client. `read_line` appends what the
`BufReader` has to the line until it has seen a newline or the end of the stream, and the loop
looks at the length of the line only after that. `buffer_bounded_iff` says for which streams the
line stays within `MAX_REQUEST_LINE_BYTES` and one read chunk.
-/

namespace CorvidNano.Host.RequestLoop

open Runs

/-- `MAX_REQUEST_LINE_BYTES`. -/
def maxRequestLineBytes : Nat := 4 * 1024 * 1024

/-- The most that a `BufReader` reads at a time. -/
def readChunkBytes : Nat := 8 * 1024

/-- The byte that ends a line. -/
def newline : UInt8 := 10

/-- The task of one client. -/
structure Connection where
  /-- What the `BufReader` has read and `read_line` has not taken yet. -/
  unread : List UInt8
  /-- The client has closed its end. -/
  ended : Bool
  line : List UInt8
  /-- `read_line` has seen the end of the line or of the stream. -/
  complete : Bool
  /-- The lines that were given to `serde_json::from_str`. -/
  requests : List (List UInt8)
  closed : Bool
  deriving DecidableEq

/-- A connection that was just accepted. -/
def Connection.new : Connection where
  unread := []
  ended := false
  line := []
  complete := false
  requests := []
  closed := false

/-- What the socket delivers, and the steps of the task. -/
inductive Event where
  | fill (chunk : List UInt8)
  | readError
  | collect
  | handle
  deriving DecidableEq

/-- `read_line` is waiting for the socket. -/
def Connection.waiting (conn : Connection) : Bool :=
  !conn.closed && !conn.complete && conn.unread.isEmpty

/-- The `BufReader` reads a chunk, or finds the end of the stream. -/
def fillStep (conn : Connection) (chunk : List UInt8) : Option Connection :=
  if conn.waiting then
    match chunk with
    | [] => some { conn with ended := true, complete := true }
    | byte :: rest =>
        if conn.ended = false ∧ (byte :: rest).length ≤ readChunkBytes then
          some { conn with unread := byte :: rest }
        else none
  else none

/-- `read_line` takes what the `BufReader` has, up to the end of the line. -/
def collectStep (conn : Connection) : Option Connection :=
  if conn.closed ∨ conn.complete ∨ conn.unread = [] then none
  else
    match conn.unread.span (· ≠ newline) with
    | (taken, []) => some { conn with line := conn.line ++ taken, unread := [] }
    | (taken, byte :: unread) =>
        some { conn with line := conn.line ++ taken ++ [byte], unread, complete := true }

/-- The loop leaves at this line. -/
def closes (line : List UInt8) : Bool :=
  -- `Ok(0)`, an error of `read_line`, and `n > MAX_REQUEST_LINE_BYTES`.
  line.isEmpty || (String.fromUTF8? ⟨line.toArray⟩).isNone || maxRequestLineBytes < line.length

/-- `read_line` returns. The loop answers a line whether it is a request or not, and clears it. -/
def handleStep (conn : Connection) : Option Connection :=
  if conn.closed ∨ conn.complete = false then none
  else if closes conn.line then some { conn with closed := true }
  else
    some { conn with
      line := []
      complete := false
      requests := conn.requests ++ [conn.line] }

/-- `read_line` returns an error of the socket. -/
def readErrorStep (conn : Connection) : Option Connection :=
  if conn.waiting then some { conn with closed := true } else none

/-- One step of the socket or of the task. -/
def step (conn : Connection) : Event → Option Connection
  | .fill chunk => fillStep conn chunk
  | .readError => readErrorStep conn
  | .collect => collectStep conn
  | .handle => handleStep conn

/-- The bytes that the events deliver. -/
def received : List Event → List UInt8
  | [] => []
  | .fill chunk :: rest => chunk ++ received rest
  | _ :: rest => received rest

/-- `MAX_REQUEST_LINE_BYTES` plus one read chunk. -/
def bound : Nat := maxRequestLineBytes + readChunkBytes

/-- No line is longer than the bound with its end, up to the first one at which the loop leaves. -/
def LinesFit : List (List UInt8) → List UInt8 → Prop
  | [], unfinished => unfinished.length ≤ bound
  | line :: lines, unfinished =>
      (line ++ [newline]).length ≤ bound ∧
        (closes (line ++ [newline]) = true ∨ LinesFit lines unfinished)

/-- No line of the stream is longer than the bound, up to the first one at which the loop
leaves. -/
def Fits (stream : List UInt8) : Prop :=
  LinesFit (Lines.split newline stream).1 (Lines.split newline stream).2

/-! ## The lines of a stream -/

/-- An unfinished line fits if it is within the bound. -/
theorem fits_of_not_mem {stream : List UInt8} (h : newline ∉ stream) :
    Fits stream ↔ stream.length ≤ bound := by
  rw [Fits, Lines.split_of_not_mem h]
  rfl

/-- The first line of a stream, and the rest of it. -/
theorem fits_line_append {line : List UInt8} (h : newline ∉ line) (rest : List UInt8) :
    Fits (line ++ newline :: rest) ↔
      (line ++ [newline]).length ≤ bound ∧
        (closes (line ++ [newline]) = true ∨ Fits rest) := by
  rw [Fits, Lines.split_line_append h]
  rfl

/-- What is known of the first line is within the bound if the stream fits. -/
theorem length_le_of_fits {line rest : List UInt8} (h : newline ∉ line)
    (hfits : Fits (line ++ rest)) : line.length ≤ bound := by
  by_cases hrest : newline ∈ rest
  · obtain ⟨front, back, rfl, hfront⟩ := List.eq_append_cons_of_mem hrest
    rw [← List.append_assoc, fits_line_append (by simp [h, hfront])] at hfits
    have hlength := hfits.1
    simp only [List.length_append] at hlength
    omega
  · have hlength := (fits_of_not_mem (by simp [h, hrest])).mp hfits
    rw [List.length_append] at hlength
    omega

/-! ## What a step does -/

/-- The end of a line is the last byte of a line that has one, and nothing is left behind the end
of the stream. -/
structure WellFormed (conn : Connection) : Prop where
  line : conn.complete = false → newline ∉ conn.line
  complete : conn.complete = true →
    (conn.ended = true ∧ newline ∉ conn.line) ∨
      ∃ text, newline ∉ text ∧ conn.line = text ++ [newline]
  unread : conn.ended = true → conn.unread = []

/-- What a step of `read_line` takes. -/
theorem collect_cases {conn next : Connection} (h : collectStep conn = some next) :
    conn.closed = false ∧ conn.complete = false ∧ conn.unread ≠ [] ∧
      ((newline ∉ conn.unread ∧
          next = { conn with line := conn.line ++ conn.unread, unread := [] }) ∨
        ∃ front back, conn.unread = front ++ newline :: back ∧ newline ∉ front ∧
          next = { conn with
            line := conn.line ++ front ++ [newline]
            unread := back
            complete := true }) := by
  unfold collectStep at h
  split at h
  · cases h
  · rename_i hready
    obtain ⟨hclosed, hcomplete, hunread⟩ : conn.closed = false ∧ conn.complete = false ∧
        conn.unread ≠ [] := by simpa using hready
    refine ⟨hclosed, hcomplete, hunread, ?_⟩
    rw [List.span_eq_takeWhile_dropWhile] at h
    have hsplit := List.takeWhile_append_dropWhile (p := (· ≠ newline)) (l := conn.unread)
    have hfront : newline ∉ conn.unread.takeWhile (· ≠ newline) := fun hmem => by
      simpa using List.mem_takeWhile_imp hmem
    split at h
    · rename_i taken hspan
      obtain ⟨rfl, hdrop⟩ := Prod.mk.inj hspan
      rw [hdrop, List.append_nil] at hsplit
      rw [hsplit] at h hfront
      exact .inl ⟨hfront, (Option.some.inj h).symm⟩
    · rename_i taken byte unread hspan
      obtain ⟨rfl, hdrop⟩ := Prod.mk.inj hspan
      have hbyte : byte = newline := by
        have hhead := List.head?_dropWhile_not (· ≠ newline) conn.unread
        rw [hdrop] at hhead
        simpa using hhead
      subst hbyte
      rw [hdrop] at hsplit
      exact .inr ⟨_, _, hsplit.symm, hfront, (Option.some.inj h).symm⟩

/-- What the `BufReader` finds. -/
theorem fill_cases {conn next : Connection} {chunk : List UInt8}
    (h : fillStep conn chunk = some next) :
    conn.closed = false ∧ conn.complete = false ∧ conn.unread = [] ∧
      ((chunk = [] ∧ next = { conn with ended := true, complete := true }) ∨
        (conn.ended = false ∧ chunk.length ≤ readChunkBytes ∧
          next = { conn with unread := chunk })) := by
  unfold fillStep at h
  split at h
  · rename_i hwaiting
    obtain ⟨⟨hclosed, hcomplete⟩, hunread⟩ : (conn.closed = false ∧ conn.complete = false) ∧
        conn.unread = [] := by simpa [Connection.waiting] using hwaiting
    refine ⟨hclosed, hcomplete, hunread, ?_⟩
    split at h
    · exact .inl ⟨rfl, (Option.some.inj h).symm⟩
    · split at h
      · rename_i hready
        exact .inr ⟨hready.1, hready.2, (Option.some.inj h).symm⟩
      · cases h
  · cases h

/-- What the loop does with a line. -/
theorem handle_cases {conn next : Connection} (h : handleStep conn = some next) :
    conn.closed = false ∧ conn.complete = true ∧
      ((closes conn.line = true ∧ next = { conn with closed := true }) ∨
        (closes conn.line = false ∧
          next = { conn with
            line := []
            complete := false
            requests := conn.requests ++ [conn.line] })) := by
  unfold handleStep at h
  split at h
  · cases h
  · rename_i hready
    obtain ⟨hclosed, hcomplete⟩ : conn.closed = false ∧ conn.complete = true := by
      simpa using hready
    refine ⟨hclosed, hcomplete, ?_⟩
    split at h
    · rename_i hcloses
      exact .inl ⟨hcloses, (Option.some.inj h).symm⟩
    · rename_i hcloses
      exact .inr ⟨by simpa using hcloses, (Option.some.inj h).symm⟩

/-- A connection breaks only while the loop waits for it. -/
theorem read_error_cases {conn next : Connection} (h : readErrorStep conn = some next) :
    conn.complete = false ∧ conn.unread = [] ∧ next = { conn with closed := true } := by
  unfold readErrorStep at h
  split at h
  · rename_i hwaiting
    obtain ⟨⟨_, hcomplete⟩, hunread⟩ : (conn.closed = false ∧ conn.complete = false) ∧
        conn.unread = [] := by simpa [Connection.waiting] using hwaiting
    exact ⟨hcomplete, hunread, (Option.some.inj h).symm⟩
  · cases h

theorem well_formed_new : WellFormed .new where
  line _ := List.not_mem_nil
  complete h := by cases h
  unread h := by cases h

/-- Every step keeps the line well formed. -/
theorem well_formed_step {conn next : Connection} {event : Event} (hconn : WellFormed conn)
    (h : step conn event = some next) : WellFormed next := by
  cases event with
  | fill chunk =>
      obtain ⟨_, hcomplete, hunread, ⟨_, rfl⟩ | ⟨hended, _, rfl⟩⟩ := fill_cases h
      · exact ⟨fun h => (by cases h), fun _ => .inl ⟨rfl, hconn.line hcomplete⟩, fun _ => hunread⟩
      · exact ⟨hconn.line, hconn.complete, fun h => by simp [hended] at h⟩
  | readError =>
      obtain ⟨_, _, rfl⟩ := read_error_cases h
      exact ⟨hconn.line, hconn.complete, hconn.unread⟩
  | collect =>
      obtain ⟨_, hcomplete, hunread, ⟨hclean, rfl⟩ | ⟨front, back, hsplit, hfront, rfl⟩⟩ :=
        collect_cases h
      · have hline := hconn.line hcomplete
        exact ⟨fun _ => by simp [hline, hclean], fun h => by simp [hcomplete] at h, fun _ => rfl⟩
      · have hline := hconn.line hcomplete
        refine ⟨fun h => (by cases h), fun _ => .inr ⟨conn.line ++ front, ?_, rfl⟩,
          fun hended => ?_⟩
        · simp [hline, hfront]
        · exact absurd (hconn.unread hended) hunread
  | handle =>
      obtain ⟨_, _, ⟨_, rfl⟩ | ⟨_, rfl⟩⟩ := handle_cases h
      · exact ⟨hconn.line, hconn.complete, hconn.unread⟩
      · exact ⟨fun _ => List.not_mem_nil, fun h => (by cases h), hconn.unread⟩

/-! ## The bound -/

/-- What is still to come fits: the line as it is, and with it the rest of the stream. -/
def FitsFrom (conn : Connection) (future : List UInt8) : Prop :=
  conn.line.length ≤ bound ∧
    (conn.closed = true ∨
      if conn.complete then closes conn.line = true ∨ Fits (conn.unread ++ future)
      else Fits (conn.line ++ (conn.unread ++ future)))

/-- The bytes of an event. -/
def Event.bytes : Event → List UInt8
  | .fill chunk => chunk
  | _ => []

theorem received_cons (event : Event) (rest : List Event) :
    received (event :: rest) = event.bytes ++ received rest := by
  cases event <;> rfl

/-- Nothing is received behind the end of the stream, or by a connection that is closed. -/
theorem received_of_over {conn final : Connection} {events : List Event}
    (hover : conn.closed = true ∨ conn.ended = true) (hrun : run step conn events = some final) :
    received events = [] := by
  induction events generalizing conn with
  | nil => rfl
  | cons event rest ih =>
      obtain ⟨next, hnext, hrest⟩ := run_cons_eq_some.mp hrun
      rw [received_cons]
      cases event with
      | fill chunk =>
          obtain ⟨hclosed, _, _, ⟨rfl, rfl⟩ | ⟨hended, _, rfl⟩⟩ := fill_cases hnext
          · exact ih (.inr rfl) hrest
          · simp [hclosed, hended] at hover
      | readError =>
          obtain ⟨_, _, rfl⟩ := read_error_cases hnext
          exact ih (.inl rfl) hrest
      | collect =>
          obtain ⟨_, _, _, ⟨_, rfl⟩ | ⟨_, _, _, _, rfl⟩⟩ := collect_cases hnext
          · exact ih (by exact hover) hrest
          · exact ih (by exact hover) hrest
      | handle =>
          obtain ⟨_, _, ⟨_, rfl⟩ | ⟨_, rfl⟩⟩ := handle_cases hnext
          · exact ih (.inl rfl) hrest
          · exact ih (by exact hover) hrest

/-- A step takes what fits to what fits. -/
theorem fits_from_step {conn next : Connection} {event : Event} {future : List UInt8}
    (hconn : WellFormed conn) (h : step conn event = some next)
    (hover : next.closed = true ∨ next.ended = true → future = []) :
    conn.line.length ≤ bound ∧ FitsFrom next future ↔ FitsFrom conn (event.bytes ++ future) := by
  cases event with
  | fill chunk =>
      obtain ⟨hclosed, hcomplete, hunread, ⟨rfl, rfl⟩ | ⟨hended, _, rfl⟩⟩ := fill_cases h
      · have hfuture := hover (.inr rfl)
        subst hfuture
        have hline := fits_of_not_mem (hconn.line hcomplete)
        have hnil : Fits [] := (fits_of_not_mem List.not_mem_nil).mpr (Nat.zero_le _)
        simp [FitsFrom, Event.bytes, hclosed, hcomplete, hunread, hline, hnil]
      · simp [FitsFrom, Event.bytes, hclosed, hcomplete, hunread]
  | readError =>
      obtain ⟨hcomplete, hunread, rfl⟩ := read_error_cases h
      have hfuture := hover (.inl rfl)
      subst hfuture
      have hline := fits_of_not_mem (hconn.line hcomplete)
      simp only [FitsFrom, Event.bytes, hcomplete, hunread, hline, List.append_nil]
      simpa using fun h => .inr h
  | collect =>
      obtain ⟨hclosed, hcomplete, _, ⟨hclean, rfl⟩ | ⟨front, back, hsplit, hfront, rfl⟩⟩ :=
        collect_cases h
      · have hline := hconn.line hcomplete
        have hprefix : Fits (conn.line ++ (conn.unread ++ future)) →
            (conn.line ++ conn.unread).length ≤ bound := by
          rw [← List.append_assoc]
          exact length_le_of_fits (by simp [hline, hclean])
        simpa [FitsFrom, Event.bytes, hclosed, hcomplete] using fun _ => hprefix
      · have hline := hconn.line hcomplete
        have hclean : newline ∉ conn.line ++ front := by simp [hline, hfront]
        have hfirst := fits_line_append hclean (back ++ future)
        simp only [List.append_assoc] at hfirst
        simp [FitsFrom, Event.bytes, hclosed, hcomplete, hsplit, hfirst]
  | handle =>
      obtain ⟨hclosed, hcomplete, ⟨hcloses, rfl⟩ | ⟨hcloses, rfl⟩⟩ := handle_cases h
      · simp [FitsFrom, Event.bytes, hcomplete, hcloses]
      · simp [FitsFrom, Event.bytes, hclosed, hcomplete, hcloses]

/-- From a well-formed state on, the line stays within the bound if and only if what is still to
come fits. -/
theorem throughout_iff_fits_from {conn final : Connection} {events : List Event}
    (hconn : WellFormed conn) (hrun : run step conn events = some final)
    (hread : final.closed = true ∨ final.unread = []) :
    Throughout step (fun passed => passed.line.length ≤ bound) conn events ↔
      FitsFrom conn (received events) := by
  induction events generalizing conn with
  | nil =>
      cases hrun
      rw [throughout_nil]
      refine ⟨fun hline => ⟨hline, ?_⟩, fun h => h.1⟩
      rcases hread with hclosed | hunread
      · exact .inl hclosed
      · refine .inr ?_
        have hnil : Fits [] := (fits_of_not_mem List.not_mem_nil).mpr (Nat.zero_le _)
        split
        · exact .inr (by simpa [hunread, received] using hnil)
        · rename_i hcomplete
          have hclean := hconn.line (by simpa using hcomplete)
          simpa [hunread, received] using (fits_of_not_mem hclean).mpr hline
  | cons event rest ih =>
      obtain ⟨next, hnext, hrest⟩ := run_cons_eq_some.mp hrun
      rw [throughout_cons hnext, received_cons, ih (well_formed_step hconn hnext) hrest]
      exact fits_from_step hconn hnext fun hover => received_of_over hover hrest

/-- For every stream of a client and every way in which it arrives, the buffer of the request line
stays within `MAX_REQUEST_LINE_BYTES` and one read chunk if and only if no line of the stream is
longer than that, up to the first one at which the loop leaves. -/
theorem buffer_bounded_iff {events : List Event} {final : Connection}
    (hrun : run step .new events = some final)
    (hread : final.closed = true ∨ final.unread = []) :
    (∀ passed, passed <+: events → ∀ conn, run step .new passed = some conn →
      conn.line.length ≤ maxRequestLineBytes + readChunkBytes) ↔ Fits (received events) := by
  have h := throughout_iff_fits_from well_formed_new hrun hread
  simpa [FitsFrom, Connection.new, Throughout, bound] using h

/-- A request that arrives in two chunks. -/
theorem two_chunks_bounded :
    (∀ passed, passed <+: [Event.fill [123], .collect, .fill [125, 10], .collect] →
      ∀ conn, run step .new passed = some conn →
        conn.line.length ≤ maxRequestLineBytes + readChunkBytes) ↔ Fits [123, 125, 10] :=
  @buffer_bounded_iff _ { Connection.new with line := [123, 125, 10], complete := true }
    rfl (.inr rfl)

/-- The arrival of chunks that `read_line` takes at once. -/
def arrive (chunks : List (List UInt8)) : List Event :=
  chunks.flatMap fun chunk => [.fill chunk, .collect]

/-- A chunk without the end of a line is appended to the line. -/
theorem run_fill_collect {chunk : List UInt8} (hsome : chunk ≠ [])
    (hlength : chunk.length ≤ readChunkBytes) (hclean : newline ∉ chunk) (line : List UInt8) :
    run step { Connection.new with line } [.fill chunk, .collect] =
      some { Connection.new with line := line ++ chunk } := by
  have hfill : fillStep { Connection.new with line } chunk =
      some { Connection.new with line, unread := chunk } := by
    cases chunk with
    | nil => exact absurd rfl hsome
    | cons byte rest =>
        refine (if_pos ?_).trans (if_pos ⟨?_, hlength⟩)
        · rfl
        · rfl
  have hspan : chunk.span (· ≠ newline) = (chunk, []) := by
    rw [List.span_eq_takeWhile_dropWhile]
    have hall : ∀ byte ∈ chunk, decide (byte ≠ newline) = true := fun byte hbyte =>
      decide_eq_true fun h => hclean (h ▸ hbyte)
    rw [List.takeWhile_eq_self_iff.mpr hall, List.dropWhile_eq_nil_iff.mpr hall]
  have hcollect : collectStep { Connection.new with line, unread := chunk } =
      some { Connection.new with line := line ++ chunk } := by
    rw [collectStep, if_neg (by simpa [Connection.new] using hsome), hspan]
    rfl
  simp [run, step, hfill, hcollect]

/-- Without the end of a line, all that the client sends is in the buffer. -/
theorem run_arrive {chunks : List (List UInt8)}
    (hchunks : ∀ chunk ∈ chunks, chunk ≠ [] ∧ chunk.length ≤ readChunkBytes ∧ newline ∉ chunk)
    (line : List UInt8) :
    run step { Connection.new with line } (arrive chunks) =
      some { Connection.new with line := line ++ chunks.flatten } := by
  induction chunks generalizing line with
  | nil => simp [arrive]
  | cons chunk chunks ih =>
      obtain ⟨hsome, hlength, hclean⟩ := hchunks chunk (by simp)
      have hrest := ih (fun other hother => hchunks other (List.mem_cons_of_mem _ hother))
        (line ++ chunk)
      have harrive : arrive (chunk :: chunks) = [.fill chunk, .collect] ++ arrive chunks := rfl
      rw [harrive, run_append, run_fill_collect hsome hlength hclean, Option.bind_some, hrest,
        List.flatten_cons, List.append_assoc]

/-- A client that sends 514 full chunks without the end of a line has all of them in the
buffer. -/
theorem endless_line_buffered :
    ∃ conn, run step .new (arrive (List.replicate 514 (List.replicate readChunkBytes 120))) =
        some conn ∧
      conn.closed = false ∧ maxRequestLineBytes + readChunkBytes < conn.line.length := by
  refine ⟨_, run_arrive ?_ [], rfl, ?_⟩
  · intro chunk hchunk
    obtain rfl := List.eq_of_mem_replicate hchunk
    refine ⟨List.ne_nil_of_length_pos ?_, List.length_replicate.le, fun hmem => ?_⟩
    · rw [List.length_replicate]
      decide
    · exact absurd (List.eq_of_mem_replicate hmem) (by decide)
  · rw [List.nil_append, List.flatten_replicate_replicate, List.length_replicate]
    decide

end CorvidNano.Host.RequestLoop
