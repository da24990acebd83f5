import CorvidNano.A2a.Parsing
import CorvidNano.A2a.Server

/-!
# Requests that arrive in parts

The connection task of `serve_a2a` reads from its stream once, with a buffer for 64 KiB, and takes
what this read returns for the request.

`processes_complete_iff` says which first reads are enough for a request: those that bring the
head and a part of the body with the text of all of it, and for a request without a body those
that leave out only white space at the end of the head.
-/

namespace CorvidNano.A2a

open Host.Signature (isWhiteSpace trim lines trim_append_of_white trim_append_eq_iff)
open Lifecycle

/-- The bytes of an ASCII text. -/
def asciiBytes (text : List Char) : List UInt8 := text.map fun c => UInt8.ofNat c.toNat

/-- The lines of a head and the empty line behind them. -/
def headText (requestLine : RequestLine) (headerLines : List HeaderLine) : List Char :=
  requestLine.text ++ ((headerLines.flatMap fun line => line.text) ++ LineEnd.crlf.chars)

/-- A well-formed request: a head of ASCII characters whose lines end in `\r\n`, and a body with
as many bytes as a `Content-Length` header says, in the limit of 64 KiB for both. -/
structure WireRequest where
  requestLine : RequestLine
  headerLines : List HeaderLine
  body : List UInt8
  ends : requestLine.ending = .crlf ∧ ∀ line ∈ headerLines, line.ending = .crlf
  ascii : ∀ c ∈ headText requestLine headerLines, c.toNat < 128
  contentLength : ∃ line ∈ headerLines, Text.lower line.name = "content-length".toList ∧
    trim line.value = body.length.repr.toList
  limit : (headText requestLine headerLines).length + body.length ≤ 65536

/-- The head of a request. -/
def WireRequest.head (request : WireRequest) : List Char :=
  headText request.requestLine request.headerLines

/-- The bytes of a request. -/
def WireRequest.bytes (request : WireRequest) : List UInt8 :=
  asciiBytes request.head ++ request.body

/-- A request with the given text for its body. -/
def WireRequest.withBody (request : WireRequest) (body : List Char) : RequestText where
  requestLine := request.requestLine
  headerLines := request.headerLines
  blank := .crlf
  body := body

/-- What the complete request says. -/
def WireRequest.complete (request : WireRequest) : HttpRequest :=
  (request.withBody (Utf8.fromUtf8Lossy request.body)).parsed

/-- What one read after the other returns of some bytes. -/
structure Reads (bytes : List UInt8) where
  first : List UInt8
  later : List (List UInt8)
  some : first ≠ [] ∧ ∀ part ∈ later, part ≠ []
  whole : first ++ later.flatten = bytes

/-- The connection task on what its reads would return. It reads once. -/
def serveReads (serde : Serde) (config : A2aServerConfig) (reads : List (List UInt8)) (now : Nat)
    (state : State) : Option (Option String × State) :=
  serveConnection serde config (.ok (reads.headD [])) now state

/-- The connection task processes the complete request, and does what it does to the request in
one read. -/
structure ProcessesComplete (request : WireRequest) (reads : Reads request.bytes) : Prop where
  processed : readRequest reads.first = Option.some request.complete
  outcome : ∀ serde config now state,
    serveReads serde config (reads.first :: reads.later) now state =
      serveReads serde config [request.bytes] now state

/-- The first read brings the head, and as much of the body as has the text of all of it; or there
is no body, and the first read leaves out only white space at the end of the head. -/
def FirstReadSuffices (request : WireRequest) (first : List UInt8) : Prop :=
  (∃ part, first = asciiBytes request.head ++ part ∧
      Utf8.fromUtf8Lossy part = Utf8.fromUtf8Lossy request.body) ∨
    (request.body = [] ∧ ∃ front rest, first = asciiBytes front ∧ request.head = front ++ rest ∧
      rest.all isWhiteSpace = true)

/-! ## Decoding -/

/-- A byte that ends a character yields one. -/
theorem feed_ne_nil {decoder : Utf8.Decoder} {byte : Nat}
    (h : (Utf8.feed decoder byte).2 = .start) : (Utf8.feed decoder byte).1 ≠ [] := by
  have hbegin : (Utf8.begin byte).2 = .start → (Utf8.begin byte).1 ≠ [] := by
    unfold Utf8.begin
    split
    · exact fun _ => List.cons_ne_nil _ _
    · repeat' split
      all_goals simp
  cases decoder with
  | start => exact hbegin h
  | pending value needed low high =>
      rw [Utf8.feed] at h ⊢
      split at h
      · rename_i hrange
        rw [if_pos hrange]
        split at h
        · rename_i hone
          simp only [hone, if_true]
          exact List.cons_ne_nil _ _
        · cases h
      · rename_i hrange
        rw [if_neg hrange]
        exact List.cons_ne_nil _ _

/-- Bytes have a text. -/
theorem from_utf8_lossy_eq_nil_iff (bytes : List UInt8) :
    Utf8.fromUtf8Lossy bytes = [] ↔ bytes = [] := by
  have hdecode : ∀ (bytes : List UInt8) (decoder : Utf8.Decoder),
      Utf8.decode decoder bytes = [] → decoder = .start ∧ bytes = [] := by
    intro bytes
    induction bytes with
    | nil =>
        intro decoder h
        cases decoder with
        | start => exact ⟨rfl, rfl⟩
        | pending value needed low high => cases h
    | cons byte bytes ih =>
        intro decoder h
        have happend : (Utf8.feed decoder byte.toNat).1 ++
            Utf8.decode (Utf8.feed decoder byte.toNat).2 bytes = [] := by
          cases decoder with
          | start => exact h
          | pending value needed low high => exact h
        obtain ⟨hchars, hrest⟩ := List.append_eq_nil_iff.1 happend
        exact absurd hchars (feed_ne_nil (ih _ hrest).1)
  refine ⟨fun h => (hdecode bytes .start h).2, ?_⟩
  rintro rfl
  rfl

theorem from_utf8_lossy_ascii {text : List Char} (h : ∀ c ∈ text, c.toNat < 128)
    (bytes : List UInt8) :
    Utf8.fromUtf8Lossy (asciiBytes text ++ bytes) = text ++ Utf8.fromUtf8Lossy bytes := by
  induction text with
  | nil => rfl
  | cons c text ih =>
      have hc := h c List.mem_cons_self
      have hrest := ih fun a ha => h a (List.mem_cons_of_mem _ ha)
      have hbyte : (UInt8.ofNat c.toNat).toNat = c.toNat := by
        rw [UInt8.toNat_ofNat']
        omega
      have hbegin : Utf8.begin (UInt8.ofNat c.toNat).toNat = ([c], .start) := by
        rw [hbyte, Utf8.begin, if_pos hc, Char.ofNat_toNat]
      show (Utf8.begin (UInt8.ofNat c.toNat).toNat).1 ++
        Utf8.decode (Utf8.begin (UInt8.ofNat c.toNat).toNat).2 (asciiBytes text ++ bytes) = _
      rw [hbegin]
      exact congrArg (c :: ·) hrest

/-! ## The complete request -/

theorem with_body_text (request : WireRequest) (body : List Char) :
    (request.withBody body).text = request.head ++ body := by
  rw [RequestText.text, RequestText.head, WireRequest.head, headText, List.flatMap_cons,
    List.flatMap_map]
  simp [WireRequest.withBody]

theorem with_body_boundary_found (request : WireRequest) (body : List Char) :
    (request.withBody body).BoundaryFound := by
  have hlast : (request.withBody body).lastEnd = .crlf := by
    have hall : ∀ line ∈ (request.withBody body).head, line.ending = .crlf := by
      intro line hline
      cases List.mem_cons.1 hline with
      | inl h => exact h ▸ request.ends.1
      | inr h =>
          obtain ⟨header, hheader, rfl⟩ := List.mem_map.1 h
          exact request.ends.2 header hheader
    exact hall _ (List.getLast_mem _)
  rw [RequestText.BoundaryFound, hlast]
  trivial

/-- What a read brings that has the whole head. -/
theorem read_request_of_head (request : WireRequest) {part : List UInt8}
    (h : part.length ≤ request.body.length) :
    readRequest (asciiBytes request.head ++ part) =
      some (request.withBody (Utf8.fromUtf8Lossy part)).parsed := by
  have hlength : (asciiBytes request.head ++ part).length ≤ 65536 := by
    have hlimit := request.limit
    rw [List.length_append, asciiBytes, List.length_map, WireRequest.head]
    omega
  have hascii : ∀ c ∈ request.head, c.toNat < 128 := request.ascii
  rw [readRequest, List.take_of_length_le hlength, from_utf8_lossy_ascii hascii,
    ← with_body_text]
  exact parse_of_boundary_found (with_body_boundary_found request _)

/-! ## Parts of the head -/

theorem lines_of_not_mem {text : List Char} (h : '\n' ∉ text) :
    lines text = if text = [] then [] else [text] := by
  unfold lines
  rw [List.splitOn_eq_singleton h]
  cases text with
  | nil => rfl
  | cons c text => rfl

/-- A line is not complete without the last character of its end. -/
theorem not_mem_of_part {line : HeadLine} {front rest : List Char}
    (h : line.text = front ++ rest) (hrest : rest ≠ []) : '\n' ∉ front := by
  obtain ⟨chars, ending, oneLine, wholeEnd⟩ := line
  obtain ⟨more, last, rfl⟩ := List.eq_nil_or_concat' rest |>.resolve_left hrest
  rw [← List.append_assoc] at h
  intro hmem
  cases ending with
  | lf =>
      have hchars : chars = front ++ more := (List.append_inj' h rfl).1
      exact oneLine (hchars ▸ List.mem_append_left _ hmem)
  | crlf =>
      have hsplit : (chars ++ ['\r']) ++ ['\n'] = front ++ more ++ [last] := by
        rw [← h]
        simp [HeadLine.text, LineEnd.chars]
      have hchars := (List.append_inj' hsplit rfl).1
      have hin : '\n' ∈ chars ++ ['\r'] := hchars ▸ List.mem_append_left _ hmem
      simp [oneLine] at hin

/-- A line without a colon is no header. -/
theorem parse_headers_of_part {text : List Char} (hline : '\n' ∉ text) (hcolon : ':' ∉ text) :
    parseHeaders (lines text) = ([], false) := by
  rw [lines_of_not_mem hline]
  split
  · rfl
  · rename_i hne
    have hdrop : text.dropWhile (· != ':') = [] :=
      List.dropWhile_eq_nil_iff.2 fun c hc => bne_iff_ne.2 fun heq => hcolon (heq ▸ hc)
    rw [parseHeaders, if_neg hne, splitOnce, hdrop]
    rfl

/-- A colon is more than white space. -/
theorem not_white_of_colon {text : List Char} (h : ':' ∈ text) :
    ¬text.all isWhiteSpace = true := fun hall =>
  absurd (List.all_eq_true.1 hall ':' h) (by decide)

theorem colon_mem (line : HeaderLine) : ':' ∈ line.text := by
  rw [HeadLine.text, line.parts]
  simp

/-- From a part of a header line nothing is read, or the header if only white space is left out. -/
theorem parse_headers_of_line_part {line : HeaderLine} (hend : line.ending = .crlf)
    {front part : List Char} (h : line.text = front ++ part) (hne : part ≠ []) :
    parseHeaders (lines front) = ([], false) ∧ ':' ∈ part ∨
      ∃ header, parseHeaders (lines front) = ([header], false) ∧
        (header = line.header ↔ part.all isWhiteSpace = true) := by
  have hline := not_mem_of_part h hne
  have hparts : line.text = line.name ++ ':' :: (line.value ++ ['\r', '\n']) := by
    rw [HeadLine.text, hend, line.parts, List.append_assoc]
    rfl
  rw [h] at hparts
  rcases List.append_eq_append_iff.1 hparts with ⟨more, hname, rfl⟩ | ⟨value, rfl, hvalue⟩
  · left
    have hcolon : ':' ∉ front := fun hmem => line.nameEnds (hname ▸ List.mem_append_left _ hmem)
    exact ⟨parse_headers_of_part hline hcolon, List.mem_append_right _ List.mem_cons_self⟩
  · cases value with
    | nil =>
        left
        rw [List.append_nil] at hline ⊢
        refine ⟨parse_headers_of_part hline line.nameEnds, ?_⟩
        rw [List.nil_append] at hvalue
        exact hvalue ▸ List.mem_cons_self
    | cons c value =>
        right
        obtain ⟨rfl, htail⟩ := List.cons.inj hvalue
        have hrest : line.value ++ ['\r', '\n'] = value ++ part := htail
        refine ⟨(String.ofList (trim line.name), String.ofList (trim value)), ?_, ?_⟩
        · have hfront : line.name ++ ':' :: value ≠ [] :=
            List.append_ne_nil_of_right_ne_nil _ (List.cons_ne_nil _ _)
          rw [lines_of_not_mem hline, if_neg hfront, parseHeaders, if_neg hfront,
            split_once_append line.nameEnds]
          rfl
        · have htrim : trim line.value = trim (value ++ part) := by
            rw [← hrest]
            exact (trim_append_of_white (by decide)).symm
          rw [← @trim_append_eq_iff value part, ← htrim, HeaderLine.header, Prod.mk.injEq]
          exact ⟨fun heq => String.ofList_injective heq.2, fun heq => ⟨rfl, congrArg _ heq⟩⟩

/-- A text behind another one that is a beginning, or not all of it. -/
theorem append_cases {α : Type} {first second front rest : List α}
    (h : first ++ second = front ++ rest) :
    (∃ more, front = first ++ more ∧ second = more ++ rest) ∨
      ∃ part, part ≠ [] ∧ first = front ++ part ∧ rest = part ++ second := by
  rcases List.append_eq_append_iff.1 h with hlong | ⟨part, hfirst, hrest⟩
  · exact Or.inl hlong
  · cases part with
    | nil => exact Or.inl ⟨[], by simpa using hfirst.symm, by simpa using hrest.symm⟩
    | cons a part => exact Or.inr ⟨a :: part, List.cons_ne_nil _ _, hfirst, hrest⟩

/-- From a part of the header lines the headers are read if only white space is left out. -/
theorem parse_headers_front {headerLines : List HeaderLine}
    (hends : ∀ line ∈ headerLines, line.ending = .crlf) {front rest : List Char}
    (h : (headerLines.flatMap fun line => line.text) ++ LineEnd.crlf.chars = front ++ rest)
    (hrest : rest ≠ []) :
    (parseHeaders (lines front)).2 = false ∧
      ((parseHeaders (lines front)).1 = headerLines.map HeaderLine.header ↔
        rest.all isWhiteSpace = true) := by
  induction headerLines generalizing front with
  | nil =>
      have hends : LineEnd.crlf.chars = front ++ rest := h
      have hmem : ∀ c ∈ front ++ rest, c ∈ LineEnd.crlf.chars := fun c hc => hends ▸ hc
      have hline : '\n' ∉ front :=
        @not_mem_of_part ⟨[], .crlf, by simp, by simp⟩ front rest h hrest
      have hcolon : ':' ∉ front := fun hc =>
        absurd (hmem ':' (List.mem_append_left _ hc)) (by decide)
      rw [parse_headers_of_part hline hcolon]
      refine ⟨rfl, iff_of_true rfl (List.all_eq_true.2 fun c hc => ?_)⟩
      have hall : LineEnd.crlf.chars.all isWhiteSpace = true := by decide
      exact List.all_eq_true.1 hall c (hmem c (List.mem_append_right _ hc))
  | cons line headerLines ih =>
      rw [List.flatMap_cons, List.append_assoc] at h
      have hmore := fun other hother => hends other (List.mem_cons_of_mem _ hother)
      rcases append_cases h with ⟨more, rfl, htext⟩ | ⟨part, hne, hpart, rfl⟩
      · rw [lines_head_line, parse_headers_cons]
        obtain ⟨hend, hiff⟩ := ih hmore htext
        refine ⟨hend, ?_⟩
        rw [← hiff, List.map_cons]
        exact ⟨fun heq => (List.cons.inj heq).2, fun heq => congrArg _ heq⟩
      · rw [List.map_cons, List.all_append, Bool.and_eq_true]
        rcases parse_headers_of_line_part (hends line List.mem_cons_self) hpart hne with
          ⟨hnone, hcolon⟩ | ⟨header, hone, hiff⟩
        · rw [hnone]
          exact ⟨rfl, iff_of_false (fun heq => by cases heq) fun hall =>
            not_white_of_colon hcolon hall.1⟩
        · rw [hone, ← hiff]
          refine ⟨rfl, ?_⟩
          cases headerLines with
          | nil =>
              have hall : LineEnd.crlf.chars.all isWhiteSpace = true := by decide
              simp [hall]
          | cons other headerLines =>
              refine iff_of_false (fun heq => by simp at heq) fun hall => ?_
              refine not_white_of_colon ?_ hall.2
              simp [colon_mem other]

/-- From a part of the head the complete request is read if it has no body and only white space is
left out. -/
theorem parse_front_iff (request : WireRequest) {front rest : List Char}
    (h : request.head = front ++ rest) (hrest : rest ≠ []) :
    parseHttpRequest front = some request.complete ↔
      request.body = [] ∧ rest.all isWhiteSpace = true := by
  obtain ⟨header, hheader, -⟩ := request.contentLength
  rcases append_cases h with ⟨more, rfl, htext⟩ | ⟨part, hne, hpart, rfl⟩
  · obtain ⟨words, hwords⟩ := split_request_line request.requestLine
    obtain ⟨hend, hiff⟩ := parse_headers_front request.ends.2 htext hrest
    have hparse : parseHttpRequest (request.requestLine.text ++ more) =
        some { request.complete with
          headers := (parseHeaders (lines more)).1
          body := "" } := by
      rw [parseHttpRequest, lines_head_line]
      simp only [hwords, hend]
      rfl
    rw [hparse, ← hiff, ← from_utf8_lossy_eq_nil_iff, Option.some.injEq]
    constructor
    · intro heq
      have hbody : "" = String.ofList (Utf8.fromUtf8Lossy request.body) :=
        congrArg HttpRequest.body heq
      have hheaders : (parseHeaders (lines more)).1 =
          request.headerLines.map HeaderLine.header := congrArg HttpRequest.headers heq
      refine ⟨?_, hheaders⟩
      rw [← String.toList_ofList (l := Utf8.fromUtf8Lossy request.body), ← hbody]
      rfl
    · rintro ⟨hbody, hheaders⟩
      rw [hheaders, WireRequest.complete, hbody]
      rfl
  · -- the end of the first line is missing, and with it all headers
    have hline := not_mem_of_part hpart hne
    refine iff_of_false (fun heq => ?_) fun hand => ?_
    · rw [parseHttpRequest, lines_of_not_mem hline] at heq
      split at heq
      · rename_i hnil
        split at hnil
        · cases heq
        · cases hnil
      · rename_i hcons
        split at hcons
        · cases hcons
        · obtain ⟨-, rfl⟩ := List.cons.inj hcons
          split at heq
          · have hheaders : [] = request.headerLines.map HeaderLine.header :=
              congrArg HttpRequest.headers (Option.some.inj heq)
            rw [List.map_eq_nil_iff.1 hheaders.symm] at hheader
            cases hheader
          · cases heq
    · refine not_white_of_colon (List.mem_append_right _ (List.mem_append_left _ ?_)) hand.2
      exact List.mem_flatMap.2 ⟨header, hheader, colon_mem header⟩

/-! ## The first read -/

/-- What the connection task does depends on the request that it reads. -/
theorem serve_connection_congr {first second : List UInt8} (hfirst : first ≠ [])
    (hsecond : second ≠ []) (h : readRequest first = readRequest second) (serde : Serde)
    (config : A2aServerConfig) (now : Nat) (state : State) :
    serveConnection serde config (.ok first) now state =
      serveConnection serde config (.ok second) now state := by
  cases first with
  | nil => exact absurd rfl hfirst
  | cons a first =>
      cases second with
      | nil => exact absurd rfl hsecond
      | cons b second => simp only [serveConnection, h]

/-- The complete request is read if the first read suffices. -/
theorem read_complete_iff (request : WireRequest) (reads : Reads request.bytes) :
    readRequest reads.first = some request.complete ↔ FirstReadSuffices request reads.first := by
  obtain ⟨first, later, hsome, hwhole⟩ := reads
  show readRequest first = some request.complete ↔ FirstReadSuffices request first
  have hsplit : asciiBytes request.head ++ request.body = first ++ later.flatten := hwhole.symm
  rcases append_cases hsplit with ⟨part, rfl, hbody⟩ | ⟨missing, hne, hhead, -⟩
  · have hlength : part.length ≤ request.body.length := by
      rw [hbody, List.length_append]
      omega
    rw [read_request_of_head request hlength, Option.some.injEq]
    constructor
    · intro h
      exact Or.inl ⟨part, rfl, String.ofList_injective (congrArg HttpRequest.body h)⟩
    · rintro (⟨other, hother, htext⟩ | ⟨hnil, -⟩)
      · rw [List.append_cancel_left hother, htext]
        rfl
      · rw [hnil] at hbody
        rw [(List.append_eq_nil_iff.1 hbody.symm).1, WireRequest.complete, hnil]
  · obtain ⟨front, rest, htext, rfl, rfl⟩ := List.map_eq_append_iff.1 hhead
    have hrest : rest ≠ [] := fun hnil => hne (by rw [hnil]; rfl)
    have hfront : ∀ c ∈ front, c.toNat < 128 := fun c hc =>
      request.ascii c (htext ▸ List.mem_append_left _ hc : c ∈ request.head)
    have hread : readRequest (asciiBytes front) = parseHttpRequest front := by
      have hlimit := request.limit
      have hhead : (headText request.requestLine request.headerLines).length =
          front.length + rest.length := by
        rw [← List.length_append, ← htext]
        rfl
      have hdecode : Utf8.fromUtf8Lossy (asciiBytes front) = front := by
        have happend := from_utf8_lossy_ascii hfront []
        rw [List.append_nil] at happend
        exact happend.trans (List.append_nil front)
      have hshort : (asciiBytes front).length ≤ 65536 := by
        rw [asciiBytes, List.length_map]
        omega
      rw [readRequest, List.take_of_length_le hshort, hdecode]
    show readRequest (asciiBytes front) = _ ↔ FirstReadSuffices request (asciiBytes front)
    rw [hread, parse_front_iff request htext hrest]
    constructor
    · rintro ⟨hbody, hall⟩
      exact Or.inr ⟨hbody, front, rest, rfl, htext, hall⟩
    · rintro (⟨part, hpart, -⟩ | ⟨hbody, other, more, hother, hhead, hall⟩)
      · -- a part of the head is shorter than the head
        have hlength := congrArg List.length hpart
        have hpos := List.length_pos_iff.2 hrest
        rw [htext, List.length_append, asciiBytes, asciiBytes, List.length_map, List.length_map,
          List.length_append] at hlength
        omega
      · have hlength : front.length = other.length := by
          have hmap := congrArg List.length hother
          rwa [asciiBytes, asciiBytes, List.length_map, List.length_map] at hmap
        obtain ⟨-, rfl⟩ := List.append_inj (htext.symm.trans hhead) hlength
        exact ⟨hbody, hall⟩

/-- The connection task processes the complete request exactly if the first read suffices. -/
theorem processes_complete_iff (request : WireRequest) (reads : Reads request.bytes) :
    ProcessesComplete request reads ↔ FirstReadSuffices request reads.first := by
  rw [← read_complete_iff]
  refine ⟨fun h => h.processed, fun h => ⟨h, fun serde config now state => ?_⟩⟩
  have hbytes : request.bytes ≠ [] := by
    rw [← reads.whole]
    exact List.append_ne_nil_of_left_ne_nil reads.some.1 _
  have hwhole : readRequest request.bytes = some request.complete :=
    read_request_of_head request (Nat.le_refl _)
  exact serve_connection_congr reads.some.1 hbytes (h.trans hwhole.symm) serde config now state

/-- The first line of a request that creates a task. -/
def taskLine : RequestLine where
  chars := "POST /a2a/tasks HTTP/1.1".toList
  ending := .crlf
  oneLine := by decide
  wholeEnd := fun _ => by decide
  method := "POST".toList
  target := "/a2a/tasks".toList
  version := " HTTP/1.1".toList
  methodWord := post_word
  targetWord := ⟨by decide, no_white_space (by decide)⟩
  apart := version_apart
  parts := rfl

/-- The header with the length of its body. -/
def lengthLine : HeaderLine where
  chars := "Content-Length: 16".toList
  ending := .crlf
  oneLine := by decide
  wholeEnd := fun _ => by decide
  name := "Content-Length".toList
  value := " 16".toList
  nameEnds := by decide
  parts := rfl

/-- A request that creates a task. -/
def taskRequest : WireRequest where
  requestLine := taskLine
  headerLines := [lengthLine]
  body := asciiBytes "\x7b\"message\":\"hi\"\x7d".toList
  ends := ⟨rfl, fun line hline => by
    rw [List.mem_singleton.1 hline]
    rfl⟩
  ascii := fun c hc => by
    have hall : ((headText taskLine [lengthLine]).all fun c => c.toNat < 128) = true := by decide
    simpa using List.all_eq_true.1 hall c hc
  contentLength := ⟨lengthLine, List.mem_cons_self, by decide, by decide⟩
  limit := by decide

/-- The head in one read, and then the body. -/
def headAndBody : Reads taskRequest.bytes where
  first := asciiBytes taskRequest.head
  later := [taskRequest.body]
  some := by
    refine ⟨List.isEmpty_eq_false_iff.1 rfl, fun part hpart => ?_⟩
    rw [List.mem_singleton.1 hpart]
    exact List.isEmpty_eq_false_iff.1 rfl
  whole := by
    rw [List.flatten_singleton]
    rfl

/-- Reading the body of that request, and that of none. -/
def taskSerde : Serde where
  createTaskRequest body :=
    if body = "\x7b\"message\":\"hi\"\x7d" then
      .ok { message := "hi", timeoutMs := 300000, sender := none }
    else .error "EOF while parsing a value at line 1 column 0"
  toString _ := "\x7b\x7d"

/-- The task is created from one read, and from two it is not. -/
theorem body_in_second_read :
    ((serveReads taskSerde { psk := none, hubUrl := none, cardJson := "\x7b\x7d" }
        [taskRequest.bytes] 0 (.new 1000)).map fun outcome => outcome.2.inserted) =
        some ["task-0-0"] ∧
      ((serveReads taskSerde { psk := none, hubUrl := none, cardJson := "\x7b\x7d" }
        (headAndBody.first :: headAndBody.later) 0 (.new 1000)).map
          fun outcome => outcome.2.inserted) = some [] ∧
      ¬ProcessesComplete taskRequest headAndBody := by
  have hone : ((serveReads taskSerde { psk := none, hubUrl := none, cardJson := "\x7b\x7d" }
      [taskRequest.bytes] 0 (.new 1000)).map fun outcome => outcome.2.inserted) =
      some ["task-0-0"] := by decide
  have htwo : ((serveReads taskSerde { psk := none, hubUrl := none, cardJson := "\x7b\x7d" }
      (headAndBody.first :: headAndBody.later) 0 (.new 1000)).map
        fun outcome => outcome.2.inserted) = some [] := by decide
  refine ⟨hone, htwo, fun h => ?_⟩
  rw [h.outcome, hone] at htwo
  exact absurd htwo (by decide)

end CorvidNano.A2a
