import CorvidNano.A2a.Request

/-!
# The head and the body of a request

A request text is a head of lines, an empty line, and a body. `parse_http_request` reads the
headers line by line up to the empty line, but looks for the body behind the first `\r\n\r\n`
anywhere in the text, and only if there is none behind the first `\n\n`.

`parses_exactly_iff` says for which ends of lines and which bodies both find the same empty line.
-/

namespace CorvidNano.A2a

open Host.Signature (isWhiteSpace trim lines)

/-- The ends that a line can have. -/
inductive LineEnd where
  | crlf
  | lf
  deriving DecidableEq

/-- The characters that end a line. -/
def LineEnd.chars : LineEnd → List Char
  | .crlf => ['\r', '\n']
  | .lf => ['\n']

/-- A line with its end. What stands in front of a line feed does not end in the carriage return
that would belong to the end. -/
structure HeadLine where
  chars : List Char
  ending : LineEnd
  oneLine : '\n' ∉ chars
  wholeEnd : ending = .lf → chars.getLast? ≠ some '\r'

/-- The characters of a line and its end. -/
def HeadLine.text (line : HeadLine) : List Char := line.chars ++ line.ending.chars

/-- The first line of a request: a method, a target, and what follows them. -/
structure RequestLine extends HeadLine where
  method : List Char
  target : List Char
  version : List Char
  methodWord : method ≠ [] ∧ ∀ c ∈ method, isWhiteSpace c = false
  targetWord : target ≠ [] ∧ ∀ c ∈ target, isWhiteSpace c = false
  apart : ∀ c ∈ version.head?, isWhiteSpace c = true
  parts : chars = method ++ ' ' :: (target ++ version)

/-- A header with its name and its value around the first colon. -/
structure HeaderLine extends HeadLine where
  name : List Char
  value : List Char
  nameEnds : ':' ∉ name
  parts : chars = name ++ ':' :: value

/-- A request: the lines of the head, the end of the empty line behind them, and the body. -/
structure RequestText where
  requestLine : RequestLine
  headerLines : List HeaderLine
  blank : LineEnd
  body : List Char

/-- The lines in front of the empty line. -/
def RequestText.head (request : RequestText) : List HeadLine :=
  request.requestLine.toHeadLine :: request.headerLines.map HeaderLine.toHeadLine

/-- The text of a request. -/
def RequestText.text (request : RequestText) : List Char :=
  request.head.flatMap HeadLine.text ++ (request.blank.chars ++ request.body)

/-- The end of the last line in front of the empty line. -/
def RequestText.lastEnd (request : RequestText) : LineEnd :=
  (request.head.getLast (List.cons_ne_nil _ _)).ending

/-- A header with its name and value trimmed. -/
def HeaderLine.header (line : HeaderLine) : String × String :=
  (String.ofList (trim line.name), String.ofList (trim line.value))

/-- What a request says. -/
def RequestText.parsed (request : RequestText) : HttpRequest where
  method := String.ofList request.requestLine.method
  path := String.ofList (Text.before '?' request.requestLine.target)
  headers := request.headerLines.map HeaderLine.header
  body := String.ofList request.body

/-- The two ends of line that the body is looked for behind. -/
def crlfTwice : List Char := ['\r', '\n', '\r', '\n']

/-- Two line feeds. -/
def lfTwice : List Char := ['\n', '\n']

/-- The search for the body finds the empty line: it and the line before it end in `\r\n`, or it
is a line feed and the body does not contain `\r\n\r\n`, or there is no body. -/
def RequestText.BoundaryFound (request : RequestText) : Prop :=
  match request.lastEnd, request.blank with
  | .crlf, .crlf => True
  | _, .lf => ¬crlfTwice <:+: request.body
  | .lf, .crlf => request.body = []

/-! ## Lines -/

/-- The first line of a text. -/
theorem lines_cons {line : List Char} (h : '\n' ∉ line) (rest : List Char) :
    lines (line ++ '\n' :: rest) =
      (if line.getLast? = some '\r' then line.dropLast else line) :: lines rest := by
  unfold lines
  rw [List.splitOn_append_cons_self_of_not_mem h]
  obtain ⟨first, others, hsplit⟩ := List.exists_cons_of_ne_nil (List.splitOn_ne_nil '\n' rest)
  simp only [hsplit, List.dropLast_cons_cons, List.getLast?_cons_cons, List.map_cons]
  cases hlast : (first :: others).getLast? with
  | none => rfl
  | some last =>
      cases last with
      | nil => rfl
      | cons c last => rfl

theorem lines_head_line (line : HeadLine) (rest : List Char) :
    lines (line.text ++ rest) = line.chars :: lines rest := by
  obtain ⟨chars, ending, oneLine, wholeEnd⟩ := line
  cases ending with
  | lf =>
      have hline := lines_cons oneLine rest
      rw [if_neg (wholeEnd rfl)] at hline
      rw [← hline]
      simp [HeadLine.text, LineEnd.chars]
  | crlf =>
      have hmem : '\n' ∉ chars ++ ['\r'] := by simp [oneLine]
      have hline := lines_cons hmem rest
      rw [if_pos (by simp), List.dropLast_concat] at hline
      rw [← hline]
      simp [HeadLine.text, LineEnd.chars]

theorem lines_blank (blank : LineEnd) (rest : List Char) :
    lines (blank.chars ++ rest) = [] :: lines rest :=
  lines_head_line ⟨[], blank, by simp, by simp⟩ rest

theorem lines_head (head : List HeadLine) (rest : List Char) :
    lines (head.flatMap HeadLine.text ++ rest) = head.map HeadLine.chars ++ lines rest := by
  induction head with
  | nil => rfl
  | cons line head ih =>
      rw [List.flatMap_cons, List.append_assoc, lines_head_line, ih]
      rfl

theorem split_once_append {stop : Char} {front : List Char} (h : stop ∉ front)
    (rest : List Char) : splitOnce stop (front ++ stop :: rest) = some (front, rest) := by
  have hdrop : (front ++ stop :: rest).dropWhile (· != stop) = stop :: rest := by
    rw [List.dropWhile_append_of_pos]
    · exact List.dropWhile_cons_of_neg (by simp)
    · intro c hc
      rw [bne_iff_ne]
      rintro rfl
      exact h hc
  rw [splitOnce, hdrop, Text.before_append_cons h]

/-- A line with a colon is a header. -/
theorem parse_headers_cons (line : HeaderLine) (rest : List (List Char)) :
    parseHeaders (line.chars :: rest) =
      (line.header :: (parseHeaders rest).1, (parseHeaders rest).2) := by
  have hne : line.chars ≠ [] := by
    rw [line.parts]
    exact List.append_ne_nil_of_right_ne_nil _ (List.cons_ne_nil _ _)
  rw [parseHeaders, if_neg hne, line.parts, split_once_append line.nameEnds]
  rfl

/-- The headers up to the empty line. -/
theorem parse_headers_lines (headerLines : List HeaderLine) (rest : List (List Char)) :
    parseHeaders ((headerLines.map fun line => line.chars) ++ [] :: rest) =
      (headerLines.map HeaderLine.header, true) := by
  induction headerLines with
  | nil => rfl
  | cons line headerLines ih =>
      rw [List.map_cons, List.cons_append, parse_headers_cons, ih]
      rfl

/-- The words of the first line. -/
theorem split_request_line (line : RequestLine) :
    ∃ more, splitWhitespace line.chars = line.method :: line.target :: more := by
  obtain ⟨hmethod, hmethodAll⟩ := line.methodWord
  obtain ⟨htarget, htargetAll⟩ := line.targetWord
  rw [line.parts, splitWhitespace,
    List.splitOnP_append_cons_of_forall_mem hmethodAll ' ' (by decide),
    List.filter_cons_of_pos (by simpa using hmethod)]
  cases hversion : line.version with
  | nil =>
      rw [List.append_nil, List.splitOnP_eq_singleton htargetAll,
        List.filter_cons_of_pos (by simpa using htarget)]
      exact ⟨_, rfl⟩
  | cons c version =>
      have hc : isWhiteSpace c = true := line.apart c (by rw [hversion]; rfl)
      rw [List.splitOnP_append_cons_of_forall_mem htargetAll c hc,
        List.filter_cons_of_pos (by simpa using htarget)]
      exact ⟨_, rfl⟩

/-! ## The search for the body -/

/-- What follows the first occurrence is shorter than the text. -/
theorem after_first_length {pattern text rest : List Char}
    (h : afterFirst pattern text = some rest) : rest.length + pattern.length ≤ text.length := by
  induction text with
  | nil =>
      rw [afterFirst] at h
      split at h
      · rename_i hpattern
        rw [hpattern, ← Option.some.inj h]
        exact Nat.le_refl _
      · cases h
  | cons c text ih =>
      rw [afterFirst] at h
      split at h
      · rename_i hprefix
        have hlength := (List.isPrefixOf_iff_prefix.1 hprefix).length_le
        rw [← Option.some.inj h, List.length_drop]
        omega
      · have hrest := ih h
        rw [List.length_cons]
        omega

/-- A text that does not contain the pattern is searched in vain. -/
theorem after_first_eq_none_iff {pattern text : List Char} (hne : pattern ≠ []) :
    afterFirst pattern text = none ↔ ¬pattern <:+: text := by
  induction text with
  | nil => simp [afterFirst, hne]
  | cons c text ih =>
      rw [afterFirst, List.infix_cons_iff]
      split
      · rename_i hprefix
        have hfound := List.isPrefixOf_iff_prefix.1 hprefix
        simp [hfound]
      · rename_i hprefix
        rw [ih]
        have hnot : ¬pattern <+: c :: text := fun h => hprefix (List.isPrefixOf_iff_prefix.2 h)
        simp [hnot]

theorem after_first_cons {pattern text : List Char} {c : Char}
    (h : ¬pattern <+: c :: text) : afterFirst pattern (c :: text) = afterFirst pattern text := by
  rw [afterFirst, if_neg fun hprefix => h (List.isPrefixOf_iff_prefix.1 hprefix)]

/-- The pattern `\r\n\r\n` begins at the end of a line or not at all. -/
theorem not_prefix_crlf {c d : Char} {text : List Char} (h : c = '\r' → d ≠ '\n') :
    ¬crlfTwice <+: c :: d :: text := by
  intro hprefix
  obtain ⟨hc, hrest⟩ := List.cons_prefix_cons.1 hprefix
  exact h hc.symm (List.cons_prefix_cons.1 hrest).1.symm

/-- Behind a line that ends in `\r\n` there may be an empty one. -/
theorem after_crlf_line {line : List Char} (h : '\n' ∉ line) (rest : List Char) :
    afterFirst crlfTwice (line ++ '\r' :: '\n' :: rest) =
      if ['\r', '\n'] <+: rest then some (rest.drop 2) else afterFirst crlfTwice rest := by
  induction line with
  | nil =>
      have hiff : crlfTwice.isPrefixOf ('\r' :: '\n' :: rest) = true ↔ ['\r', '\n'] <+: rest := by
        rw [List.isPrefixOf_iff_prefix]
        simp [crlfTwice]
      rw [List.nil_append, afterFirst]
      simp only [hiff]
      split
      · rfl
      · exact after_first_cons fun hprefix => absurd (List.cons_prefix_cons.1 hprefix).1 (by decide)
  | cons c line ih =>
      rw [List.mem_cons, not_or] at h
      rw [← ih h.2]
      cases line with
      | nil => exact after_first_cons (not_prefix_crlf fun _ => by decide)
      | cons d line =>
          exact after_first_cons (not_prefix_crlf fun _ hd => h.2 (hd ▸ List.mem_cons_self))

/-- Behind a line that ends in `\n` the search begins anew. -/
theorem after_lf_line {line : List Char} (h : '\n' ∉ line) (hlast : line.getLast? ≠ some '\r')
    (rest : List Char) :
    afterFirst crlfTwice (line ++ '\n' :: rest) = afterFirst crlfTwice rest := by
  induction line with
  | nil =>
      exact after_first_cons fun hprefix => absurd (List.cons_prefix_cons.1 hprefix).1 (by decide)
  | cons c line ih =>
      rw [List.mem_cons, not_or] at h
      cases line with
      | nil =>
          rw [← ih h.2 (by simp)]
          exact after_first_cons (not_prefix_crlf fun hc => absurd (by rw [hc]; rfl) hlast)
      | cons d line =>
          rw [List.getLast?_cons_cons] at hlast
          rw [← ih h.2 hlast]
          exact after_first_cons (not_prefix_crlf fun _ hd => h.2 (hd ▸ List.mem_cons_self))

/-- Behind a line feed there may be another. -/
theorem after_two_line {line : List Char} (h : '\n' ∉ line) (rest : List Char) :
    afterFirst lfTwice (line ++ '\n' :: rest) =
      if ['\n'] <+: rest then some (rest.drop 1) else afterFirst lfTwice rest := by
  induction line with
  | nil =>
      have hiff : lfTwice.isPrefixOf ('\n' :: rest) = true ↔ ['\n'] <+: rest := by
        rw [List.isPrefixOf_iff_prefix]
        simp [lfTwice]
      rw [List.nil_append, afterFirst]
      simp only [hiff]
      rfl
  | cons c line ih =>
      rw [List.mem_cons, not_or] at h
      rw [← ih h.2]
      exact after_first_cons fun hprefix => h.1 (List.cons_prefix_cons.1 hprefix).1

/-- Behind a line of the head `\r\n\r\n` is found at once or looked for further on. -/
theorem after_crlf_head_line (line : HeadLine) (rest : List Char) :
    afterFirst crlfTwice (line.text ++ rest) =
      if line.ending = .crlf ∧ ['\r', '\n'] <+: rest then some (rest.drop 2)
      else afterFirst crlfTwice rest := by
  obtain ⟨chars, ending, oneLine, wholeEnd⟩ := line
  rw [HeadLine.text, List.append_assoc]
  cases ending with
  | crlf =>
      have hline := after_crlf_line oneLine rest
      simpa [LineEnd.chars] using hline
  | lf =>
      have hline := after_lf_line oneLine (wholeEnd rfl) rest
      simpa [LineEnd.chars] using hline

theorem after_lf_head_line (line : HeadLine) (rest : List Char) :
    afterFirst lfTwice (line.text ++ rest) =
      if ['\n'] <+: rest then some (rest.drop 1) else afterFirst lfTwice rest := by
  obtain ⟨chars, ending, oneLine, wholeEnd⟩ := line
  rw [HeadLine.text, List.append_assoc]
  cases ending with
  | crlf =>
      have hmem : '\n' ∉ chars ++ ['\r'] := by simp [oneLine]
      have hline := after_two_line hmem rest
      simpa [LineEnd.chars] using hline
  | lf => exact after_two_line oneLine rest

/-- A line that is not empty begins with no end of line. -/
theorem not_prefix_of_line {line : HeadLine} (h : line.chars ≠ []) (rest : List Char) :
    ¬['\r', '\n'] <+: line.text ++ rest ∧ ¬['\n'] <+: line.text ++ rest := by
  obtain ⟨chars, ending, oneLine, wholeEnd⟩ := line
  obtain ⟨c, chars, rfl⟩ := List.exists_cons_of_ne_nil h
  rw [List.mem_cons, not_or] at oneLine
  refine ⟨fun hprefix => ?_, fun hprefix => oneLine.1 (List.cons_prefix_cons.1 hprefix).1⟩
  obtain ⟨hc, hrest⟩ := List.cons_prefix_cons.1 hprefix
  cases chars with
  | cons d chars =>
      exact oneLine.2 ((List.cons_prefix_cons.1 hrest).1 ▸ List.mem_cons_self)
  | nil =>
      cases ending with
      | crlf => exact absurd (List.cons_prefix_cons.1 hrest).1 (by decide)
      | lf => exact wholeEnd rfl (congrArg some hc.symm)

/-- Behind a head of lines that are not empty. -/
theorem after_head (line : HeadLine) (head : List HeadLine)
    (h : ∀ other ∈ head, other.chars ≠ []) (rest : List Char) :
    afterFirst crlfTwice ((line :: head).flatMap HeadLine.text ++ rest) =
        (if ((line :: head).getLast (List.cons_ne_nil _ _)).ending = .crlf ∧
          ['\r', '\n'] <+: rest then some (rest.drop 2) else afterFirst crlfTwice rest) ∧
      afterFirst lfTwice ((line :: head).flatMap HeadLine.text ++ rest) =
        if ['\n'] <+: rest then some (rest.drop 1) else afterFirst lfTwice rest := by
  induction head generalizing line with
  | nil =>
      rw [List.flatMap_singleton]
      exact ⟨after_crlf_head_line line rest, after_lf_head_line line rest⟩
  | cons next head ih =>
      obtain ⟨hcrlf, hlf⟩ := ih next fun other hother => h other (List.mem_cons_of_mem _ hother)
      have hnext : (next :: head).flatMap HeadLine.text ++ rest =
          next.text ++ (head.flatMap HeadLine.text ++ rest) := by
        rw [List.flatMap_cons, List.append_assoc]
      obtain ⟨hnotCrlf, hnotLf⟩ := not_prefix_of_line (h next List.mem_cons_self)
        (head.flatMap HeadLine.text ++ rest)
      rw [List.flatMap_cons, List.append_assoc, after_crlf_head_line, after_lf_head_line,
        List.getLast_cons_cons, ← hcrlf, ← hlf, hnext, if_neg fun hand => hnotCrlf hand.2,
        if_neg hnotLf]
      exact ⟨rfl, rfl⟩

/-- The body that is read from a text with an empty line. -/
def bodyText (raw : List Char) : List Char :=
  ((afterFirst crlfTwice raw).or (afterFirst lfTwice raw)).getD []

/-- All but the body is read as it should be. -/
theorem parse_request_text (request : RequestText) :
    parseHttpRequest request.text =
      some { request.parsed with body := String.ofList (bodyText request.text) } := by
  obtain ⟨more, hwords⟩ := split_request_line request.requestLine
  have hlines : lines request.text = request.requestLine.chars ::
      ((request.headerLines.map fun line => line.chars) ++ [] :: lines request.body) := by
    rw [RequestText.text, lines_head, lines_blank, RequestText.head, List.map_cons, List.map_map]
    rfl
  rw [parseHttpRequest, hlines]
  simp only [hwords, parse_headers_lines, bodyText]
  cases hcrlf : afterFirst crlfTwice request.text with
  | some body =>
      rw [crlfTwice] at hcrlf
      rw [hcrlf]
      rfl
  | none =>
      rw [crlfTwice] at hcrlf
      rw [hcrlf]
      cases hlf : afterFirst lfTwice request.text with
      | some body =>
          rw [lfTwice] at hlf
          rw [hlf]
          rfl
      | none =>
          rw [lfTwice] at hlf
          rw [hlf]
          rfl

/-- A body behind a line feed is found unless it contains `\r\n\r\n` itself. -/
theorem body_after_lf_iff (body : List Char) :
    ((afterFirst crlfTwice body).or (some body)).getD [] = body ↔ ¬crlfTwice <:+: body := by
  rw [← after_first_eq_none_iff (by decide)]
  cases hfound : afterFirst crlfTwice body with
  | none => simp
  | some found =>
      refine iff_of_false (fun h => ?_) (by simp)
      have hlength := after_first_length hfound
      have heq : found = body := h
      have hpattern : crlfTwice.length = 4 := rfl
      rw [heq, hpattern] at hlength
      omega

/-- A body behind `\r\n` that no other `\r\n` precedes is lost. -/
theorem body_after_lf_crlf_iff (body : List Char) :
    ((afterFirst crlfTwice ('\r' :: '\n' :: body)).or (afterFirst lfTwice ('\n' :: body))).getD [] =
      body ↔ body = [] := by
  have hcrlf : crlfTwice.length = 4 := rfl
  have hlf : lfTwice.length = 2 := rfl
  constructor
  · intro h
    cases hfirst : afterFirst crlfTwice ('\r' :: '\n' :: body) with
    | some found =>
        have hlength := after_first_length hfirst
        rw [hfirst] at h
        have heq : found = body := h
        rw [heq, hcrlf, List.length_cons, List.length_cons] at hlength
        omega
    | none =>
        rw [hfirst] at h
        cases hsecond : afterFirst lfTwice ('\n' :: body) with
        | some found =>
            have hlength := after_first_length hsecond
            rw [hsecond] at h
            have heq : found = body := h
            rw [heq, hlf, List.length_cons] at hlength
            omega
        | none =>
            rw [hsecond] at h
            exact h.symm
  · rintro rfl
    decide

/-- The body is the text behind the empty line. -/
theorem body_text_iff (request : RequestText) :
    bodyText request.text = request.body ↔ request.BoundaryFound := by
  have hhead : ∀ line ∈ request.headerLines.map HeaderLine.toHeadLine, line.chars ≠ [] := by
    intro line hline
    obtain ⟨header, -, rfl⟩ := List.mem_map.1 hline
    rw [header.parts]
    exact List.append_ne_nil_of_right_ne_nil _ (List.cons_ne_nil _ _)
  obtain ⟨hcrlf, hlf⟩ := after_head request.requestLine.toHeadLine _ hhead
    (request.blank.chars ++ request.body)
  have hlast : request.lastEnd = ((request.requestLine.toHeadLine ::
    request.headerLines.map HeaderLine.toHeadLine).getLast (List.cons_ne_nil _ _)).ending := rfl
  rw [← hlast] at hcrlf
  rw [bodyText, RequestText.text, RequestText.head, hcrlf, hlf, RequestText.BoundaryFound]
  generalize request.lastEnd = last
  generalize request.body = body
  cases request.blank with
  | lf =>
      have hnotCrlf : ¬['\r', '\n'] <+: LineEnd.lf.chars ++ body := fun h =>
        absurd (List.cons_prefix_cons.1 h).1 (by decide)
      have hbody : afterFirst crlfTwice (LineEnd.lf.chars ++ body) = afterFirst crlfTwice body :=
        @after_lf_line [] (by simp) (by simp) body
      have hprefix : ['\n'] <+: LineEnd.lf.chars ++ body := List.prefix_append _ _
      rw [if_neg fun h => hnotCrlf h.2, hbody, if_pos hprefix]
      cases last with
      | crlf => exact body_after_lf_iff body
      | lf => exact body_after_lf_iff body
  | crlf =>
      cases last with
      | crlf =>
          have hprefix : ['\r', '\n'] <+: LineEnd.crlf.chars ++ body := List.prefix_append _ _
          rw [if_pos ⟨rfl, hprefix⟩]
          exact iff_of_true rfl trivial
      | lf =>
          have hnotLf : ¬['\n'] <+: LineEnd.crlf.chars ++ body := fun h =>
            absurd (List.cons_prefix_cons.1 h).1 (by decide)
          have hskip : afterFirst lfTwice (LineEnd.crlf.chars ++ body) =
              afterFirst lfTwice ('\n' :: body) := after_first_cons fun h =>
            absurd (List.cons_prefix_cons.1 h).1 (by decide)
          rw [if_neg fun h => absurd h.1 (by decide), if_neg hnotLf, hskip]
          exact body_after_lf_crlf_iff body

/-- A request is read as it is if the search for the body finds the empty line. -/
theorem parse_of_boundary_found {request : RequestText} (h : request.BoundaryFound) :
    parseHttpRequest request.text = some request.parsed := by
  rw [parse_request_text, (body_text_iff request).2 h]
  rfl

/-- A request is read exactly as it is if and only if the search for the body finds the empty
line. -/
theorem parses_exactly_iff (request : RequestText) :
    parseHttpRequest request.text = some request.parsed ↔ request.BoundaryFound := by
  refine ⟨fun h => ?_, parse_of_boundary_found⟩
  rw [parse_request_text, Option.some.injEq] at h
  rw [← body_text_iff]
  exact String.ofList_injective (congrArg HttpRequest.body h)

theorem no_white_space {text : List Char} (h : text.any isWhiteSpace = false) :
    ∀ c ∈ text, isWhiteSpace c = false := fun c hc =>
  Bool.eq_false_iff.2 (List.any_eq_false.1 h c hc)

theorem post_word :
    "POST".toList ≠ [] ∧ ∀ c ∈ "POST".toList, isWhiteSpace c = false :=
  ⟨by decide, no_white_space (by decide)⟩

theorem version_apart : ∀ c ∈ " HTTP/1.1".toList.head?, isWhiteSpace c = true := by
  rintro c ⟨⟩
  rfl

/-- A request with line feeds alone, and a body with an empty line between two parts. -/
def twoPartRequest : RequestText where
  requestLine :=
    { chars := "POST /a2a/tasks?from=x HTTP/1.1".toList
      ending := .lf
      oneLine := by decide
      wholeEnd := fun _ => by decide
      method := "POST".toList
      target := "/a2a/tasks?from=x".toList
      version := " HTTP/1.1".toList
      methodWord := post_word
      targetWord := ⟨by decide, no_white_space (by decide)⟩
      apart := version_apart
      parts := rfl }
  headerLines :=
    [{ chars := "Host: agent".toList
       ending := .lf
       oneLine := by decide
       wholeEnd := fun _ => by decide
       name := "Host".toList
       value := " agent".toList
       nameEnds := by decide
       parts := rfl }]
  blank := .lf
  body := "one\r\n\r\ntwo".toList

/-- The first part of its body is lost. -/
theorem first_part_lost :
    twoPartRequest.text =
        "POST /a2a/tasks?from=x HTTP/1.1\nHost: agent\n\none\r\n\r\ntwo".toList ∧
      (parseHttpRequest twoPartRequest.text).map HttpRequest.body = some "two" ∧
      parseHttpRequest twoPartRequest.text ≠ some twoPartRequest.parsed := by
  have hbody : (parseHttpRequest twoPartRequest.text).map HttpRequest.body = some "two" := by
    decide
  refine ⟨by decide, hbody, fun h => ?_⟩
  rw [h] at hbody
  exact absurd hbody (by decide)

end CorvidNano.A2a
