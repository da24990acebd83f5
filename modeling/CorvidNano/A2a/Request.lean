import CorvidNano.Host.Signature

/-!
# Requests to the A2A server

`parse_http_request` in `a2a.rs`, which reads the request line, the headers up to the first empty
line, and the body after the first empty line that it finds in the text.
-/

namespace CorvidNano.A2a

open Host.Signature (isWhiteSpace trim lines)

/-- A parsed request. -/
structure HttpRequest where
  method : String
  path : String
  headers : List (String × String)
  body : String
  deriving DecidableEq

/-- `str::split_whitespace`. -/
def splitWhitespace (text : List Char) : List (List Char) :=
  (text.splitOnP isWhiteSpace).filter (· ≠ [])

/-- `str::split_once`. -/
def splitOnce (stop : Char) (text : List Char) : Option (List Char × List Char) :=
  match text.dropWhile (· != stop) with
  | [] => none
  | _ :: rest => some (Text.before stop text, rest)

/-- The text after the first occurrence of a pattern, which `str::find` looks for. -/
def afterFirst (pattern : List Char) : List Char → Option (List Char)
  | [] => if pattern = [] then some [] else none
  | c :: rest =>
      if pattern.isPrefixOf (c :: rest) then some ((c :: rest).drop pattern.length)
      else afterFirst pattern rest

/-- The headers among the lines after the request line, up to the first empty line, and whether
there is such a line. -/
def parseHeaders : List (List Char) → List (String × String) × Bool
  | [] => ([], false)
  | line :: rest =>
      if line = [] then ([], true)
      else
        let (headers, headerEnd) := parseHeaders rest
        match splitOnce ':' line with
        | some (key, value) =>
            ((String.ofList (trim key), String.ofList (trim value)) :: headers, headerEnd)
        | none => (headers, headerEnd)

/-- `parse_http_request`. -/
def parseHttpRequest (raw : List Char) : Option HttpRequest :=
  match lines raw with
  | [] => none
  | requestLine :: rest =>
      match splitWhitespace requestLine with
      | method :: path :: _ =>
          let (headers, headerEnd) := parseHeaders rest
          let body :=
            if headerEnd then
              match afterFirst ['\r', '\n', '\r', '\n'] raw with
              | some body => body
              | none =>
                  match afterFirst ['\n', '\n'] raw with
                  | some body => body
                  | none => []
            else []
          some { method := String.ofList method
                 path := String.ofList (Text.before '?' path)
                 headers
                 body := String.ofList body }
      | _ => none

end CorvidNano.A2a
