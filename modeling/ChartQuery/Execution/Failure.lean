/-
# Failures of an execution

Why an execution gives no result: the chart does not compile, a url or a body cannot be formed, the
server is not reached or refuses, or its reply does not have the expected shape.
-/

import ChartQuery.Execution.Url
import ChartQuery.Json.Writer
import ChartQuery.Metric.Failure

namespace ChartQuery

/-- Why an execution failed. -/
inductive ExecutionFailure where
  | compile (failure : CompileFailure)
  | badUrl (fault : UrlFault)
  | unsendable (reason : Json.Unwritable)
  | unencodable (halves : Unencodable)
  | unreached (kind : String) (words : Text)
  | refused (status : Nat) (url : String)
  | notJson (words : String)
  | oversizedNumber (digits : Nat)
  | notAnObject (v : Value)
  | missingKey (key : Text)
  | withoutFields (v : Value)
  | notIterable (v : Value)
  | urlNotText (v : Value)
  | rejected (r : Schema.Rejection)
  deriving Repr

namespace ExecutionFailure

/-- The phrases for the statuses that have one. -/
def reasonPhrases : List (Nat × String) := [
  (100, "Continue"), (101, "Switching Protocols"), (102, "Processing"), (103, "Early Hints"),
  (200, "OK"), (201, "Created"), (202, "Accepted"), (203, "Non-Authoritative Information"),
  (204, "No Content"), (205, "Reset Content"), (206, "Partial Content"), (207, "Multi-Status"),
  (208, "Already Reported"), (226, "IM Used"), (300, "Multiple Choices"),
  (301, "Moved Permanently"), (302, "Found"), (303, "See Other"), (304, "Not Modified"),
  (305, "Use Proxy"), (307, "Temporary Redirect"), (308, "Permanent Redirect"),
  (400, "Bad Request"), (401, "Unauthorized"), (402, "Payment Required"), (403, "Forbidden"),
  (404, "Not Found"), (405, "Method Not Allowed"), (406, "Not Acceptable"),
  (407, "Proxy Authentication Required"), (408, "Request Timeout"), (409, "Conflict"),
  (410, "Gone"), (411, "Length Required"), (412, "Precondition Failed"),
  (413, "Request Entity Too Large"), (414, "Request-URI Too Long"),
  (415, "Unsupported Media Type"), (416, "Requested Range Not Satisfiable"),
  (417, "Expectation Failed"), (418, "I'm a teapot"), (421, "Misdirected Request"),
  (422, "Unprocessable Entity"), (423, "Locked"), (424, "Failed Dependency"), (425, "Too Early"),
  (426, "Upgrade Required"), (428, "Precondition Required"), (429, "Too Many Requests"),
  (431, "Request Header Fields Too Large"), (451, "Unavailable For Legal Reasons"),
  (500, "Internal Server Error"), (501, "Not Implemented"), (502, "Bad Gateway"),
  (503, "Service Unavailable"), (504, "Gateway Timeout"), (505, "HTTP Version Not Supported"),
  (506, "Variant Also Negotiates"), (507, "Insufficient Storage"), (508, "Loop Detected"),
  (510, "Not Extended"), (511, "Network Authentication Required")]

/-- The phrase for a status. -/
def reasonPhrase (status : Nat) : String :=
  ((reasonPhrases.find? (·.1 == status)).map (·.2)).getD ""

/-- What a status other than success is called. -/
def statusClass (status : Nat) : String :=
  match status / 100 with
  | 1 => "Informational response"
  | 3 => "Redirect response"
  | 4 => "Client error"
  | 5 => "Server error"
  | _ => "Invalid status code"

/-- The first line about a refusal. -/
def refusalLine (status : Nat) (url : String) : String :=
  statusClass status ++ " '" ++ toString status ++ " " ++ reasonPhrase status ++ "' for url '" ++
    url ++ "'"

/-- The words for a value that was to be looked into by a key. -/
def indexWords (v : Value) : String :=
  match v with
  | .list _ => "list indices must be integers or slices, not str"
  | .text _ => "string indices must be integers, not 'str'"
  | _ => "'" ++ v.kindName ++ "' object is not subscriptable"

/-- The words for a failure. -/
def message : ExecutionFailure → Text
  | .compile failure => failure.message
  | .badUrl fault => fault.message
  | .unsendable reason => reason.message
  | .unencodable halves => halves.message
  | .unreached _ words => words
  | .refused status url =>
    refusalLine status url ++
      "\nFor more information check: https://developer.mozilla.org/en-US/docs/Web/HTTP/Status/" ++
      toString status
  | .notJson words => words
  | .oversizedNumber digits => Numeral.oversizedWords digits
  | .notAnObject v => indexWords v
  | .missingKey key => Text.quoted key
  | .withoutFields v => "'" ++ v.kindName ++ "' object has no attribute 'get'"
  | .notIterable v => v.notIterableWords
  | .urlNotText v =>
    "Invalid type for url.  Expected str or httpx.URL, got <class '" ++ v.kindName ++ "'>: " ++
      v.literal
  | .rejected r => r.message

end ExecutionFailure

end ChartQuery
