import SessionGate.Cluster.Error
import SessionGate.Json.Basic
import SessionGate.Program
import SessionGate.Text.Address
import SessionGate.Text.Form

/-!
# Requests to the API server

- `Request.ofText?` builds a request whose address has only octets that may stand in one.
- `exchange` sends a request and waits for the reply, `exchangeWithin` no longer than a limit.
- `printLine` writes a line of a followed log.
-/
namespace SessionGate.Cluster
set_option autoImplicit false
open Utf8 (Bytes)

/-- A request; the query is the text behind the question mark. -/
structure Request where
  method : String
  path : String
  query : String
  contentType : Option String
  body : Option Json
deriving DecidableEq, Inhabited

namespace Request

/-- Builds a request to an address of path and query. -/
def ofText? (method address : String) (contentType : Option String) (body : Option Json) :
    Option Request := do
  let target ← Address.ofText? address
  return ⟨method, ← Utf8.decode? target.path, ← Utf8.decode? target.query, contentType, body⟩

end Request

/-- What comes back on a request. -/
inductive Reply where
  | answered (status : Nat) (body : Bytes)
  /-- The request could not be sent, or its answer was lost. -/
  | failed (text : String)
deriving DecidableEq, Inhabited

/-- What a client of the API server does. -/
inductive HttpCall where
  | exchange (request : Request)
  /-- Gives up when nothing has come back after the limit. -/
  | exchangeWithin (limit : Duration) (request : Request)
  | printLine (line : String)
deriving DecidableEq, Inhabited

abbrev HttpCall.Answer : HttpCall → Type
  | .exchange _ => Reply
  | .exchangeWithin .. => Option Reply
  | .printLine _ => Unit

/-- The connection to the API server. -/
def http : Interface := ⟨HttpCall, HttpCall.Answer⟩

def exchange (request : Request) : Program http Reply := .ask (.exchange request) .done

def exchangeWithin (limit : Duration) (request : Request) : Program http (Option Reply) :=
  .ask (.exchangeWithin limit request) .done

def printLine (line : String) : Program http Unit := .ask (.printLine line) .done

/-! ## Status codes -/

/-- Standard phrases of status codes. -/
def statusPhrases : List (Nat × String) :=
  [(100, "Continue"), (101, "Switching Protocols"), (102, "Processing"), (200, "OK"),
    (201, "Created"), (202, "Accepted"), (203, "Non Authoritative Information"),
    (204, "No Content"), (205, "Reset Content"), (206, "Partial Content"), (207, "Multi-Status"),
    (208, "Already Reported"), (226, "IM Used"), (300, "Multiple Choices"),
    (301, "Moved Permanently"), (302, "Found"), (303, "See Other"), (304, "Not Modified"),
    (305, "Use Proxy"), (307, "Temporary Redirect"), (308, "Permanent Redirect"),
    (400, "Bad Request"), (401, "Unauthorized"), (402, "Payment Required"), (403, "Forbidden"),
    (404, "Not Found"), (405, "Method Not Allowed"), (406, "Not Acceptable"),
    (407, "Proxy Authentication Required"), (408, "Request Timeout"), (409, "Conflict"),
    (410, "Gone"), (411, "Length Required"), (412, "Precondition Failed"),
    (413, "Payload Too Large"), (414, "URI Too Long"), (415, "Unsupported Media Type"),
    (416, "Range Not Satisfiable"), (417, "Expectation Failed"), (418, "I'm a teapot"),
    (421, "Misdirected Request"), (422, "Unprocessable Entity"), (423, "Locked"),
    (424, "Failed Dependency"), (425, "Too Early"), (426, "Upgrade Required"),
    (428, "Precondition Required"), (429, "Too Many Requests"),
    (431, "Request Header Fields Too Large"), (451, "Unavailable For Legal Reasons"),
    (500, "Internal Server Error"), (501, "Not Implemented"), (502, "Bad Gateway"),
    (503, "Service Unavailable"), (504, "Gateway Timeout"), (505, "HTTP Version Not Supported"),
    (506, "Variant Also Negotiates"), (507, "Insufficient Storage"), (508, "Loop Detected"),
    (510, "Not Extended"), (511, "Network Authentication Required")]

/-- A status with its phrase. -/
def statusLine (status : Nat) : String :=
  toString status ++ " " ++ (statusPhrases.lookup status).getD "<unknown status code>"

/-- Whether a status is that of a failure. -/
def isFailure (status : Nat) : Bool := 400 ≤ status && status < 600

end SessionGate.Cluster
