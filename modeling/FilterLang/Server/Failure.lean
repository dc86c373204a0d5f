import FilterLang.Json.Decode
import FilterLang.Url

/-!
# Failures of calls to the server

A call fails before a connection is opened, if its address cannot be requested, or by what comes
back: an answer with a bad status or one that cannot be decoded. A call whose connection fails says
only that.
-/

namespace FilterLang.Server

/-- Why no request was sent. -/
inductive RequestFault where
  /-- The address is malformed. -/
  | address (f : Url.Fault)
  /-- The address is of a scheme to which no requests are sent. -/
  | scheme (u : Url)
  /-- The address is one that a request cannot name. -/
  | unnameable (u : Url)
  /-- No connection was made. -/
  | connection (u : Url)
  deriving Repr, DecidableEq

namespace RequestFault

/-- The words for a fault, without its cause. -/
def summary : RequestFault → String
  | address _ => "builder error"
  | scheme u | unnameable u => "builder error for url (" ++ u.text ++ ")"
  | connection u => "error sending request for url (" ++ u.text ++ ")"

/-- The words for the cause of a fault, if it has one. -/
def cause? : RequestFault → Option String
  | address f => some f.message
  | scheme _ => some "URL scheme is not allowed"
  | unnameable _ => some "Parsed Url is not a valid Uri"
  | connection _ => none

end RequestFault

/-- Why a call gave no answer. -/
inductive Failure where
  | request (f : RequestFault)
  | status (code : Nat) (path body : String)
  | decode (path : String) (m : Json.Mismatch)
  deriving Repr

/-- The usual words for a status. -/
def reasons : List (Nat × String) := [
  (100, "Continue"), (101, "Switching Protocols"), (102, "Processing"),
  (200, "OK"), (201, "Created"), (202, "Accepted"), (203, "Non Authoritative Information"),
  (204, "No Content"), (205, "Reset Content"), (206, "Partial Content"), (207, "Multi-Status"),
  (208, "Already Reported"), (226, "IM Used"),
  (300, "Multiple Choices"), (301, "Moved Permanently"), (302, "Found"), (303, "See Other"),
  (304, "Not Modified"), (305, "Use Proxy"), (307, "Temporary Redirect"),
  (308, "Permanent Redirect"),
  (400, "Bad Request"), (401, "Unauthorized"), (402, "Payment Required"), (403, "Forbidden"),
  (404, "Not Found"), (405, "Method Not Allowed"), (406, "Not Acceptable"),
  (407, "Proxy Authentication Required"), (408, "Request Timeout"), (409, "Conflict"),
  (410, "Gone"), (411, "Length Required"), (412, "Precondition Failed"),
  (413, "Payload Too Large"), (414, "URI Too Long"), (415, "Unsupported Media Type"),
  (416, "Range Not Satisfiable"), (417, "Expectation Failed"), (418, "I'm a teapot"),
  (421, "Misdirected Request"), (422, "Unprocessable Entity"), (423, "Locked"),
  (424, "Failed Dependency"), (425, "Too Early"), (426, "Upgrade Required"),
  (428, "Precondition Required"), (429, "Too Many Requests"),
  (431, "Request Header Fields Too Large"), (451, "Unavailable For Legal Reasons"),
  (500, "Internal Server Error"), (501, "Not Implemented"), (502, "Bad Gateway"),
  (503, "Service Unavailable"), (504, "Gateway Timeout"), (505, "HTTP Version Not Supported"),
  (506, "Variant Also Negotiates"), (507, "Insufficient Storage"), (508, "Loop Detected"),
  (510, "Not Extended"), (511, "Network Authentication Required")]

namespace Failure

/-- The words for a failure. -/
def message : Failure → String
  | request f => "Request failed: " ++ f.summary
  | status code path body =>
    "HTTP " ++ toString code ++ " " ++ (reasons.lookup code).getD "<unknown status code>" ++
      " for " ++ path ++ ": " ++ body
  | decode path m => "Failed to deserialize response from " ++ path ++ ": " ++ m.message

/-- The words for a failure and for what caused it, the cause last. -/
def chain : Failure → List String
  | request f => (request f).message :: f.summary :: f.cause?.toList
  | status code path body => [(status code path body).message]
  | decode path m => [(decode path m).message, m.message]

end Failure

/-! ### Addresses of calls -/

/-- The address of a call. Slashes at the end of the endpoint are dropped. -/
def callAddress (endpoint path : String) : String :=
  String.ofList (endpoint.toList.reverse.dropWhile (· == '/')).reverse ++ path

/-- The address to which a call is sent. -/
def route (endpoint path : String) : Except RequestFault Url :=
  match Url.parse (callAddress endpoint path) with
  | .error f => .error (.address f)
  | .ok u =>
    let u := u.withoutCredentials
    if !u.isWeb then .error (.scheme u)
    else if !u.fitsRequest then .error (.unnameable u)
    else .ok u

end FilterLang.Server
