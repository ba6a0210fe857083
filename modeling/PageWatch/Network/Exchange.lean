import PageWatch.Charset.Page
import PageWatch.Data.Datum
import PageWatch.Failure

/-!
# Exchanges over the network

A request is sent and a reply comes back, or none does.
-/

set_option autoImplicit false

namespace PageWatch

inductive Method where
  | get
  | post
  deriving Repr, DecidableEq

structure Request where
  method : Method
  url : String
  timeoutSecs : Nat
  userAgent : Option String := none
  body : Option Datum := none

structure Reply where
  status : Nat := 200
  contentType : Option String := none
  body : List UInt8 := []
  deriving Repr, DecidableEq

abbrev Network (m : Type → Type) := Request → m (Except ExchangeError Reply)

def isHeaderText (s : String) : Bool :=
  s.toList.all fun c => c == '\t' || (0x20 ≤ c.toNat && c.toNat ≠ 0x7F)

def reasons : List (Nat × String) :=
  [(100, "Continue"), (101, "Switching Protocols"), (102, "Processing"), (103, "Early Hints"),
   (200, "OK"), (201, "Created"), (202, "Accepted"), (203, "Non Authoritative Information"),
   (204, "No Content"), (205, "Reset Content"), (206, "Partial Content"), (207, "Multi-Status"),
   (208, "Already Reported"), (226, "IM Used"), (300, "Multiple Choices"),
   (301, "Moved Permanently"), (302, "Found"), (303, "See Other"), (304, "Not Modified"),
   (305, "Use Proxy"), (307, "Temporary Redirect"), (308, "Permanent Redirect"),
   (400, "Bad Request"), (401, "Unauthorized"), (402, "Payment Required"), (403, "Forbidden"),
   (404, "Not Found"), (405, "Method Not Allowed"), (406, "Not Acceptable"),
   (407, "Proxy Authentication Required"), (408, "Request Timeout"), (409, "Conflict"),
   (410, "Gone"), (411, "Length Required"), (412, "Precondition Failed"),
   (413, "Payload Too Large"), (414, "URI Too Long"), (415, "Unsupported Media Type"),
   (416, "Range Not Satisfiable"), (417, "Expectation Failed"), (418, "I'm a teapot"),
   (421, "Misdirected Request"), (422, "Unprocessable Entity"), (423, "Locked"),
   (424, "Failed Dependency"), (425, "Too Early"), (426, "Upgrade Required"),
   (428, "Precondition Required"), (429, "Too Many Requests"),
   (431, "Request Header Fields Too Large"), (451, "Unavailable For Legal Reasons"),
   (500, "Internal Server Error"), (501, "Not Implemented"), (502, "Bad Gateway"),
   (503, "Service Unavailable"), (504, "Gateway Timeout"), (505, "HTTP Version Not Supported"),
   (506, "Variant Also Negotiates"), (507, "Insufficient Storage"), (508, "Loop Detected"),
   (510, "Not Extended"), (511, "Network Authentication Required")]

namespace Reply

def isSuccess (r : Reply) : Bool := 200 ≤ r.status && r.status < 300

def statusText (r : Reply) : String :=
  let phrase := ((reasons.find? (·.1 == r.status)).map (·.2)).getD "<unknown status code>"
  toString r.status ++ " " ++ phrase

/-- The charset that the content type names; a content type beyond ASCII names none. -/
def charset? (r : Reply) : Option String :=
  match r.contentType with
  | some value =>
    if value.toList.all fun c => c == '\t' || (0x20 ≤ c.toNat && c.toNat < 0x7F) then
      Charset.ofContentType? value
    else none
  | none => none

/-- The body as text, whatever charset the content type names; a byte-order mark is part of it. -/
def text (r : Reply) : String := (Charset.utf8Decoder.run r.body).text

end Reply

end PageWatch
