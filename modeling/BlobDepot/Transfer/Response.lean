import BlobDepot.Text.Utf8

/-!
# Responses

What a server answered: a status, the reason for it, and a body. The body of a failed answer is
shown up to a limit of bytes, however it arrives.
-/
namespace BlobDepot

def shownBytes : Nat := 1024

def isSuccess (status : Nat) : Bool :=
  200 ≤ status && status < 300

/-- The text of the first bytes of a body, with dots if there are more. -/
def truncate (body : List UInt8) (limit : Nat) : String :=
  let text := Text.Utf8.decode (body.take limit)
  if limit < body.length then text ++ "..." else text

/-- A body: at hand as a whole, or still to come in chunks, of which the last is not the end if
the connection breaks. -/
inductive Body where
  | whole (data : List UInt8)
  | chunks (parts : List (List UInt8)) (complete : Bool)
  deriving DecidableEq, Repr, Inhabited

structure Response where
  status : Nat
  reason : String
  body : Body
  deriving DecidableEq, Repr, Inhabited

/-- Takes chunks until there are more bytes than a limit. -/
def collect (limit : Nat) (got : List UInt8) : List (List UInt8) → List UInt8
  | [] => got
  | part :: parts => if got.length ≤ limit then collect limit (got ++ part) parts else got

namespace Body

def shown (limit : Nat) : Body → String
  | whole data => truncate data limit
  | chunks parts _ => truncate (collect limit [] parts) limit

def bytes : Body → List UInt8
  | whole data => data
  | chunks parts _ => parts.flatten

def isComplete : Body → Bool
  | whole _ => true
  | chunks _ complete => complete

end Body

def statusReasons : List (Nat × String) :=
  [(100, "Continue"),
   (101, "Switching Protocols"),
   (102, "Processing"),
   (200, "OK"),
   (201, "Created"),
   (202, "Accepted"),
   (203, "Non Authoritative Information"),
   (204, "No Content"),
   (205, "Reset Content"),
   (206, "Partial Content"),
   (207, "Multi-Status"),
   (208, "Already Reported"),
   (226, "IM Used"),
   (300, "Multiple Choices"),
   (301, "Moved Permanently"),
   (302, "Found"),
   (303, "See Other"),
   (304, "Not Modified"),
   (305, "Use Proxy"),
   (307, "Temporary Redirect"),
   (308, "Permanent Redirect"),
   (400, "Bad Request"),
   (401, "Unauthorized"),
   (402, "Payment Required"),
   (403, "Forbidden"),
   (404, "Not Found"),
   (405, "Method Not Allowed"),
   (406, "Not Acceptable"),
   (407, "Proxy Authentication Required"),
   (408, "Request Timeout"),
   (409, "Conflict"),
   (410, "Gone"),
   (411, "Length Required"),
   (412, "Precondition Failed"),
   (413, "Payload Too Large"),
   (414, "URI Too Long"),
   (415, "Unsupported Media Type"),
   (416, "Range Not Satisfiable"),
   (417, "Expectation Failed"),
   (418, "I'm a teapot"),
   (421, "Misdirected Request"),
   (422, "Unprocessable Entity"),
   (423, "Locked"),
   (424, "Failed Dependency"),
   (425, "Too Early"),
   (426, "Upgrade Required"),
   (428, "Precondition Required"),
   (429, "Too Many Requests"),
   (431, "Request Header Fields Too Large"),
   (451, "Unavailable For Legal Reasons"),
   (500, "Internal Server Error"),
   (501, "Not Implemented"),
   (502, "Bad Gateway"),
   (503, "Service Unavailable"),
   (504, "Gateway Timeout"),
   (505, "HTTP Version Not Supported"),
   (506, "Variant Also Negotiates"),
   (507, "Insufficient Storage"),
   (508, "Loop Detected"),
   (510, "Not Extended"),
   (511, "Network Authentication Required")]

def statusReason (status : Nat) : String :=
  (statusReasons.lookup status).getD ""

end BlobDepot
