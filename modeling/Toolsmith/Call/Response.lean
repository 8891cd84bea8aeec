/-
What comes back over HTTP: a response, or the trouble that kept it away.
-/
import Toolsmith.Call.ContentType
import Toolsmith.Failure

namespace Toolsmith

/-- Something outside went wrong: the name of its kind and a message, which
may be empty. -/
structure Trouble where
  name : String
  message : String
  deriving DecidableEq, Repr

/-- The message of the trouble, or its name if there is none. -/
def Trouble.text (t : Trouble) : String :=
  if t.message == "" then t.name else t.message

/-- A response: its status, the octets of its body, and what kind of content
they are. -/
structure Response where
  status : Int
  body : List UInt8
  contentType : Option String
  deriving DecidableEq, Repr

namespace Response

/-- What keeps a text from being the value of a header, if anything does: a
header is ASCII, and the first run of other characters is named. -/
def headerFault? (value : List Char) : Option Trouble :=
  let before := value.takeWhile fun c => c.toNat < 0x80
  let others := (value.drop before.length).takeWhile fun c => 0x80 ≤ c.toNat
  let last := before.length + others.length - 1
  let named : Option (List Char) :=
    match others with
    | [] => none
    | [c] =>
      some ("character '".toList ++ codeEscape (Text.codePoint c)
        ++ s!"' in position {last}".toList)
    | _ => some s!"characters in position {before.length}-{last}".toList
  named.map fun what =>
    ⟨"UnicodeEncodeError", "'ascii' codec can't encode "
      ++ String.ofList what ++ ": ordinal not in range(128)"⟩

/-- A response with a header for the kind of its content, if one is
given. -/
def make (status : Int) (body : List UInt8) (contentType : Option String) :
    Except Trouble Response :=
  match contentType.bind fun s => headerFault? s.toList with
  | some trouble => .error trouble
  | none => .ok ⟨status, body, contentType⟩

/-- The standard phrases of status codes. -/
def reasons : List (Int × String) :=
  [(100, "Continue"), (101, "Switching Protocols"), (102, "Processing"),
   (103, "Early Hints"), (200, "OK"), (201, "Created"), (202, "Accepted"),
   (203, "Non-Authoritative Information"), (204, "No Content"),
   (205, "Reset Content"), (206, "Partial Content"), (207, "Multi-Status"),
   (208, "Already Reported"), (226, "IM Used"), (300, "Multiple Choices"),
   (301, "Moved Permanently"), (302, "Found"), (303, "See Other"),
   (304, "Not Modified"), (305, "Use Proxy"), (307, "Temporary Redirect"),
   (308, "Permanent Redirect"), (400, "Bad Request"), (401, "Unauthorized"),
   (402, "Payment Required"), (403, "Forbidden"), (404, "Not Found"),
   (405, "Method Not Allowed"), (406, "Not Acceptable"),
   (407, "Proxy Authentication Required"), (408, "Request Timeout"),
   (409, "Conflict"), (410, "Gone"), (411, "Length Required"),
   (412, "Precondition Failed"), (413, "Request Entity Too Large"),
   (414, "Request-URI Too Long"), (415, "Unsupported Media Type"),
   (416, "Requested Range Not Satisfiable"), (417, "Expectation Failed"),
   (418, "I'm a teapot"), (421, "Misdirected Request"),
   (422, "Unprocessable Entity"), (423, "Locked"),
   (424, "Failed Dependency"), (425, "Too Early"),
   (426, "Upgrade Required"), (428, "Precondition Required"),
   (429, "Too Many Requests"), (431, "Request Header Fields Too Large"),
   (451, "Unavailable For Legal Reasons"), (500, "Internal Server Error"),
   (501, "Not Implemented"), (502, "Bad Gateway"),
   (503, "Service Unavailable"), (504, "Gateway Timeout"),
   (505, "HTTP Version Not Supported"), (506, "Variant Also Negotiates"),
   (507, "Insufficient Storage"), (508, "Loop Detected"),
   (510, "Not Extended"), (511, "Network Authentication Required")]

/-- The phrase of a status code, empty if it has none. -/
def reason (status : Int) : String := (reasons.lookup status).getD ""

/-- The status says that the request was carried out. -/
def isSuccess (r : Response) : Bool := 200 ≤ r.status && r.status < 300

/-- The body as text; octets that are no characters are replaced. An empty
body is a text under every name. -/
def text (r : Response) : Except ReadingFault (List Char) :=
  if r.body.isEmpty then .ok []
  else do Charset.decode r.body (← ContentType.charset r.contentType)

/-- The body as JSON, if it is that. -/
def json? (r : Response) : Option (Except Json.Fault Value) :=
  (Charset.decodeJson? r.body).map Json.read

/-- The data of a body: what it says as JSON, or else its text. JSON that
goes too deep is not taken for a text. -/
def data (r : Response) : Except Failure Value :=
  match r.json? with
  | some (.ok v) => .ok v
  | some (.error (.tooDeep isMapping)) =>
    .error (.misuse (.depth isMapping))
  | _ =>
    match r.text with
    | .ok s => .ok (.text (String.ofList s))
    | .error fault => .error (.unreadable fault)

/-- The error of a response, if it is no success. -/
def error? (r : Response) : Option String :=
  if r.isSuccess then none else some s!"HTTP {r.status}: {reason r.status}"

end Response

end Toolsmith
