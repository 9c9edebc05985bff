/-!
# 応答の状態

状態は 100 以上 999 以下の番号である。よく知られた番号には理由の句（`Status.reason?`）がある。
状態を文で表すときは「番号 理由」とし、理由のない番号では理由の代わりに
`<unknown status code>` と書く。
-/

namespace HttpRouting

/-- 応答の状態。番号は三桁。 -/
structure Status where
  code : Nat
  valid : 100 ≤ code ∧ code ≤ 999 := by decide
  deriving DecidableEq

namespace Status

/-- 三桁の番号なら状態にする。 -/
def ofNat? (n : Nat) : Option Status :=
  if h : 100 ≤ n ∧ n ≤ 999 then some ⟨n, h⟩ else none

def ok : Status := ⟨200, by decide⟩
def created : Status := ⟨201, by decide⟩
def noContent : Status := ⟨204, by decide⟩
def badRequest : Status := ⟨400, by decide⟩
def unauthorized : Status := ⟨401, by decide⟩
def notFound : Status := ⟨404, by decide⟩
def methodNotAllowed : Status := ⟨405, by decide⟩
def internalServerError : Status := ⟨500, by decide⟩
def serviceUnavailable : Status := ⟨503, by decide⟩

/-- 理由の句の表。 -/
def reasons : List (Nat × String) :=
  [(100, "Continue"), (101, "Switching Protocols"), (102, "Processing"), (103, "Early Hints"),
   (200, "OK"), (201, "Created"), (202, "Accepted"), (203, "Non Authoritative Information"),
   (204, "No Content"), (205, "Reset Content"), (206, "Partial Content"), (207, "Multi-Status"),
   (208, "Already Reported"), (226, "IM Used"),
   (300, "Multiple Choices"), (301, "Moved Permanently"), (302, "Found"), (303, "See Other"),
   (304, "Not Modified"), (305, "Use Proxy"), (307, "Temporary Redirect"), (308, "Permanent Redirect"),
   (400, "Bad Request"), (401, "Unauthorized"), (402, "Payment Required"), (403, "Forbidden"),
   (404, "Not Found"), (405, "Method Not Allowed"), (406, "Not Acceptable"),
   (407, "Proxy Authentication Required"), (408, "Request Timeout"), (409, "Conflict"), (410, "Gone"),
   (411, "Length Required"), (412, "Precondition Failed"), (413, "Payload Too Large"),
   (414, "URI Too Long"), (415, "Unsupported Media Type"), (416, "Range Not Satisfiable"),
   (417, "Expectation Failed"), (418, "I'm a teapot"), (421, "Misdirected Request"),
   (422, "Unprocessable Entity"), (423, "Locked"), (424, "Failed Dependency"), (425, "Too Early"),
   (426, "Upgrade Required"), (428, "Precondition Required"), (429, "Too Many Requests"),
   (431, "Request Header Fields Too Large"), (451, "Unavailable For Legal Reasons"),
   (500, "Internal Server Error"), (501, "Not Implemented"), (502, "Bad Gateway"),
   (503, "Service Unavailable"), (504, "Gateway Timeout"), (505, "HTTP Version Not Supported"),
   (506, "Variant Also Negotiates"), (507, "Insufficient Storage"), (508, "Loop Detected"),
   (510, "Not Extended"), (511, "Network Authentication Required")]

/-- 理由の句。よく知られた番号でなければ `none`。 -/
def reason? (s : Status) : Option String := (reasons.find? (·.1 == s.code)).map (·.2)

/-- 「番号 理由」の文。 -/
def display (s : Status) : String :=
  toString s.code ++ " " ++ s.reason?.getD "<unknown status code>"

/-- server 側の失敗（500 番台）か。 -/
def isServerError (s : Status) : Bool := 500 ≤ s.code && s.code < 600

end Status

end HttpRouting
