import HttpRouting.Http.Header
import HttpRouting.Http.Status

/-!
# 応答

応答は状態、header の並び、本文の byte の列からなる。

組み立て（`Response.Builder`）は状態 200 と空の header から始まる。`header` は名前か値が
使えなければ黙って何もしない。本文を与えて終えるときは `content-type` を一つだけに置き換え、
`noBody` で終えるときは header に手を加えない。
-/

namespace HttpRouting

/-- 本文の種類。 -/
inductive ContentType where
  | csv
  | eventStream
  | html
  | json
  | octetStream
  | text
  | xml
  deriving DecidableEq, Repr

/-- `content-type` の値。 -/
def ContentType.value : ContentType → String
  | .csv => "text/csv"
  | .eventStream => "text/event-stream"
  | .html => "text/html; charset=utf-8"
  | .json => "application/json"
  | .octetStream => "application/octet-stream"
  | .text => "text/plain; charset=utf-8"
  | .xml => "application/xml"

/-- 応答。 -/
structure Response where
  status : Status
  headers : Headers := []
  body : List UInt8 := []

/-- 応答の組み立て途中。 -/
structure Response.Builder where
  status : Status := Status.ok
  headers : Headers := []

namespace Response.Builder

/-- 状態を置く。 -/
def withStatus (b : Builder) (s : Status) : Builder := { b with status := s }

/-- header を後ろに足す。名前か値が使えなければ何もしない。 -/
def header (b : Builder) (name value : String) : Builder :=
  match HeaderName.parse? name, HeaderValue.parse? value with
  | some n, some v => { b with headers := b.headers.append n v }
  | _, _ => b

/-- 本文の種類と本文を与えて終える。 -/
def finish (b : Builder) (ct : ContentType) (body : List UInt8) : Response :=
  { status := b.status
    headers := b.headers.set ⟨"content-type"⟩ ⟨Utf8.encode ct.value⟩
    body }

/-- JSON の本文で終える。 -/
def json (b : Builder) (body : List UInt8) : Response := b.finish .json body

/-- 文章の本文で終える。 -/
def text (b : Builder) (body : String) : Response := b.finish .text (Utf8.encode body)

/-- 本文なしで終える。 -/
def noBody (b : Builder) : Response := { status := b.status, headers := b.headers }

end Response.Builder

namespace Response

/-- 組み立てを始める。 -/
def builder : Builder := {}

/-- JSON の本文の応答（状態 200）。 -/
def json (body : List UInt8) : Response := builder.json body

/-- 文章の応答（状態 200）。 -/
def text (body : String) : Response := builder.text body

/-- 状態だけの応答。 -/
def ofStatus (s : Status) : Response := { status := s }

/-- 名前の最初の header の値を文字列として読む（見える ASCII のときだけ）。 -/
def header? (r : Response) (name : String) : Option String := r.headers.text? name

/-- header を後ろに足す。名前か値が使えなければ何もしない。 -/
def appendHeader (r : Response) (name value : String) : Response :=
  match HeaderName.parse? name, HeaderValue.parse? value with
  | some n, some v => { r with headers := r.headers.append n v }
  | _, _ => r

end Response

end HttpRouting
