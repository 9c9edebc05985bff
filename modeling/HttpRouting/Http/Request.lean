import HttpRouting.Http.Header
import HttpRouting.Http.Uri
import HttpRouting.Http.Form
import HttpRouting.Data.Keyed

/-!
# 要求

要求は method、URI、header の並び、本文の byte の列からなる。記録用の middleware が
添える「要求の項目」（`RequestFields`）を一つ持てる。

要求を組み立てる（`Request.build`）ときは、URI、header を与えた順に確かめ、最初の誤りで止まる。
header では名前を値より先に確かめる。

query の組（`Request.queryPairs`）は form の符号化で読む。`Request.setQuery` は組の列を
form の符号化で書いて query を置き換える。経路はそのまま残り、組が無ければ query ごと無くなる。
-/

namespace HttpRouting

/-- 記録用の middleware が要求に添える項目。名前ごとの値の列（重複なし、最初に現れた順）を
名前の順に持つ。 -/
structure RequestFields where
  headers : List (String × List String) := []
  parameters : List (String × List String) := []
  deriving DecidableEq

/-- 項目が一つもない。 -/
def RequestFields.isEmpty (f : RequestFields) : Bool := f.headers.isEmpty && f.parameters.isEmpty

/-- 要求。 -/
structure Request where
  method : Method
  uri : Uri
  headers : Headers := []
  body : List UInt8 := []
  fields : Option RequestFields := none

/-- 要求を組み立てられなかった理由。 -/
inductive RequestError where
  | uri (e : UriError)
  | headerName
  | headerValue
  deriving DecidableEq, Repr

/-- 理由の文。 -/
def RequestError.message : RequestError → String
  | .uri e => e.message
  | .headerName => "invalid HTTP header name"
  | .headerValue => "failed to parse header value"

namespace Request

/-- header の名前と値の組を一つ読む。 -/
def headerPair (p : String × String) : Except RequestError (HeaderName × HeaderValue) :=
  match HeaderName.parse? p.1 with
  | none => .error .headerName
  | some n =>
    match HeaderValue.parse? p.2 with
    | none => .error .headerValue
    | some v => .ok (n, v)

/-- method、URI の文字列、header の組、本文から要求を組み立てる。 -/
def build (m : Method) (uri : String) (headers : List (String × String)) (body : List UInt8) :
    Except RequestError Request := do
  let u ← (Uri.parse uri).mapError .uri
  let hs ← headers.mapM headerPair
  pure { method := m, uri := u, headers := hs, body }

/-- 経路。 -/
def path (r : Request) : String := r.uri.path

/-- query。 -/
def query (r : Request) : Option String := r.uri.query

/-- 名前の最初の header の値を文字列として読む（見える ASCII のときだけ）。 -/
def header? (r : Request) (name : String) : Option String := r.headers.text? name

/-- query の組。 -/
def queryPairs (r : Request) : List (String × String) :=
  match r.query with
  | some q => Form.parseString q
  | none => []

/-- query を組の列で置き換える。 -/
def setQuery (r : Request) (pairs : List (String × String)) : Request :=
  { r with uri := r.uri.withQuery (Form.serialize pairs) }

/-- header を後ろに足す。 -/
def appendHeader (r : Request) (n : HeaderName) (v : HeaderValue) : Request :=
  { r with headers := r.headers.append n v }

end Request

end HttpRouting
