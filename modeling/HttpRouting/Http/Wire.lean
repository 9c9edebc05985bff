import HttpRouting.Http.Request
import HttpRouting.Http.Response

/-!
# HTTP/1.1 の電文

要求の頭（要求の行と header の行）を byte の列から読み、応答を byte の列に書く。

## 要求の頭（`Wire.parseHead`）

要求の行は `METHOD SP target SP HTTP/1.x` で、行は CRLF（LF だけでもよい）で終わる。header の行は
`名前:値` で、値の両端の空白と tab は捨てる。空の行で頭が終わる。method は token、target は
空白と制御文字を含まない。

## 本文の長さ（`Wire.framing`）

`transfer-encoding` の最後の値が `chunked` なら chunk に分けた本文、そうでなく
`content-length` があればその byte 数、どちらもなければ本文はない。

## 応答（`Wire.renderResponse`）

`HTTP/1.1 番号 理由` の行、header（名前ごとにまとめ、名前が最初に現れた順）、閉じるなら
`connection: close`、`content-length`（1xx と 204 では書かない）、空の行、本文の順。HEAD の要求への
応答では本文を書かない。
-/

namespace HttpRouting.Wire

/-- 要求の頭。 -/
structure Head where
  method : String
  target : List UInt8
  /-- `HTTP/1.minor` の minor。 -/
  minor : Nat
  headers : List (String × List UInt8)

/-- 本文の区切り方。 -/
inductive Framing where
  | none
  | length (n : Nat)
  | chunked
  deriving DecidableEq, Repr

/-- byte の列の ASCII の文字列。 -/
def ascii (bs : List UInt8) : String := String.ofList (bs.map fun b => Char.ofNat b.toNat)

/-- 文字列の byte。 -/
def bytesOf (s : String) : List UInt8 := Utf8.encode s

/-- 一行を取り出す。行の終わりは LF、その前の CR は捨てる。 -/
def line (bs : List UInt8) : Option (List UInt8 × List UInt8) :=
  let l := bs.takeWhile (· != 0x0A)
  if l.length = bs.length then none
  else
    let rest := bs.drop (l.length + 1)
    some (if l.getLast? = some 0x0D then l.dropLast else l, rest)

/-- 頭の終わり（空の行の後）の位置。まだ届いていなければ `none`。 -/
def headEnd : Nat → List UInt8 → Option Nat
  | i, 0x0D :: 0x0A :: 0x0D :: 0x0A :: _ => some (i + 4)
  | i, 0x0A :: 0x0A :: _ => some (i + 2)
  | i, 0x0A :: 0x0D :: 0x0A :: _ => some (i + 3)
  | i, _ :: rest => headEnd (i + 1) rest
  | _, [] => none

/-- 両端の空白と tab を捨てる。 -/
def trimSpace (bs : List UInt8) : List UInt8 :=
  let isSpace := fun (b : UInt8) => b == 0x20 || b == 0x09
  ((bs.dropWhile isSpace).reverse.dropWhile isSpace).reverse

/-- header の行を読む。 -/
def headerLine (l : List UInt8) : Option (String × List UInt8) :=
  let name := l.takeWhile (· != 0x3A)
  if name.length = l.length then none
  else
    let value := trimSpace (l.drop (name.length + 1))
    if isToken (ascii name) && value.all fun b => b == 0x09 || (0x20 ≤ b && b != 0x7F) then
      some (ascii name, value)
    else none

/-- header の行を空の行まで読む。 -/
def headerLines : Nat → List UInt8 → Option (List (String × List UInt8))
  | 0, _ => none
  | fuel + 1, bs => do
    let (l, rest) ← line bs
    if l.isEmpty then pure []
    else
      let h ← headerLine l
      let hs ← headerLines fuel rest
      pure (h :: hs)

/-- 要求の行を読む。 -/
def requestLine (l : List UInt8) : Option (String × List UInt8 × Nat) :=
  match Form.splitOn 0x20 l with
  | [m, target, version] =>
    let minor := match ascii version with
      | "HTTP/1.1" => some 1
      | "HTTP/1.0" => some 0
      | _ => none
    if isToken (ascii m) && !target.isEmpty && target.all (fun b => 0x20 < b && b != 0x7F) then
      minor.map fun n => (ascii m, target, n)
    else none
  | _ => none

/-- 要求の頭を読む。 -/
def parseHead (bs : List UInt8) : Option Head := do
  let (l, rest) ← line bs
  let (m, target, minor) ← requestLine l
  let headers ← headerLines (rest.length + 1) rest
  pure { method := m, target, minor, headers }

/-- 名前（小文字）の値をすべて。 -/
def Head.values (h : Head) (name : String) : List (List UInt8) :=
  (h.headers.filter fun (n, _) => lowerAscii n == name).map (·.2)

/-- 本文の区切り方。`content-length` が読めなければ `none`。 -/
def framing (h : Head) : Option Framing :=
  let te := (h.values "transfer-encoding").getLast?.map fun v => lowerAscii (ascii v)
  if te.any (·.endsWith "chunked") then some .chunked
  else
    match h.values "content-length" with
    | [] => some .none
    | v :: _ =>
      if !v.isEmpty && v.all (fun b => 0x30 ≤ b && b ≤ 0x39) then
        some (.length (v.foldl (fun acc b => acc * 10 + (b.toNat - 0x30)) 0))
      else none

/-- 応答の後もつながりを保つか。HTTP/1.1 は `connection: close` が無ければ保ち、HTTP/1.0 は
`connection: keep-alive` があるときだけ保つ。 -/
def keepAlive (h : Head) : Bool :=
  let conn := (h.values "connection").map fun v => lowerAscii (ascii v)
  if h.minor = 1 then !conn.any (·.splitOn "," |>.any fun t => t.trimAscii.toString == "close")
  else conn.any (·.splitOn "," |>.any fun t => t.trimAscii.toString == "keep-alive")

/-- 16 進の数字の値。 -/
def hexValue (b : UInt8) : Option Nat := Form.hexValue b

/-- chunk に分けた本文を読む。本文と残りの byte を返す。まだ全部届いていなければ `none`。 -/
def dechunk : Nat → List UInt8 → Option (List UInt8 × List UInt8)
  | 0, _ => none
  | fuel + 1, bs => do
    let (l, rest) ← line bs
    let digits := l.takeWhile fun b => (hexValue b).isSome
    if digits.isEmpty then none
    let size := digits.foldl (fun acc b => acc * 16 + (hexValue b).getD 0) 0
    if size = 0 then
      let (_, rest) ← line rest
      pure ([], rest)
    else
      if rest.length < size then none
      let data := rest.take size
      let (_, rest) ← line (rest.drop size)
      let (more, rest) ← dechunk fuel rest
      pure (data ++ more, rest)

/-- 読んだ頭と本文から要求を作る。method、target、header のどれかが使えなければ `none`。 -/
def toRequest (h : Head) (body : List UInt8) : Option Request := do
  let m ← Method.parse? h.method
  let uri ← (Uri.ofBytes h.target).toOption
  let headers ← h.headers.mapM fun (n, v) => do
    let name ← HeaderName.parse? n
    let value ← HeaderValue.ofBytes? v
    pure (name, value)
  pure { method := m, uri, headers, body }

/-- 名前ごとにまとめた header（名前が最初に現れた順）。 -/
def grouped (hs : Headers) : Headers :=
  let names := (hs.map (·.1)).eraseDups
  names.flatMap fun n => hs.filter (·.1 == n)

/-- 応答の byte の列。 -/
def renderResponse (r : Response) (headOnly close : Bool) : List UInt8 :=
  let status := bytesOf ("HTTP/1.1 " ++ toString r.status.code ++ " " ++ r.status.reason?.getD "<none>" ++ "\r\n")
  let headers := (grouped r.headers).flatMap fun (n, v) => bytesOf (n.name ++ ": ") ++ v.bytes ++ bytesOf "\r\n"
  let connection := if close then bytesOf "connection: close\r\n" else []
  let bodyless := r.status.code < 200 || r.status.code == 204
  let length := if bodyless then [] else bytesOf ("content-length: " ++ toString r.body.length ++ "\r\n")
  status ++ headers ++ connection ++ length ++ bytesOf "\r\n" ++ (if headOnly || bodyless then [] else r.body)

/-- 読めない頭への応答。 -/
def badRequest : List UInt8 :=
  bytesOf "HTTP/1.1 400 Bad Request\r\nconnection: close\r\ncontent-length: 0\r\n\r\n"

end HttpRouting.Wire
