import HttpRouting.Handler
import HttpRouting.Text.Blank

/-!
# 空白を削る middleware

要求を次の処理に渡す前に、query の値と header の値の両端の空白を削る。

* query — 値のどれかが変わるときだけ、組の列を書き直す（名前は変えない）。書き直すと
  query は form の符号化で書き直される。
* header — 文字列として読める（見える ASCII の）値だけを削る。削ると変わる値が無ければ要求は
  そのまま。あれば、名前と削った値の組を並びの順に取り出し、並びを空にしてから順に足し直す。
-/

namespace HttpRouting.Trim

/-- query の値の両端の空白を削る。どの値も変わらなければ要求はそのまま。 -/
def query (r : Request) : Request :=
  let pairs := r.queryPairs
  if pairs.all fun (_, v) => trimBlank v == v then r
  else r.setQuery (pairs.map fun (k, v) => (k, trimBlank v))

/-- 文字列として読めて、両端を削ると変わる値か。 -/
def untrimmed (v : HeaderValue) : Bool :=
  match v.text? with
  | some s => trimBlank s != s
  | none => false

/-- header の値の両端の空白を削る。文字列として読めて削ると変わる値だけを、削った文字列の値にする。
削った文字列が値として使えなければそのまま。 -/
def headerValue (v : HeaderValue) : HeaderValue :=
  match v.text? with
  | some s => if trimBlank s != s then (HeaderValue.parse? (trimBlank s)).getD v else v
  | none => v

/-- すべての header の値を削る。削ると変わる値が無ければ要求はそのまま。あれば、名前と削った値の
組を並びの順に取り出し、並びを空にしてから、その順に足し直す。 -/
def headers (r : Request) : Request :=
  if !r.headers.any (fun (_, v) => untrimmed v) then r
  else
    let trimmed := r.headers.map fun (n, v) => (n, headerValue v)
    { r with headers := trimmed.foldl (fun hs (n, v) => hs.append n v) [] }

/-- query と header の空白を削ってから次の処理に渡す middleware。 -/
def middleware : Middleware := Middleware.around fun req next => next (headers (query req))

end HttpRouting.Trim
