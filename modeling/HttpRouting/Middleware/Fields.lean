import HttpRouting.Handler

/-!
# 要求の項目を記録する middleware

要求の header と query の組を、名前ごとの値の列（重複を除き最初に現れた順）として集める
（`RequestFields.ofRequest`）。header の名前は小文字で、次のどれかで始まる名前の header と、
文字列として読めない値は集めない。

`accept`、`authorization`、`cache-`、`connection`、`content-`、`proto`、`sec-`、
`x-forwarded-`、`x-real-ip`

middleware は、集めた項目が空でなければ要求に添えて次の処理に渡す。
-/

namespace HttpRouting

/-- 集めない header の名前の頭。 -/
def ignoredHeaderPrefixes : List String :=
  ["accept", "authorization", "cache-", "connection", "content-", "proto", "sec-", "x-forwarded-",
    "x-real-ip"]

/-- 名前ごとの値の列に、まだ無い値を足す。 -/
def pushUnique (m : List (String × List String)) (k v : String) : List (String × List String) :=
  Keyed.modify k [] (fun vs => if vs.contains v then vs else vs ++ [v]) m

namespace RequestFields

/-- 要求から項目を集める。 -/
def ofRequest (r : Request) : RequestFields :=
  let headers := r.headers.foldl (fun m (n, v) =>
    if ignoredHeaderPrefixes.any (n.name.startsWith ·) then m
    else
      match v.text? with
      | some s => pushUnique m n.name s
      | none => m) []
  let parameters := r.queryPairs.foldl (fun m (k, v) => pushUnique m k v) []
  { headers, parameters }

/-- 項目が空でなければ要求に添えてから次の処理に渡す middleware。 -/
def middleware : Middleware := Middleware.around fun req next =>
  let f := ofRequest req
  next (if f.isEmpty then req else { req with fields := some f })

end RequestFields

end HttpRouting
