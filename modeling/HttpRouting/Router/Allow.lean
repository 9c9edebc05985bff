import HttpRouting.Http.Method
import HttpRouting.Http.Request
import HttpRouting.Http.Response

/-!
# 許す method と header の一覧

経路に登録された method から、preflight と 405 の応答に載せる一覧を作る。

* `allowList` — 登録された method に OPTIONS を足し、名前の byte 順に並べて重複を除き、`,` でつなぐ。
* `allowedHeaders` — 既定の七つの header 名の後に、ASCII の大文字小文字を無視して
  まだ無い名前だけを順に足し、`,` でつなぐ。
* `preflight` — OPTIONS の要求に、経路の method と header の一覧で答える（状態 200、本文なし）。
  `access-control-allow-origin` は要求の `origin` の値（文字列として読めて空でないとき）、
  そうでなければ `*` である。
* `methodNotAllowed` — 状態 405 と `allow` の一覧。
-/

namespace HttpRouting

/-- 名前の byte 順に並べ、重複を除く。 -/
def sortedNames (names : List String) : List String :=
  (names.mergeSort fun a b => decide (a ≤ b)).eraseDups

/-- 登録された method と OPTIONS の名前を、byte 順に重複なく `,` でつないだもの。 -/
def allowList (methods : List Method) : String :=
  ",".intercalate (sortedNames (methods.map (·.name) ++ [Method.options.name]))

/-- preflight がいつも許す header 名。 -/
def defaultAllowedHeaders : List String :=
  ["Content-Type", "Cache-Control", "Authorization", "X-Amz-Date", "X-Api-Key",
    "X-Amz-Security-Token", "X-Requested-With"]

/-- ASCII の大文字小文字を無視して等しい。 -/
def sameIgnoringCase (a b : String) : Bool := a.toLower == b.toLower

/-- 名前の列に、大文字小文字を無視してまだ無い名前だけを順に足す。 -/
def addHeaderNames (known : List String) : List String → List String
  | [] => known
  | h :: hs =>
    if known.any (sameIgnoringCase · h) then addHeaderNames known hs
    else addHeaderNames (known ++ [h]) hs

/-- 既定の header 名に `extra` を足して `,` でつないだもの。 -/
def allowedHeaders (extra : List String) : String :=
  ",".intercalate (addHeaderNames defaultAllowedHeaders extra)

/-- preflight の応答が許す時間（秒）。 -/
def preflightMaxAge : Nat := 600

/-- OPTIONS の要求への応答。 -/
def preflight (req : Request) (methods : List Method) (extra : List String) : Response :=
  let origin := match req.header? "origin" with
    | some o => if o.isEmpty then "*" else o
    | none => "*"
  let allow := allowList methods
  (Response.builder
    |>.header "access-control-allow-headers" (allowedHeaders extra)
    |>.header "access-control-allow-methods" allow
    |>.header "allow" allow
    |>.header "access-control-allow-origin" origin
    |>.header "access-control-allow-credentials" "true"
    |>.header "content-type" "application/json"
    |>.header "access-control-max-age" (toString preflightMaxAge)).noBody

/-- 許されない method への応答。 -/
def methodNotAllowed (methods : List Method) : Response :=
  (Response.builder.withStatus Status.methodNotAllowed |>.header "allow" (allowList methods)).noBody

end HttpRouting
