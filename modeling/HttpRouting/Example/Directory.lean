import HttpRouting.Server.Basic
import HttpRouting.Introspect
import HttpRouting.Json.Reader

/-!
# 例：利用者の名簿

router の使い方を示す小さなサービス。根は `/` で、応答は封筒に入れ、統計は記録だけをする。
文書は `directory`（「Users and their domains」、版 `0.1.0`、分類 `users`）。

* `GET /status`、`GET /routes`、`/openapi.json` — 内省の処理。
* `GET /api/users` — 名簿の先頭 `limit` 人（既定 10）。`limit` は query の最初の `limit` の値で、
  十進の数でなければ 400。付帯情報は `{"limit": n}`。`/api` の経路の文書には `Indent` header の
  引数が付く。
* `POST /api/protected/users` — 本文の JSON の文字列 `name` から利用者を作り、201 で
  `{"id":99,"name":…}` を返す。本文が JSON でなければ 400（読めなかった理由）、`name` が
  なければ 400 `name required`。`authorization` が `Bearer ` で始まらなければ 401。preflight は
  `X-Tenant` header も許す。

server は `:3000` で待ち受ける。
-/

namespace HttpRouting.Directory

open OpenApi

/-- 名簿。 -/
def users : List String := ["alice", "bob", "carol"]

/-- 十進の数（`+` を前に付けてよい、64 bit に収まる）を読む。 -/
def parseCount (s : String) : Option Nat :=
  let ds := match s.toList with
    | '+' :: ds => ds
    | ds => ds
  if ds.isEmpty || !ds.all Char.isDigit then none
  else
    let v := ds.foldl (fun acc c => acc * 10 + (c.toNat - '0'.toNat)) 0
    if v < Nat.pow 2 64 then some v else none

/-- 名簿の先頭 `n` 人の成功。 -/
def listed (n : Nat) : Outcome :=
  .ok ((Reply.ok (.arr ((users.take n).map .str))).withMeta (Json.object [("limit", .int n)]))

/-- 名簿を返す。 -/
def listUsers : EnvelopeHandler := fun req => pure <|
  match req.queryPairs.find? (·.1 == "limit") with
  | none => listed 10
  | some (_, v) =>
    match parseCount v with
    | some n => listed n
    | none => .error (Failure.badRequest "limit must be a number")

/-- 利用者を作る。 -/
def createUser : EnvelopeHandler := fun req => pure <|
  match Json.parse req.body with
  | .error e => .error (Failure.badRequest e.message)
  | .ok body =>
    match body.get? "name" with
    | some (.str name) =>
      .ok ((Reply.ok (Json.object [("id", .int 99), ("name", .str name)])).withStatus Status.created)
    | _ => .error (Failure.badRequest "name required")

/-- `authorization` が `Bearer ` で始まる要求だけを通す。 -/
def requireBearer : Middleware := Middleware.around fun req next =>
  match req.header? "authorization" with
  | some v => if v.startsWith "Bearer " then next req else pure (Response.ofStatus Status.unauthorized)
  | none => pure (Response.ofStatus Status.unauthorized)

/-- 文書の設定。 -/
def docConfig : Config := (Config.new "directory" "Users and their domains" "0.1.0").tag (Tag.new "users")

/-- 経路を登録した登録簿。 -/
def registry : Except Error Registry := do
  let (root, reg) ← Router.root
    { pathPrefix := "/", conversion := some Envelope.toHandler, stats := some StatsHook.trace } docConfig
  let reg ← root.endpoint reg "/status" Method.get Introspect.status none
  let reg ← root.endpoint reg "/routes" Method.get Introspect.routes none
  let reg ← root.handle reg "/openapi.json" Introspect.openapi
  let api := root.subrouter { pathPrefix := "/api", defaultParameters := [Parameter.header "Indent"] }
  let reg ← api.endpoint reg "/users" Method.get listUsers
    (some (.ok ((Operation.new.tag "users").withSummary "List users" |>.parameter (Parameter.query "limit")
      |>.response 200 "the users")))
  let guarded := api.subrouter
    { pathPrefix := "/protected", middleware := [requireBearer], allowedHeaders := ["X-Tenant"] }
  guarded.endpoint reg "/users" Method.post createUser
    (some (.ok ((Operation.new.tag "users").withSummary "Create a user" |>.response 200 "created")))

/-- 待ち受けの番地。 -/
def address : String := ":3000"

/-- `:3000` で待ち受ける server。 -/
def server : Except Error Server := do
  let (s, _) ← (← registry).build ListenAddress.loopbackOnly address none
  pure s

end HttpRouting.Directory
