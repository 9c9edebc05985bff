import HttpRouting.Router.Tree
import HttpRouting.Server.Address

/-!
# server

server は凍結した経路の表で要求に答える（`Server.handle`）。

## 経路の選び方（`Table.resolve`）

要求の経路と同じ鍵があればそれ。無ければ、`/` で終わる鍵（mount）のうち要求の経路の頭に
なる最長のもの。どちらも無ければ 404。

## 答え方（`Table.dispatch`）

選んだ経路に要求の method の専用の枠があればその処理、無ければ method を問わない枠の処理が
答える。どちらも無ければ、OPTIONS の要求には preflight の応答、ほかは 405 を返す。

処理にかかった時間が書き込みの期限を超えれば、応答の代わりに 503 を返す。

## 期限（`Timeouts`）

header を読む期限（既定 5 秒）、書き込みの期限（既定 90 秒）、つながりが遊んでよい時間
（既定 10 分）。0 は既定の値に直す。
-/

namespace HttpRouting

/-- server の期限（ミリ秒）。 -/
structure Timeouts where
  readMs : Nat := 5000
  writeMs : Nat := 90000
  idleMs : Nat := 600000
  deriving DecidableEq, Repr

/-- 0 の期限を既定の値に直す。 -/
def Timeouts.normalized (t : Timeouts) : Timeouts :=
  let d : Timeouts := {}
  { readMs := if t.readMs = 0 then d.readMs else t.readMs
    writeMs := if t.writeMs = 0 then d.writeMs else t.writeMs
    idleMs := if t.idleMs = 0 then d.idleMs else t.idleMs }

namespace Table

/-- 要求の経路に答える鍵。 -/
def resolve (t : Table) (path : String) : Option String :=
  if (t.entry? path).isSome then some path
  else
    let mounts := (t.paths.filter Path.isMount).mergeSort fun a b => b.utf8ByteSize ≤ a.utf8ByteSize
    mounts.find? (path.startsWith ·)

/-- 要求に答える。 -/
def dispatch (t : Table) (req : Request) : Serve Response :=
  match t.resolve req.path with
  | none => pure (Response.ofStatus Status.notFound)
  | some route =>
    match (t.handler? route (.exact req.method)).orElse fun _ => t.handler? route .any with
    | some h => h req
    | none =>
      let methods := t.methods route
      if req.method = Method.options then pure (preflight req methods (t.allowedHeaders route))
      else pure (methodNotAllowed methods)

end Table

/-- 凍結した経路の表で答える server。 -/
structure Server where
  address : ListenAddress
  table : Table
  catalog : Catalog
  timeouts : Timeouts

namespace Server

/-- 要求に答える。書き込みの期限を超えれば 503。 -/
def handle (s : Server) (req : Request) : Response :=
  let t := (s.table.dispatch req).run s.catalog
  if t.elapsed > s.timeouts.writeMs then Response.ofStatus Status.serviceUnavailable else t.value

end Server

/-- 登録簿を凍結して server を作る。番地を先に確かめ、すでに凍結していれば誤り。
`interfaces` は番地の scope の名前を引く interface の表。 -/
def Registry.build (reg : Registry) (interfaces : List (String × Nat)) (address : String)
    (timeouts : Option Timeouts) : Except Error (Server × Registry) := do
  let a ← match ListenAddress.parse? interfaces address with
    | some a => pure a
    | none => throw (.invalidAddress address)
  if reg.frozen then throw .alreadyBuilt
  let reg := { reg with frozen := true }
  pure (⟨a, reg.table, reg.catalog, (timeouts.getD {}).normalized⟩, reg)

end HttpRouting
