import HttpRouting.Envelope
import HttpRouting.OpenApi.Codec

/-!
# 内省の処理

router 自身について答える処理。

* `Introspect.status` — データのない成功。
* `Introspect.routes` — 経路ごとの枠の名前の object をデータとする成功。
* `Introspect.openapi` — OpenAPI の文書を JSON の本文で返す。
-/

namespace HttpRouting.Introspect

/-- 生きていることだけを答える。 -/
def status : EnvelopeHandler := fun _ => pure (.ok {})

/-- 経路の一覧の JSON。 -/
def routesJson (routes : List (String × List String)) : Json :=
  .obj (routes.map fun (p, slots) => (p, .arr (slots.map .str)))

/-- 経路の一覧を答える。 -/
def routes : EnvelopeHandler := fun _ => do
  let c ← Serve.catalog
  pure (Reply.json (.ok (routesJson c.routes)))

/-- OpenAPI の文書を答える。 -/
def openapi : Handler := fun _ => do
  let c ← Serve.catalog
  pure (Response.json (Utf8.encode c.document.toJson.compact))

end HttpRouting.Introspect
