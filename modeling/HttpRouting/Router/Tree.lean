import HttpRouting.Router.Table
import HttpRouting.Router.Path
import HttpRouting.Router.Error
import HttpRouting.OpenApi.Config
import HttpRouting.Middleware.Trim
import HttpRouting.Middleware.Fields

/-!
# router の木

router の木は、共有の登録簿（`Registry`：経路の表、OpenAPI の文書、凍結の印）と、その上の
router（`Router`）からなる。router は経路の接頭辞と、登録する処理を包む道具（業務の
middleware、応答への変換、middleware、統計の hook）、文書に足す既定の引数、preflight で
許す追加の header 名を持つ。子の router はこれらを親から写し、設定の分を後ろに足す。

業務の処理の型 `T` は木ごとに決める。応答への変換（`T → Handler`）が `T` を処理にする。

## 経路の登録（`Router.endpoint`）

1. 鍵は `Path.join 接頭辞 下位の経路`。凍結していれば誤り。
2. 説明があればそれを作る。作れなければ誤りで、何も登録しない。
3. 処理を包む。内側から、業務の middleware（最初のものが外側）、変換、middleware（最初の
   ものが外側）、統計の hook の順。
4. 表の専用の枠に置き、追加の header 名を足す。
5. 説明に既定の引数を足して文書に置く。

`Router.handle` は method を問わない枠に処理を置く。鍵は `Path.joinMount` で作るので、
`/` で終わる下位の経路はその下すべてを受ける mount になる。

根の router（`Router.root`）を作るときは、文書の設定、変換の有無、接頭辞の有無の順に
確かめる。根の middleware は空白を削るもの、要求の項目を記録するもの、設定のものの順になる。
-/

namespace HttpRouting

open OpenApi

/-- router の木が共有する登録簿。 -/
structure Registry where
  table : Table := []
  document : Document
  frozen : Bool := false

/-- 処理が読む目録。 -/
def Registry.catalog (r : Registry) : Catalog := ⟨r.table.listing, r.document⟩

/-- router の設定。 -/
structure RouterConfig (T : Type) where
  pathPrefix : String := ""
  generic : List (T → T) := []
  middleware : List Middleware := []
  defaultParameters : List Parameter := []
  allowedHeaders : List String := []
  conversion : Option (T → Handler) := none
  stats : Option StatsHook := none

/-- router。 -/
structure Router (T : Type) where
  pathPrefix : String
  generic : List (T → T) := []
  middleware : List Middleware := []
  defaultParameters : List Parameter := []
  allowedHeaders : List String := []
  conversion : T → Handler
  stats : Option StatsHook := none

/-- 経路の説明を作った結果。作れなければ理由の文。 -/
abbrev Documentation := Except String Operation

namespace Router

variable {T : Type}

/-- 子の router。 -/
def subrouter (r : Router T) (c : RouterConfig T) : Router T :=
  { pathPrefix := Path.join r.pathPrefix c.pathPrefix
    generic := r.generic ++ c.generic
    middleware := r.middleware ++ c.middleware
    defaultParameters := r.defaultParameters ++ c.defaultParameters
    allowedHeaders := r.allowedHeaders ++ c.allowedHeaders
    conversion := c.conversion.getD r.conversion
    stats := c.stats.orElse fun _ => r.stats }

/-- 業務の処理を、登録する処理に包む。 -/
def wrap (r : Router T) (m : Method) (key : String) (h : T) : Handler :=
  let inner := Middleware.apply (r.conversion (r.generic.foldr (fun g acc => g acc) h)) r.middleware
  match r.stats with
  | some s => s inner m key
  | none => inner

/-- method の専用の枠に経路を登録する。 -/
def endpoint (r : Router T) (reg : Registry) (sub : String) (m : Method) (h : T)
    (doc : Option Documentation) : Except Error Registry := do
  let key := Path.join r.pathPrefix sub
  if reg.frozen then throw (.frozen m.name key)
  let op ← match doc with
    | none => pure none
    | some (.ok op) => pure (some op)
    | some (.error reason) => throw (.documentation m.name key reason)
  let table := reg.table.addEndpoint key (.exact m) (r.wrap m key h) r.allowedHeaders
  let document := match op with
    | some op => (reg.document.merge key m { op with parameters := op.parameters ++ r.defaultParameters }).1
    | none => reg.document
  pure { reg with table, document }

/-- method を問わない枠に処理を置く。 -/
def handle (r : Router T) (reg : Registry) (sub : String) (h : Handler) : Except Error Registry :=
  let key := Path.joinMount r.pathPrefix sub
  if reg.frozen then .error (.frozen Slot.any.name key)
  else .ok { reg with table := reg.table.addHandler key .any h }

/-- 根の router と、空の登録簿を作る。 -/
def root (c : RouterConfig T) (doc : OpenApi.Config) : Except Error (Router T × Registry) := do
  doc.validate
  let conversion ← match c.conversion with
    | some f => pure f
    | none => throw .missingConversion
  if c.pathPrefix.isEmpty then throw .missingPathPrefix
  let router : Router T :=
    { pathPrefix := Path.join c.pathPrefix ""
      generic := c.generic
      middleware := [Trim.middleware, RequestFields.middleware] ++ c.middleware
      defaultParameters := c.defaultParameters
      allowedHeaders := c.allowedHeaders
      conversion
      stats := c.stats }
  pure (router, { document := Document.ofConfig doc })

end Router

end HttpRouting
