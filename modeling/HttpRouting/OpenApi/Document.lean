import HttpRouting.Json.Value
import HttpRouting.Http.Method

/-!
# OpenAPI の文書

サービスの説明（`Info`）、分類（`Tag`）、経路ごとの操作（`PathItem`、`Operation`）からなる文書。
経路と応答の表は名前の順に並ぶ（`Keyed`）。

経路の項目は GET、POST、PUT、PATCH、DELETE の五つの枠だけを持つ。ほかの method には枠がなく、
`PathItem.set` はそれを `none` で知らせる。
-/

namespace HttpRouting.OpenApi

/-- 文書の版。 -/
def version : String := "3.0.3"

/-- サービスの説明。 -/
structure Info where
  title : String
  description : String
  version : String

/-- 操作の分類。 -/
structure Tag where
  name : String
  description : Option String := none

/-- 名前だけの分類。 -/
def Tag.new (name : String) : Tag := ⟨name, none⟩

/-- 説明を付ける。 -/
def Tag.describe (t : Tag) (d : String) : Tag := { t with description := some d }

/-- 引数の置き場所。 -/
inductive ParameterLocation where
  | query
  | header
  | path
  | cookie
  deriving DecidableEq, Repr

/-- 置き場所の名前。 -/
def ParameterLocation.name : ParameterLocation → String
  | .query => "query"
  | .header => "header"
  | .path => "path"
  | .cookie => "cookie"

/-- 置き場所の名前の一覧（宣言順）。 -/
def ParameterLocation.names : List String := ["query", "header", "path", "cookie"]

/-- 名前から置き場所。 -/
def ParameterLocation.ofName? : String → Option ParameterLocation
  | "query" => some .query
  | "header" => some .header
  | "path" => some .path
  | "cookie" => some .cookie
  | _ => none

/-- 操作の引数。 -/
structure Parameter where
  name : String
  location : ParameterLocation
  description : Option String := none
  required : Bool := false
  schema : Option Json := none

namespace Parameter

/-- 置き場所を決めた引数。 -/
def new (name : String) (location : ParameterLocation) : Parameter := { name, location }

/-- query の引数。 -/
def query (name : String) : Parameter := new name .query

/-- header の引数。 -/
def header (name : String) : Parameter := new name .header

/-- 必須にする。 -/
def require (p : Parameter) : Parameter := { p with required := true }

/-- 説明を付ける。 -/
def describe (p : Parameter) (d : String) : Parameter := { p with description := some d }

/-- schema を付ける。 -/
def withSchema (p : Parameter) (s : Json) : Parameter := { p with schema := some s }

end Parameter

/-- 応答の説明。 -/
structure ApiResponse where
  description : String
  content : Option Json := none

/-- 一つの操作の説明。応答は状態の番号（十進の文字列）の順に並ぶ。 -/
structure Operation where
  tags : List String := []
  summary : Option String := none
  description : Option String := none
  operationId : Option String := none
  parameters : List Parameter := []
  responses : List (String × ApiResponse) := []

namespace Operation

/-- 何も書いていない操作。 -/
def new : Operation := {}

def withSummary (o : Operation) (s : String) : Operation := { o with summary := some s }
def withDescription (o : Operation) (s : String) : Operation := { o with description := some s }
def withOperationId (o : Operation) (s : String) : Operation := { o with operationId := some s }

/-- 分類を後ろに足す。 -/
def tag (o : Operation) (t : String) : Operation := { o with tags := o.tags ++ [t] }

/-- 引数を後ろに足す。 -/
def parameter (o : Operation) (p : Parameter) : Operation := { o with parameters := o.parameters ++ [p] }

/-- 状態 `status` の応答の説明を置く。同じ状態の説明は置き換わる。 -/
def response (o : Operation) (status : Nat) (d : String) : Operation :=
  { o with responses := Keyed.insert (toString status) ⟨d, none⟩ o.responses }

end Operation

/-- 一つの経路の操作。 -/
structure PathItem where
  get : Option Operation := none
  post : Option Operation := none
  put : Option Operation := none
  patch : Option Operation := none
  delete : Option Operation := none

namespace PathItem

/-- 枠が一つも埋まっていない。 -/
def isEmpty (item : PathItem) : Bool :=
  item.get.isNone && item.post.isNone && item.put.isNone && item.patch.isNone && item.delete.isNone

/-- method の枠にある操作。枠のない method では `none`。 -/
def operation (item : PathItem) (m : Method) : Option Operation :=
  match m.name with
  | "GET" => item.get
  | "POST" => item.post
  | "PUT" => item.put
  | "PATCH" => item.patch
  | "DELETE" => item.delete
  | _ => none

/-- method の枠に操作を置く。枠のない method なら `none`。 -/
def set (item : PathItem) (m : Method) (op : Operation) : Option PathItem :=
  match m.name with
  | "GET" => some { item with get := some op }
  | "POST" => some { item with post := some op }
  | "PUT" => some { item with put := some op }
  | "PATCH" => some { item with patch := some op }
  | "DELETE" => some { item with delete := some op }
  | _ => none

end PathItem

/-- 文書。経路は名前の順に並ぶ。 -/
structure Document where
  openapi : String
  info : Info
  tags : List Tag := []
  paths : List (String × PathItem) := []

end HttpRouting.OpenApi
