import HttpRouting.OpenApi.Document
import HttpRouting.Json.Shape
import HttpRouting.Json.Printer

/-!
# OpenAPI の文書と JSON

書くとき（`toJson`）、項目は宣言順に並ぶ。空の列と無い値は書かない。ただし操作の `responses` と
引数の `required` はいつも書く。

読むとき（`Shape`）、必須の項目は文書の `openapi` と `info`、説明の三つ、分類の `name`、
引数の `name` と `in`、応答の `description` である。ほかは欠けてよい。`null` は無い値として
読む。知らない名前は読み捨てる。経路の項目は五つの枠のほかを捨てる。
-/

namespace HttpRouting.OpenApi

open Json

/-- 無い値の項目は書かない。 -/
def optField (k : String) : Option Json → List (String × Json)
  | some v => [(k, v)]
  | none => []

/-- 空の列の項目は書かない。 -/
def listField (k : String) (xs : List Json) : List (String × Json) :=
  if xs.isEmpty then [] else [(k, .arr xs)]

def Info.toJson (i : Info) : Json :=
  .obj [("title", .str i.title), ("description", .str i.description), ("version", .str i.version)]

def Tag.toJson (t : Tag) : Json :=
  .obj ([("name", .str t.name)] ++ optField "description" (t.description.map .str))

def Parameter.toJson (p : Parameter) : Json :=
  .obj ([("name", .str p.name), ("in", .str p.location.name)] ++
    optField "description" (p.description.map .str) ++ [("required", .bool p.required)] ++
    optField "schema" p.schema)

def ApiResponse.toJson (r : ApiResponse) : Json :=
  .obj ([("description", .str r.description)] ++ optField "content" r.content)

def Operation.toJson (o : Operation) : Json :=
  .obj (listField "tags" (o.tags.map .str) ++ optField "summary" (o.summary.map .str) ++
    optField "description" (o.description.map .str) ++
    optField "operationId" (o.operationId.map .str) ++
    listField "parameters" (o.parameters.map Parameter.toJson) ++
    [("responses", .obj (o.responses.map fun (k, r) => (k, r.toJson)))])

def PathItem.toJson (p : PathItem) : Json :=
  .obj (optField "get" (p.get.map Operation.toJson) ++ optField "post" (p.post.map Operation.toJson) ++
    optField "put" (p.put.map Operation.toJson) ++ optField "patch" (p.patch.map Operation.toJson) ++
    optField "delete" (p.delete.map Operation.toJson))

def Document.toJson (d : Document) : Json :=
  .obj ([("openapi", .str d.openapi), ("info", d.info.toJson)] ++
    listField "tags" (d.tags.map Tag.toJson) ++
    [("paths", .obj (d.paths.map fun (k, p) => (k, p.toJson)))])

/-! ## 読むときの形 -/

def Info.shape : Shape :=
  .record "Info" [("title", .text, true), ("description", .text, true), ("version", .text, true)]

def Tag.shape : Shape :=
  .record "Tag" [("name", .text, true), ("description", .optional .text, false)]

def ParameterLocation.shape : Shape := .choice "ParameterLocation" ParameterLocation.names

def Parameter.shape : Shape :=
  .record "Parameter" [("name", .text, true), ("in", ParameterLocation.shape, true),
    ("description", .optional .text, false), ("required", .flag, false),
    ("schema", .optional .any, false)]

def ApiResponse.shape : Shape :=
  .record "ApiResponse" [("description", .text, true), ("content", .optional .any, false)]

def Operation.shape : Shape :=
  .record "Operation" [("tags", .list .text, false), ("summary", .optional .text, false),
    ("description", .optional .text, false), ("operationId", .optional .text, false),
    ("parameters", .list Parameter.shape, false), ("responses", .dict ApiResponse.shape, false)]

def PathItem.shape : Shape :=
  .record "PathItem" [("get", .optional Operation.shape, false), ("post", .optional Operation.shape, false),
    ("put", .optional Operation.shape, false), ("patch", .optional Operation.shape, false),
    ("delete", .optional Operation.shape, false)]

def Document.shape : Shape :=
  .record "Document" [("openapi", .text, true), ("info", Info.shape, true), ("tags", .list Tag.shape, false),
    ("paths", .dict PathItem.shape, false)]

/-! ## 正規形の値から -/

/-- 文字列の項目。 -/
def textOf (j : Json) (k : String) : String := ((j.get? k).bind Json.str?).getD ""

/-- 省略できる文字列の項目。 -/
def optTextOf (j : Json) (k : String) : Option String := (j.get? k).bind Json.str?

def Info.ofJson (j : Json) : Info := ⟨textOf j "title", textOf j "description", textOf j "version"⟩

def Tag.ofJson (j : Json) : Tag := ⟨textOf j "name", optTextOf j "description"⟩

/-- 省略できる値の項目（`null` は無い）。 -/
def optValueOf (j : Json) (k : String) : Option Json :=
  match j.get? k with
  | some .null => none
  | some v => some v
  | none => none

def Parameter.ofJson (j : Json) : Parameter :=
  { name := textOf j "name"
    location := (ParameterLocation.ofName? (textOf j "in")).getD .query
    description := optTextOf j "description"
    required := ((j.get? "required").bind Json.bool?).getD false
    schema := optValueOf j "schema" }

def ApiResponse.ofJson (j : Json) : ApiResponse := ⟨textOf j "description", optValueOf j "content"⟩

/-- 列の項目。 -/
def listOf (j : Json) (k : String) : List Json := ((j.get? k).bind Json.arr?).getD []

/-- 表の項目。 -/
def entriesOf (j : Json) (k : String) : List (String × Json) :=
  match j.get? k with
  | some (.obj fs) => fs
  | _ => []

def Operation.ofJson (j : Json) : Operation :=
  { tags := (listOf j "tags").filterMap Json.str?
    summary := optTextOf j "summary"
    description := optTextOf j "description"
    operationId := optTextOf j "operationId"
    parameters := (listOf j "parameters").map Parameter.ofJson
    responses := (entriesOf j "responses").map fun (k, v) => (k, ApiResponse.ofJson v) }

def PathItem.ofJson (j : Json) : PathItem :=
  let slot (k : String) : Option Operation := (optValueOf j k).map Operation.ofJson
  ⟨slot "get", slot "post", slot "put", slot "patch", slot "delete"⟩

def Document.ofJson (j : Json) : Document :=
  { openapi := textOf j "openapi"
    info := Info.ofJson ((j.get? "info").getD .null)
    tags := (listOf j "tags").map Tag.ofJson
    paths := (entriesOf j "paths").map fun (k, v) => (k, PathItem.ofJson v) }

/-! ## 読み書き -/

/-- 文書を JSON の文字列にする。 -/
def Document.render (d : Document) : String := d.toJson.compact

/-- 文字列から文書を読む。 -/
def Document.parse (text : String) : Except DecodeError Document :=
  (Document.shape.readString text).map Document.ofJson

/-- 値から操作を読む。 -/
def Operation.ofValue (v : Json) : Except DecodeError Operation :=
  match Operation.shape.ofValue v with
  | .ok j => .ok (Operation.ofJson j)
  | .error p => .error ⟨p, none⟩

/-- 値から引数を読む。 -/
def Parameter.ofValue (v : Json) : Except DecodeError Parameter :=
  match Parameter.shape.ofValue v with
  | .ok j => .ok (Parameter.ofJson j)
  | .error p => .error ⟨p, none⟩

/-- 値から置き場所を読む。 -/
def ParameterLocation.ofValue (v : Json) : Except DecodeError ParameterLocation :=
  match ParameterLocation.shape.ofValue v with
  | .ok j => .ok ((ParameterLocation.ofName? ((Json.str? j).getD "")).getD .query)
  | .error p => .error ⟨p, none⟩

end HttpRouting.OpenApi
