import HttpRouting.OpenApi.Codec
import HttpRouting.Router.Error

/-!
# 文書の設定と文書の組み立て

文書の設定は、サービスの名前、説明、版と分類の一覧である。根の router を作るとき、名前、
説明、版の順に空でないことを確かめる（`Config.validate`）。

経路を登録するたびに、その操作を文書の経路の項目に置く（`Document.merge`）。枠のない method
の操作は置かれず、そのために空の項目ができたなら項目ごと取り除く。
-/

namespace HttpRouting.OpenApi

/-- 文書の設定。どの項目も欠けてよい（空になる）。 -/
structure Config where
  serviceName : String := ""
  description : String := ""
  version : String := ""
  tags : List Tag := []

namespace Config

/-- 名前、説明、版だけの設定。 -/
def new (serviceName description version : String) : Config := { serviceName, description, version }

/-- 分類を後ろに足す。 -/
def tag (c : Config) (t : Tag) : Config := { c with tags := c.tags ++ [t] }

/-- 名前、説明、版の順に、最初に空のものを誤りにする。 -/
def validate (c : Config) : Except Error Unit :=
  if c.serviceName.isEmpty then .error (.missingDocField "service name")
  else if c.description.isEmpty then .error (.missingDocField "description")
  else if c.version.isEmpty then .error (.missingDocField "version")
  else .ok ()

/-- 読むときの形。`null` は欠けた値ではなく型の誤りになる。 -/
def shape : Json.Shape :=
  .record "DocConfig" [("service_name", .text, false), ("description", .text, false),
    ("version", .text, false), ("tags", .list Tag.shape, false)]

/-- 正規形の値から。 -/
def ofJson (j : Json) : Config :=
  { serviceName := textOf j "service_name", description := textOf j "description",
    version := textOf j "version", tags := (listOf j "tags").map Tag.ofJson }

/-- 文字列から設定を読む。 -/
def parse (text : String) : Except Json.DecodeError Config :=
  (shape.readString text).map ofJson

end Config

namespace Document

/-- 設定から、経路のない文書を作る。 -/
def ofConfig (c : Config) : Document :=
  { openapi := version, info := ⟨c.serviceName, c.description, c.version⟩, tags := c.tags }

/-- 経路 `path` の method の枠に操作を置く。置けたかどうかも返す。 -/
def merge (d : Document) (path : String) (m : Method) (op : Operation) : Document × Bool :=
  let item := (Keyed.find? path d.paths).getD {}
  match item.set m op with
  | some item => ({ d with paths := Keyed.insert path item d.paths }, true)
  | none =>
    if item.isEmpty then ({ d with paths := Keyed.erase path d.paths }, false)
    else (d, false)

end Document

end HttpRouting.OpenApi
