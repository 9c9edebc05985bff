import HttpRouting.Handler
import HttpRouting.Json.Printer

/-!
# 応答の封筒

業務の処理は応答そのものではなく、結果（`Outcome`）を返す。成功は `Reply`（データ、付帯情報、
状態）、失敗は `Failure`（状態と文）である。結果は次の形の JSON の本文で返る。

* 成功 — `{"success":true,"data":…,"meta":…}`。データと付帯情報は無ければ書かない（`null` は書く）。
* 失敗 — `{"success":false,"error":{"message":…}}`。

要求の `indent` header の最初の値が `1 t T true TRUE True` のどれかなら、一段ごとに tab で
字下げして書く。この判定は処理を呼ぶ前の要求で行う。
-/

namespace HttpRouting

/-- 成功の結果。 -/
structure Reply where
  data : Option Json := none
  metadata : Option Json := none
  status : Status := Status.ok

namespace Reply

/-- データのある成功（状態 200）。 -/
def ok (data : Json) : Reply := { data := some data }

/-- データのない成功。 -/
def new (s : Status) : Reply := { status := s }

/-- 付帯情報を置く。 -/
def withMeta (r : Reply) (m : Json) : Reply := { r with metadata := some m }

/-- 状態を置く。 -/
def withStatus (r : Reply) (s : Status) : Reply := { r with status := s }

end Reply

/-- 失敗の結果。 -/
structure Failure where
  status : Status
  message : String

namespace Failure

def badRequest (m : String) : Failure := ⟨Status.badRequest, m⟩
def unauthorized (m : String) : Failure := ⟨Status.unauthorized, m⟩
def internal (m : String) : Failure := ⟨Status.internalServerError, m⟩

/-- 「番号 理由: 文」。 -/
def display (f : Failure) : String := f.status.display ++ ": " ++ f.message

end Failure

/-- 業務の処理の結果。 -/
abbrev Outcome := Except Failure Reply

/-- JSON にした値をデータとする成功。JSON にできなければ状態 500 の失敗。 -/
def Reply.json (encoded : Except String Json) : Outcome :=
  match encoded with
  | .ok v => .ok (Reply.ok v)
  | .error m => .error (Failure.internal m)

/-- 業務の処理。 -/
abbrev EnvelopeHandler := Request → Serve Outcome

namespace Envelope

/-- 無い値の項目は書かない。 -/
def entry (k : String) : Option Json → List (String × Json)
  | some v => [(k, v)]
  | none => []

/-- 結果の本文の JSON。 -/
def body : Outcome → Json
  | .ok r => .obj ([("success", .bool true)] ++ entry "data" r.data ++ entry "meta" r.metadata)
  | .error f => .obj [("success", .bool false), ("error", .obj [("message", .str f.message)])]

/-- 結果の状態。 -/
def status : Outcome → Status
  | .ok r => r.status
  | .error f => f.status

/-- 結果を応答にする。 -/
def render (o : Outcome) (pretty : Bool) : Response :=
  let text := if pretty then (body o).pretty "\t" else (body o).compact
  (Response.builder.withStatus (status o)).json (Utf8.encode text)

/-- 字下げを求める `indent` の値。 -/
def indentValues : List String := ["1", "t", "T", "true", "TRUE", "True"]

/-- 要求が字下げを求めているか。 -/
def wantsIndent (r : Request) : Bool :=
  match r.header? "indent" with
  | some v => indentValues.contains v
  | none => false

/-- 業務の処理を、結果を封筒に入れて返す処理にする。 -/
def toHandler (h : EnvelopeHandler) : Handler := fun req => do
  let pretty := wantsIndent req
  let o ← h req
  pure (render o pretty)

/-- 要求と次の業務の処理から結果を作る関数を、業務の処理を包む関数にする。 -/
def around (f : Request → EnvelopeHandler → Serve Outcome) : EnvelopeHandler → EnvelopeHandler :=
  fun next req => f req next

end Envelope

end HttpRouting
