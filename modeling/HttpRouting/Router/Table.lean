import HttpRouting.Handler
import HttpRouting.Router.Slot
import HttpRouting.Router.Allow
import HttpRouting.Data.Keyed

/-!
# 経路の表

経路の鍵ごとに、枠ごとの処理と、preflight で許す追加の header 名を持つ。鍵は名前の順に並ぶ。

* `addHandler` — 枠に処理を置く（同じ枠の処理は置き換わる）。置き換えたかどうかは、置く前の
  表の `occupied` である。
* `addEndpoint` — 枠に処理を置き、追加の header 名のうち（ASCII の大文字小文字を無視して）
  まだ無いものを足す。
* `methods` と `slots` — 経路の専用の枠の method と、すべての枠を名前の順に並べたもの。
-/

namespace HttpRouting

/-- 一つの経路の中身。 -/
structure Entry where
  handlers : List (Slot × Handler) := []
  allowedHeaders : List String := []

namespace Entry

/-- 枠に処理を置く。同じ枠の処理は置き換わる。 -/
def put (e : Entry) (s : Slot) (h : Handler) : Entry :=
  if e.handlers.any (·.1 == s) then
    { e with handlers := e.handlers.map fun p => if p.1 == s then (s, h) else p }
  else { e with handlers := e.handlers ++ [(s, h)] }

/-- 枠の名前の順に並べた枠。 -/
def slots (e : Entry) : List Slot :=
  (e.handlers.map (·.1)).mergeSort fun a b => decide (a.name ≤ b.name)

end Entry

/-- 経路の表。 -/
abbrev Table := List (String × Entry)

namespace Table

/-- 経路の中身。 -/
def entry? (t : Table) (path : String) : Option Entry := Keyed.find? path t

/-- 経路の中身を書き換える（無ければ空の中身から）。 -/
def modify (t : Table) (path : String) (f : Entry → Entry) : Table := Keyed.modify path {} f t

/-- 枠にすでに処理があるか。`addHandler` と `addEndpoint` は、置く前の表でのこの値を返す
（置き換えたかどうか）。 -/
def occupied (t : Table) (path : String) (s : Slot) : Bool :=
  ((t.entry? path).map fun e => e.handlers.any (·.1 == s)).getD false

/-- 枠に処理を置く。 -/
def addHandler (t : Table) (path : String) (s : Slot) (h : Handler) : Table :=
  t.modify path (·.put s h)

/-- 枠に処理を置き、追加の header 名を足す。 -/
def addEndpoint (t : Table) (path : String) (s : Slot) (h : Handler) (headers : List String) : Table :=
  t.modify path fun e => { e with allowedHeaders := addHeaderNames e.allowedHeaders headers }.put s h

/-- 枠の処理。 -/
def handler? (t : Table) (path : String) (s : Slot) : Option Handler :=
  (t.entry? path).bind fun e => (e.handlers.find? (·.1 == s)).map (·.2)

/-- 経路の枠を名前の順に。 -/
def slots (t : Table) (path : String) : List Slot := ((t.entry? path).map Entry.slots).getD []

/-- 経路の専用の枠の method を名前の順に。 -/
def methods (t : Table) (path : String) : List Method := (t.slots path).filterMap Slot.method?

/-- 経路の追加の header 名。 -/
def allowedHeaders (t : Table) (path : String) : List String :=
  ((t.entry? path).map Entry.allowedHeaders).getD []

/-- 経路の鍵（名前の順）。 -/
def paths (t : Table) : List String := t.map (·.1)

/-- 経路ごとの枠の名前。 -/
def listing (t : Table) : List (String × List String) :=
  t.map fun (p, e) => (p, e.slots.map Slot.name)

end Table

end HttpRouting
