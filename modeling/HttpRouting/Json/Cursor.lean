import HttpRouting.Json.Error

/-!
# 読み手の位置と一歩

JSON の読み手は byte 列を前から一度だけ読む。`Cursor` は残りの入力と、読み終えた byte 数、
今の行とその行の頭を持つ。位置（`Position`）はここから決まる。

失敗の位置には二通りある。

* `Reader.fail` — 読み終えたところ。
* `Reader.failAhead` — 次の byte を読んだとしたところ（次の byte が改行なら次の行の 0 桁）。
  次の byte がなければ読み終えたところ。

`Reader` の一歩は、成功しても失敗しても、そこまで読んだ `Cursor` を返す。閉じ括弧の確認を
本体の失敗の後にも行うため（`Reader.closing`）である。

入れ子の深さには上限がある。`Cursor.room` は残りの深さで、0 になる入れ子は
`recursionLimitExceeded` で拒む。
-/

namespace HttpRouting.Json

/-- 読み手の位置。 -/
structure Cursor where
  /-- まだ読んでいない byte。 -/
  rest : List UInt8
  /-- 読み終えた byte 数。 -/
  index : Nat := 0
  /-- 今の行（1 から）。 -/
  line : Nat := 1
  /-- 今の行の頭の byte の番号。 -/
  lineStart : Nat := 0
  /-- あと何段まで入れ子に入れるか。 -/
  room : Nat := 128

namespace Cursor

/-- 入れ子の深さの上限。 -/
def depthLimit : Nat := 128

/-- 入力の頭に置いた位置。 -/
def start (input : List UInt8) : Cursor := { rest := input }

/-- 読み終えたところの位置。 -/
def position (c : Cursor) : Position := ⟨c.line, c.index - c.lineStart⟩

/-- 次の byte を読んだとしたところの位置。 -/
def positionAhead (c : Cursor) : Position :=
  match c.rest with
  | [] => c.position
  | b :: _ => if b = 10 then ⟨c.line + 1, 0⟩ else ⟨c.line, c.index + 1 - c.lineStart⟩

/-- 一 byte 進む。 -/
def advance (c : Cursor) : Cursor :=
  match c.rest with
  | [] => c
  | b :: rest =>
    if b = 10 then { c with rest, index := c.index + 1, line := c.line + 1, lineStart := c.index + 1 }
    else { c with rest, index := c.index + 1 }

/-- `n` byte 進む。 -/
def advanceBy : Nat → Cursor → Cursor
  | 0, c => c
  | n + 1, c => advanceBy n c.advance

end Cursor

/-- 読み手の一歩の結果。どちらも、そこまで読んだ位置を持つ。 -/
inductive Step (α : Type) where
  | ok (value : α) (c : Cursor)
  | err (e : DecodeError) (c : Cursor)

/-- byte 列を読み進める計算。 -/
def Reader (α : Type) := Cursor → Step α

namespace Reader

instance : Monad Reader where
  pure a := fun c => .ok a c
  bind r f := fun c =>
    match r c with
    | .ok a c' => f a c'
    | .err e c' => .err e c'

/-- 次の byte を見る（進まない）。 -/
def peek : Reader (Option UInt8) := fun c => .ok c.rest.head? c

/-- 一 byte 進む。 -/
def eat : Reader Unit := fun c => .ok () c.advance

/-- 次の byte を読んで進む。 -/
def next : Reader (Option UInt8) := fun c => .ok c.rest.head? c.advance

/-- `n` byte 進む。 -/
def skip (n : Nat) : Reader Unit := fun c => .ok () (c.advanceBy n)

/-- 読み終えたところで失敗する。 -/
def fail (code : Syntax) : Reader α := fun c => .err ⟨.malformed code, some c.position⟩ c

/-- 次の byte のところで失敗する。 -/
def failAhead (code : Syntax) : Reader α := fun c => .err ⟨.malformed code, some c.positionAhead⟩ c

/-- 位置の決まっていない失敗。包む読み手が位置を付ける。 -/
def raise (p : Problem) : Reader α := fun c => .err ⟨p, none⟩ c

/-- `r` の失敗に位置がなければ、失敗したときの位置を付ける。 -/
def positioned (r : Reader α) : Reader α := fun c =>
  match r c with
  | .ok a c' => .ok a c'
  | .err e c' => .err (e.fixAt c'.position) c'

/-- 本体を読み、成否にかかわらず閉じ括弧 `close` を確かめる。本体の失敗が先に立つ。 -/
def closing (body : Reader α) (close : Reader Unit) : Reader α := fun c =>
  match body c with
  | .ok a c' =>
    match close c' with
    | .ok () c'' => .ok a c''
    | .err e c'' => .err e c''
  | .err e c' =>
    match close c' with
    | .ok () c'' => .err e c''
    | .err _ c'' => .err e c''

/-- 入れ子に一段入って `r` を読む。深さが尽きていれば次の byte のところで失敗する。 -/
def nested (r : Reader α) : Reader α := fun c =>
  if c.room ≤ 1 then .err ⟨.malformed .recursionLimitExceeded, some c.positionAhead⟩ c
  else
    match r { c with room := c.room - 1 } with
    | .ok a c' => .ok a { c' with room := c.room }
    | .err e c' => .err e { c' with room := c.room }

/-- 空白（空白・改行・タブ・復帰）を読み飛ばし、次の byte を見る。 -/
def blanks : Reader (Option UInt8) := fun c =>
  let rec go : List UInt8 → Nat → Nat
    | b :: rest, n => if b = 0x20 || b = 0x0A || b = 0x09 || b = 0x0D then go rest (n + 1) else n
    | [], n => n
  let c' := c.advanceBy (go c.rest 0)
  .ok c'.rest.head? c'

/-- 入力の頭から読み、残りを返す。 -/
def run (r : Reader α) (input : List UInt8) : Except DecodeError (α × Cursor) :=
  match r (Cursor.start input) with
  | .ok a c => .ok (a, c)
  | .err e _ => .error e

end Reader

end HttpRouting.Json
