import HttpRouting.Http.Request
import HttpRouting.Http.Response
import HttpRouting.OpenApi.Document

/-!
# 処理と middleware

処理（`Handler`）は要求から応答を作る。作るのにかかる時間（ミリ秒）も返す（`Timed`）。
server はこの時間を書き込みの期限と比べる。

処理は router の目録（`Catalog`、登録された経路と OpenAPI の文書）を読める。目録を読む処理は
経路の一覧や文書を返す内省の処理である。

middleware は処理を包んで新しい処理にする。並びで与えた middleware は、最初のものが一番外側に
なるように包む（`Middleware.apply`）。
-/

namespace HttpRouting

/-- 値と、それを得るのにかかった時間（ミリ秒）。 -/
structure Timed (α : Type) where
  value : α
  elapsed : Nat := 0

namespace Timed

/-- 時間のかからない値。 -/
protected def pure (a : α) : Timed α := ⟨a, 0⟩

/-- 続けて計算し、時間を足す。 -/
protected def bind (t : Timed α) (f : α → Timed β) : Timed β :=
  let u := f t.value
  ⟨u.value, t.elapsed + u.elapsed⟩

instance : Monad Timed where
  pure := Timed.pure
  bind := Timed.bind

@[simp] theorem value_pure (a : α) : (pure a : Timed α).value = a := rfl
@[simp] theorem elapsed_pure (a : α) : (pure a : Timed α).elapsed = 0 := rfl
@[simp] theorem value_bind (t : Timed α) (f : α → Timed β) : (t >>= f).value = (f t.value).value := rfl
@[simp] theorem elapsed_bind (t : Timed α) (f : α → Timed β) :
    (t >>= f).elapsed = t.elapsed + (f t.value).elapsed := rfl

/-- `ms` ミリ秒待つ。 -/
def wait (ms : Nat) : Timed Unit := ⟨(), ms⟩

end Timed

/-- 処理が読める router の目録。 -/
structure Catalog where
  /-- 経路ごとの枠の名前（経路の順、枠は名前の順）。 -/
  routes : List (String × List String) := []
  document : OpenApi.Document

/-- 経路も操作もない目録。 -/
def Catalog.empty : Catalog :=
  ⟨[], { openapi := OpenApi.version, info := ⟨"", "", ""⟩ }⟩

/-- 目録を読み、時間のかかる計算。 -/
abbrev Serve := ReaderT Catalog Timed

namespace Serve

/-- 目録。 -/
def catalog : Serve Catalog := read

/-- `ms` ミリ秒待つ。 -/
def wait (ms : Nat) : Serve Unit := fun _ => Timed.wait ms

end Serve

/-- 要求から応答を作る処理。 -/
abbrev Handler := Request → Serve Response

/-- 処理を包む middleware。 -/
abbrev Middleware := Handler → Handler

namespace Middleware

/-- 要求と次の処理から応答を作る関数を middleware にする。 -/
def around (f : Request → Handler → Serve Response) : Middleware := fun next req => f req next

/-- 処理を包む関数をそのまま middleware にする。 -/
def fromFn (f : Handler → Handler) : Middleware := f

/-- 並びの middleware で包む。最初のものが一番外側。 -/
def apply (h : Handler) (ms : List Middleware) : Handler := ms.foldr (fun m acc => m acc) h

@[simp] theorem apply_nil (h : Handler) : apply h [] = h := rfl
@[simp] theorem apply_cons (h : Handler) (m : Middleware) (ms : List Middleware) :
    apply h (m :: ms) = m (apply h ms) := rfl

end Middleware

/-- 経路を登録するとき、処理を method と経路の鍵で包む統計の hook。 -/
abbrev StatsHook := Handler → Method → String → Handler

/-- 記録だけをして処理を素通しする hook。 -/
def StatsHook.trace : StatsHook := fun h _ _ => h

end HttpRouting
