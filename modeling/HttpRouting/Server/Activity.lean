/-!
# つながりの活動

一つのつながりについて、処理中の要求の数と、最後に要求が終わった時刻（ミリ秒、はじめは
つながった時刻）を持つ。

* 要求が始まると処理中の数が一つ増える（`Event.begin`）。
* 要求が終わるときは、まず最後の時刻をその時刻にし（`Event.stamp`）、それから処理中の数を
  一つ減らす（`Event.release`）。この二つは別の手順であり、間に他の手順が入りうる。
* 遊びの確かめは二度に分けて読む。まず処理中の数を読み（`Event.readCount`）、処理中の要求が
  あればそこで「まだ遊んでいない」と決まる。なければ次に最後の時刻を読み
  （`Event.readLast`）、遊んでよい時間が過ぎていれば、つながりを閉じ始める。二つの読みの
  間にも他の手順が入りうる。閉じ始めた後は確かめない。

`untilIdle` は、二つの読みを続けて行ったときの、遊びと見なすまでの残りの時間である。処理中の
要求があれば遊んでよい時間のまま、なければ最後の時刻からの経過を引いたもの（0 より小さくは
ならない）。
-/

namespace HttpRouting

/-- つながりの活動。`sawQuiet` は、確かめの一つ目の読みが処理中の要求を見ず、二つ目の読みを
待っていること。 -/
structure Activity where
  inFlight : Nat := 0
  last : Nat
  closing : Bool := false
  sawQuiet : Bool := false
  deriving DecidableEq, Repr

/-- 活動の手順。 -/
inductive Activity.Event where
  | begin
  | stamp (now : Nat)
  | release
  | readCount
  | readLast (now : Nat)
  deriving DecidableEq, Repr

namespace Activity

/-- つながった時刻 `now` の活動。 -/
def start (now : Nat) : Activity := { last := now }

/-- 最後の時刻から見た、遊びと見なすまでの残りの時間。 -/
def idleLeft (a : Activity) (idle now : Nat) : Nat := idle - (now - a.last)

/-- 遊びと見なすまでの残りの時間。 -/
def untilIdle (a : Activity) (idle now : Nat) : Nat :=
  if a.inFlight > 0 then idle else a.idleLeft idle now

/-- 手順を一つ進める。`idle` は遊んでよい時間。確かめの答えが残り 0 のとき閉じ始める。処理中の
要求を見た確かめの答えは `idle` そのものである。 -/
def step (idle : Nat) (a : Activity) : Event → Activity
  | .begin => { a with inFlight := a.inFlight + 1 }
  | .stamp now => { a with last := now }
  | .release => { a with inFlight := a.inFlight - 1 }
  | .readCount =>
    if a.closing then a
    else if a.inFlight > 0 then { a with closing := idle == 0, sawQuiet := false }
    else { a with sawQuiet := true }
  | .readLast now =>
    if a.sawQuiet then { a with closing := a.closing || a.idleLeft idle now == 0, sawQuiet := false }
    else a

/-- 確かめの二つの読みを続けて行う。 -/
def check (idle : Nat) (a : Activity) (now : Nat) : Activity :=
  (a.step idle .readCount).step idle (.readLast now)

/-- 手順の列を進める。 -/
def run (idle : Nat) (a : Activity) (events : List Event) : Activity := events.foldl (step idle) a

@[simp] theorem run_nil (idle : Nat) (a : Activity) : run idle a [] = a := rfl

@[simp] theorem run_cons (idle : Nat) (a : Activity) (e : Event) (es : List Event) :
    run idle a (e :: es) = run idle (step idle a e) es := rfl

/-- 二つの読みを続けて行う確かめは、遊びと見なすまでの残りが 0 のとき閉じ始める。 -/
theorem closing_check (idle : Nat) (a : Activity) (now : Nat) :
    (a.check idle now).closing = (a.closing || a.untilIdle idle now == 0) := by
  unfold check untilIdle
  cases hc : a.closing with
  | true =>
    -- 閉じ始めた後の確かめは何もしない
    simp only [step, hc, if_true]
    split
    · rfl
    · exact hc
  | false =>
    by_cases hf : a.inFlight > 0
    · simp [step, hc, hf]
    · simp [step, hc, hf, idleLeft]

end Activity

end HttpRouting
