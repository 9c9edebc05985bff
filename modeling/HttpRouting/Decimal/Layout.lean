import HttpRouting.Decimal.Shortest

/-!
# 十進数の書き方

最短の桁（`Decimal.shortest`）を文字にするときの決めごとを `Layout` にまとめる。
桁の位置 `kk` は値が `10^(kk-1)` 以上 `10^kk` 未満であることを表す。

* `Layout.json` — JSON の本文に書く数。`kk` が `-5 < kk ≤ 16` なら位置記数法、外なら指数表記。
  指数には符号を必ず付け（`1e+300`、`2.5e-8`）、整数になる値にも `.0` を付ける（`100.0`）。
  読めなかった理由の説明文に埋め込む数も同じ形で書く。
-/

namespace HttpRouting

/-- 十進数を文字にするときの決めごと。 -/
structure Layout where
  /-- 位置記数法で書く `kk` の範囲。`none` なら常に位置記数法。 -/
  positional : Option (Int × Int)
  /-- 正の指数に `+` を付ける。 -/
  plusSign : Bool
  deriving Repr

namespace Layout

/-- JSON の本文の数: `-5 < kk ≤ 16` だけ位置記数法、指数の符号は必ず書く。 -/
def json : Layout := ⟨some (-4, 16), true⟩

/-- `n` 個の `0`。 -/
def zeros (n : Nat) : String := String.ofList (List.replicate n '0')

/-- 符号の付いた十進の指数。 -/
def exponentText (l : Layout) (x : Int) : String :=
  if x < 0 then "-" ++ toString x.natAbs
  else (if l.plusSign then "+" else "") ++ toString x.natAbs

/-- 正の十進数（末尾に 0 のない桁）を書く。 -/
def render (l : Layout) (d : Decimal) : String :=
  let ds := toString d.digits
  let len : Int := ds.length
  let k := d.exponent
  let kk := len + k
  let inRange := match l.positional with
    | none => true
    | some (lo, hi) => lo ≤ kk ∧ kk ≤ hi
  if inRange then
    if 0 ≤ k then ds ++ zeros k.toNat ++ ".0"
    else if 0 < kk then
      String.ofList (ds.toList.take kk.toNat) ++ "." ++ String.ofList (ds.toList.drop kk.toNat)
    else "0." ++ zeros (-kk).toNat ++ ds
  else
    let head := String.ofList (ds.toList.take 1)
    let tail := String.ofList (ds.toList.drop 1)
    let mantissa := if tail.isEmpty then head else head ++ "." ++ tail
    mantissa ++ "e" ++ l.exponentText (kk - 1)

/-- 有限な binary64 を書く。無限大と NaN は `none`。 -/
def float (l : Layout) (x : Float) : Option String :=
  (Float.unpack x).map fun b =>
    let sign := if b.negative then "-" else ""
    if b.mantissa = 0 then sign ++ "0.0"
    else sign ++ l.render (Decimal.shortest b.mantissa b.exponent)

end Layout

end HttpRouting
