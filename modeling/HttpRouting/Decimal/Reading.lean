import HttpRouting.Decimal.Binary

/-!
# 仮数と十進指数から binary64 を作る

JSON の数は、読んだ桁の仮数 s（64 bit に収まる分）と十進の指数 x に分けてから値にする。
値は s を最も近い binary64 にし、`10^|x|` に最も近い binary64 を一度だけ掛ける（x ≥ 0）か
割る（x < 0）。丸めは二度起きるので、最も近い binary64 になるとは限らない。

`|x|` が 308 を超えて負のときは、まず `1e308` で割って指数を 308 だけ戻す。0 はそのまま 0。
正の指数で無限大になるものは範囲外として `none` を返す。
-/

namespace HttpRouting

/-- 仮数 `significand` · 10^`exponent` を binary64 にする。範囲外（無限大）なら `none`。 -/
def Float.ofDecimalParts (positive : Bool) (significand : Nat) (exponent : Int) : Option Float :=
  let rec scale (f : Float) (x : Int) : Option Float :=
    if x.natAbs ≤ 308 then
      if 0 ≤ x then
        let g := f * Float.pow10 x.natAbs
        if g.isInf then none else some g
      else some (f / Float.pow10 x.natAbs)
    else if f == 0 then some f
    else if 0 ≤ x then none
    else scale (f / Float.pow10 308) (x + 308)
  termination_by x.natAbs
  decreasing_by omega
  (scale (Float.ofNatNearest significand) exponent).map fun f => if positive then f else -f

end HttpRouting
