/-!
# binary64 の値を整数で見る

有限な binary64 は (-1)^s · m · 2^e と書ける。`Float.toBits` の 64 bit から符号・指数・仮数を
取り出してこの形にする（`Float.unpack`）。逆向きには、自然数を最も近い binary64 に丸める
（`Float.ofNatNearest`）。丸めは最近接、ちょうど中間なら仮数が偶数のほうである。

十進の指数で数を組み立てるとき（`Decimal/Reading`）に使う 10 の冪も、この丸めで作る。
-/

namespace HttpRouting

/-- 有限な binary64 の値 (-1)^negative · mantissa · 2^exponent。 -/
structure Binary where
  negative : Bool
  mantissa : Nat
  exponent : Int
  deriving Repr, DecidableEq

/-- 有限なら符号・仮数・指数に分ける。無限大と NaN は `none`。 -/
def Float.unpack (x : Float) : Option Binary :=
  let bits : Nat := x.toBits.toNat
  let negative : Bool := bits / Nat.pow 2 63 % 2 == 1
  let biased : Nat := bits / Nat.pow 2 52 % Nat.pow 2 11
  let fraction : Nat := bits % Nat.pow 2 52
  if biased = 2047 then none
  else if biased = 0 then some ⟨negative, fraction, -1074⟩
  else some ⟨negative, fraction + Nat.pow 2 52, (biased : Int) - 1075⟩

/-- 二進の桁数。`n < 2 ^ bitLength n` となる最小の冪。 -/
def bitLength (n : Nat) : Nat := if n = 0 then 0 else Nat.log2 n + 1

/-- 仮数 `m`（`2^52 ≤ m < 2^53` か非正規化数）と指数から 64 bit を組む。 -/
def packBits (negative : Bool) (m : Nat) (e : Int) : UInt64 :=
  let sign := if negative then Nat.pow 2 63 else 0
  if m < Nat.pow 2 52 then UInt64.ofNat (sign + m)
  else
    let biased := e + 1075
    if biased ≥ 2047 then UInt64.ofNat (sign + 2047 * Nat.pow 2 52)
    else UInt64.ofNat (sign + biased.toNat * Nat.pow 2 52 + (m - Nat.pow 2 52))

/-- `n / 2^k` を最近接・偶数丸めで整数にする。 -/
def roundShift (n k : Nat) : Nat :=
  let q := n / Nat.pow 2 k
  let r := n % Nat.pow 2 k
  let half := Nat.pow 2 k / 2
  if k = 0 then n
  else if r > half then q + 1
  else if r < half then q
  else if q % 2 = 0 then q else q + 1

/-- 小さい自然数（`2^53` 未満）は正規化した仮数と指数に直してから組む。 -/
def Float.ofSmallNat (n : Nat) : Float :=
  if n = 0 then Float.ofBits 0
  else
    let len := bitLength n
    let m := n * Nat.pow 2 (53 - len)
    Float.ofBits (packBits false m (-((53 - len : Nat) : Int)))

/-- 自然数を最も近い binary64 にする。大きすぎれば無限大。 -/
def Float.ofNatNearest (n : Nat) : Float :=
  let len := bitLength n
  if len ≤ 53 then Float.ofSmallNat n
  else
    let shift := len - 53
    let m := roundShift n shift
    -- 丸めで桁が一つ増えたら指数を一つ上げる
    if m = Nat.pow 2 53 then Float.ofBits (packBits false (Nat.pow 2 52) ((shift : Int) + 1))
    else Float.ofBits (packBits false m shift)

/-- 10 の `k` 乗に最も近い binary64。 -/
def Float.pow10 (k : Nat) : Float :=
  let n := Nat.pow 10 k
  if bitLength n ≤ 53 then Float.ofSmallNat n else Float.ofNatNearest n

end HttpRouting
