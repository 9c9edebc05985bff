import HttpRouting.Decimal.Binary

/-!
# 最短の十進表記

正の binary64 の値 v = m · 2^e に対して、読み戻すと v になる十進数のうち桁数が最も少ないものを
選ぶ。読み戻すと v になる実数は区間をなす。両端は隣の binary64 との中点で、m が偶数なら端を含む。
m が正規化数の最小の仮数（`2^52`）のときは、下の隣との間隔が半分になる。

桁数 n = 1, 2, … の順に、v を挟む n 桁の二つの候補（切り捨てと切り上げ）が区間に入るかを
整数の演算で確かめる。最初に候補が入った桁数で決まる。二つとも入れば v に近いほう、
ちょうど等距離なら最後の桁が偶数のほうである。17 桁あれば必ずどちらかが入る。
-/

namespace HttpRouting

/-- 十進の数 digits · 10^exponent。 -/
structure Decimal where
  digits : Nat
  exponent : Int
  deriving Repr, DecidableEq

namespace Decimal

/-- a · 2^p · 10^q と b · 2^r · 10^s を比べる。負の冪は両辺に掛けて消す。 -/
def compareScaled (a : Nat) (p q : Int) (b : Nat) (r s : Int) : Ordering :=
  let t := min p r
  let u := min q s
  compare (a * Nat.pow 2 (p - t).toNat * Nat.pow 10 (q - u).toNat)
    (b * Nat.pow 2 (r - t).toNat * Nat.pow 10 (s - u).toNat)

/-- m · 2^e を 10^k で割った商の切り捨て。 -/
def quotient (m : Nat) (e k : Int) : Nat :=
  let num := m * Nat.pow 2 e.toNat * Nat.pow 10 (-k).toNat
  let den := Nat.pow 2 (-e).toNat * Nat.pow 10 k.toNat
  num / den

/-- 末尾の 0 を指数に移す。 -/
def normalize (d : Decimal) : Decimal :=
  if h : d.digits ≠ 0 ∧ d.digits % 10 = 0 then
    normalize ⟨d.digits / 10, d.exponent + 1⟩
  else d
termination_by d.digits
decreasing_by omega

/-- 十進の桁数。`0` は 1 桁と数える。 -/
def digitCount (n : Nat) : Nat :=
  if n < 10 then 1 else digitCount (n / 10) + 1
termination_by n
decreasing_by omega

/-- v = m · 2^e が `10^(kk-1) ≤ v < 10^kk` を満たす `kk` を、見積もりから上下に直して求める。 -/
def magnitude (m : Nat) (e : Int) : Int :=
  let est : Int := Int.fdiv (((bitLength m : Int) - 1 + e) * 30103) 100000
  let up := fun (kk : Int) => compareScaled m e 0 1 0 kk != .lt
  let down := fun (kk : Int) => compareScaled m e 0 1 0 (kk - 1) == .lt
  let rec raise : Nat → Int → Int
    | 0, kk => kk
    | n + 1, kk => if up kk then raise n (kk + 1) else kk
  let rec lower : Nat → Int → Int
    | 0, kk => kk
    | n + 1, kk => if down kk then lower n (kk - 1) else kk
  lower 4 (raise 4 est)

/-- 読み戻すと v になる区間。単位は 2^(e-2)。 -/
structure Interval where
  low : Nat
  high : Nat
  closed : Bool

/-- m · 2^e を読み戻す区間。 -/
def interval (m : Nat) (e : Int) : Interval :=
  let narrowBelow := m = Nat.pow 2 52 ∧ e > -1074
  ⟨4 * m - (if narrowBelow then 1 else 2), 4 * m + 2, m % 2 = 0⟩

/-- 候補 c · 10^k が区間に入るか。 -/
def Interval.holds (iv : Interval) (e : Int) (c : Nat) (k : Int) : Bool :=
  let lo := compareScaled c 0 k iv.low (e - 2) 0
  let hi := compareScaled c 0 k iv.high (e - 2) 0
  (lo == .gt || (iv.closed && lo == .eq)) && (hi == .lt || (iv.closed && hi == .eq))

/-- 二つの候補 c₀ < c₁ のうち v = m · 2^e に近いほう。等距離なら偶数のほう。 -/
def nearer (m : Nat) (e : Int) (c₀ c₁ : Nat) (k : Int) : Nat :=
  -- 2v と c₀ + c₁ を比べる
  match compareScaled (2 * m) e 0 (c₀ + c₁) 0 k with
  | .lt => c₀
  | .gt => c₁
  | .eq => if c₀ % 2 = 0 then c₀ else c₁

/-- n 桁で区間に入る候補。 -/
def candidate (m : Nat) (e : Int) (kk : Int) (n : Nat) : Option Decimal :=
  let iv := interval m e
  let k := kk - n
  let c₀ := quotient m e k
  let exact := compareScaled c₀ 0 k m e 0 == .eq
  let c₁ := if exact then c₀ else c₀ + 1
  match iv.holds e c₀ k, iv.holds e c₁ k with
  | true, true => some ⟨nearer m e c₀ c₁ k, k⟩
  | true, false => some ⟨c₀, k⟩
  | false, true => some ⟨c₁, k⟩
  | false, false => none

/-- 正の値 m · 2^e の最短の十進表記。末尾に 0 は残さない。 -/
def shortest (m : Nat) (e : Int) : Decimal :=
  let kk := magnitude m e
  let rec search : Nat → Nat → Decimal
    | 0, _ => ⟨quotient m e (kk - 17), kk - 17⟩
    | fuel + 1, n =>
      match candidate m e kk n with
      | some d => d
      | none => search fuel (n + 1)
  normalize (search 17 1)

end Decimal

end HttpRouting
