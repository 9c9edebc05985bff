import HttpRouting.Http.Method

/-!
# 経路の枠

一つの経路は method ごとに一つの処理を持ち、さらに method を問わない枠（`any`）を一つ持てる。
`any` の枠は、同じ経路に専用の枠がない method すべてに答える。枠の名前は method の名前、
`any` では `*` である。
-/

namespace HttpRouting

/-- 経路の中の枠。 -/
inductive Slot where
  | exact (m : Method)
  | any
  deriving DecidableEq

namespace Slot

/-- 枠の名前。`any` は `*`。 -/
def name : Slot → String
  | .exact m => m.name
  | .any => "*"

/-- 専用の枠ならその method。 -/
def method? : Slot → Option Method
  | .exact m => some m
  | .any => none

end Slot

end HttpRouting
