import HttpRouting.Data.Keyed

/-!
# JSON の値

読み書きの対象になる JSON の値。数は、64 bit の整数に収まる整数（符号なしか負）と
binary64 に分ける。整数と小数は別の値である（`1` と `1.0` は違う）。

object は名前と値の組の列で持つ。列の順が書き出す順である。読み込んだ値の object は
名前の順（byte 順）に並び、同じ名前は後に現れたほうだけが残る（`Json.Fields.insert`）。
-/

namespace HttpRouting

/-- JSON の値。 -/
inductive Json where
  | null
  | bool (b : Bool)
  /-- 整数。読み込んだものは `-2^63` 以上 `2^64` 未満。 -/
  | int (i : Int)
  /-- 有限な binary64。 -/
  | float (x : Float)
  | str (s : String)
  | arr (items : List Json)
  | obj (fields : List (String × Json))
  deriving Inhabited

namespace Json

/-- 名前の順を保ったまま組を入れる。同じ名前があれば値を置き換える。 -/
def Fields.insert (k : String) (v : Json) (fs : List (String × Json)) : List (String × Json) :=
  Keyed.insert k v fs

/-- 組の列から、名前の順に並んだ object を作る。同じ名前は後のものが残る。 -/
def object (fs : List (String × Json)) : Json :=
  .obj (fs.foldl (fun acc kv => Fields.insert kv.1 kv.2 acc) [])

/-- 配列の要素は配列より小さい。 -/
theorem sizeOf_lt_arr {x : Json} {xs : List Json} (h : x ∈ xs) : sizeOf x < sizeOf (Json.arr xs) := by
  have := List.sizeOf_lt_of_mem h
  simp only [Json.arr.sizeOf_spec]
  omega

/-- object の値は object より小さい。 -/
theorem sizeOf_lt_obj {k : String} {x : Json} {fs : List (String × Json)} (h : (k, x) ∈ fs) :
    sizeOf x < sizeOf (Json.obj fs) := by
  have := List.sizeOf_lt_of_mem h
  simp only [Json.obj.sizeOf_spec, Prod.mk.sizeOf_spec] at *
  omega

/-- すべての object を名前の順に並べ直す（同じ名前は後のものが残る）。 -/
def sortKeys : Json → Json
  | .arr xs => .arr (xs.attach.map fun ⟨x, _⟩ => sortKeys x)
  | .obj fs => .obj (fs.attach.foldl (fun acc ⟨(k, v), _⟩ => Fields.insert k (sortKeys v) acc) [])
  | j => j
termination_by j => sizeOf j
decreasing_by
  · exact sizeOf_lt_arr (by assumption)
  · exact sizeOf_lt_obj (by assumption)

/-- 名前として使える値の文字列。文字列はそのまま、整数と真偽値はその書き表しになる。 -/
def keyText? : Json → Option String
  | .str s => some s
  | .int i => some (toString i)
  | .bool b => some (if b then "true" else "false")
  | _ => none

/-- 値を名前とする組の列から object を作る。名前にできない値があれば
`key must be a string` で失敗する。 -/
def objectOfKeys? (pairs : List (Json × Json)) : Except String Json := do
  let fs ← pairs.mapM fun (k, v) =>
    match keyText? k with
    | some t => .ok (t, v)
    | none => .error "key must be a string"
  pure (object fs)

/-- object の名前で引く。object でなければ `none`。 -/
def get? (j : Json) (k : String) : Option Json :=
  match j with
  | .obj fs => Keyed.find? k fs
  | _ => none

/-- 文字列ならその中身。 -/
def str? : Json → Option String
  | .str s => some s
  | _ => none

/-- 配列ならその要素。 -/
def arr? : Json → Option (List Json)
  | .arr xs => some xs
  | _ => none

/-- 真偽値ならその値。 -/
def bool? : Json → Option Bool
  | .bool b => some b
  | _ => none

/-- 整数ならその値。 -/
def int? : Json → Option Int
  | .int i => some i
  | _ => none

/-- null か。 -/
def isNull : Json → Bool
  | .null => true
  | _ => false

end Json

end HttpRouting
