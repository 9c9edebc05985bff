/-!
# 名前の順に並んだ表

文字列の名前から値への表を、名前の順（UTF-8 の byte 順、すなわち code point の順）に並べた
組の列で持つ。同じ名前は一度だけ現れる。入れると同じ名前の値は置き換わる。
-/

namespace HttpRouting.Keyed

/-- 名前の順を保ったまま組を入れる。同じ名前があれば値を置き換える。 -/
def insert (k : String) (v : α) : List (String × α) → List (String × α)
  | [] => [(k, v)]
  | (k', v') :: rest =>
    if k < k' then (k, v) :: (k', v') :: rest
    else if k = k' then (k, v) :: rest
    else (k', v') :: insert k v rest

/-- 名前で引く。 -/
def find? (k : String) : List (String × α) → Option α
  | [] => none
  | (k', v) :: rest => if k = k' then some v else find? k rest

/-- 名前の組を取り除く。 -/
def erase (k : String) : List (String × α) → List (String × α)
  | [] => []
  | (k', v) :: rest => if k = k' then rest else (k', v) :: erase k rest

/-- 名前で引いた値を書き換える（なければ `init` から）。 -/
def modify (k : String) (init : α) (f : α → α) (m : List (String × α)) : List (String × α) :=
  insert k (f ((find? k m).getD init)) m

end HttpRouting.Keyed
