/-!
# 経路の鍵

接頭辞と下位の経路を `/` で区切った断片の列にし、空と `.` の断片を捨て、`..` で一つ前の断片を
取り除いてつなぐ（`Path.join`）。結果は `/` で始まり、`/` だけのとき以外は `/` で終わらない。
一つの鍵が一つの経路を表す。

`Path.joinMount` は、下位の経路が `/` で終わるとき末尾の `/` を残す。末尾が `/` の鍵は
その下の経路すべてを受ける「mount」になる。
-/

namespace HttpRouting.Path

/-- 文字の列を `/` で区切る。区切りが続けば空の断片ができる。 -/
def split : List Char → List (List Char)
  | [] => [[]]
  | c :: cs =>
    if c = '/' then [] :: split cs
    else
      match split cs with
      | w :: ws => (c :: w) :: ws
      | [] => [[c]]

/-- 断片を一つ積む。`stack` は逆順。 -/
def push (stack : List (List Char)) (seg : List Char) : List (List Char) :=
  if seg = [] ∨ seg = ['.'] then stack
  else if seg = ['.', '.'] then stack.drop 1
  else seg :: stack

/-- 接頭辞と下位の経路の断片を、正規化して順に並べる。 -/
def segments (pre sub : String) : List (List Char) :=
  ((split pre.toList ++ split sub.toList).foldl push []).reverse

/-- 断片の列を鍵にする。空なら `/`。 -/
def render : List (List Char) → String
  | [] => "/"
  | segs => String.ofList (segs.flatMap ('/' :: ·))

/-- 接頭辞と下位の経路をつないだ鍵。 -/
def join (pre sub : String) : String := render (segments pre sub)

/-- `join` と同じだが、`sub` が `/` で終わるなら末尾の `/` を残す（mount の鍵）。 -/
def joinMount (pre sub : String) : String :=
  let out := join pre sub
  if sub.toList.getLast? = some '/' ∧ out.toList.getLast? ≠ some '/' then out ++ "/" else out

/-- 鍵が mount（末尾が `/`）か。 -/
def isMount (key : String) : Bool := key.toList.getLast? == some '/'

end HttpRouting.Path
