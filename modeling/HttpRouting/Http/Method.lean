/-!
# HTTP の method

method は token の文字（英数字と ``!#$%&'*+-.^_`|~``）だけからなる空でない文字列である。
大文字と小文字は区別する。`get` は `GET` とは別の拡張 method になる。
-/

namespace HttpRouting

/-- token に使える文字。 -/
def isTokenChar (c : Char) : Bool :=
  c.isAlphanum || "!#$%&'*+-.^_`|~".toList.contains c

/-- 空でない token か。 -/
def isToken (s : String) : Bool := !s.isEmpty && s.toList.all isTokenChar

/-- HTTP の method。名前は token である。 -/
structure Method where
  name : String
  token : isToken name = true

namespace Method

instance : DecidableEq Method := fun a b =>
  if h : a.name = b.name then isTrue (by cases a; cases b; simp_all) else isFalse (by intro e; cases e; exact h rfl)

/-- 名前が token なら method にする。 -/
def parse? (s : String) : Option Method :=
  if h : isToken s = true then some ⟨s, h⟩ else none

def get : Method := ⟨"GET", by decide⟩
def post : Method := ⟨"POST", by decide⟩
def put : Method := ⟨"PUT", by decide⟩
def patch : Method := ⟨"PATCH", by decide⟩
def delete : Method := ⟨"DELETE", by decide⟩
def head : Method := ⟨"HEAD", by decide⟩
def options : Method := ⟨"OPTIONS", by decide⟩

/-- 名前の byte 順で比べる（`<` が真のとき前）。 -/
def before (a b : Method) : Bool := a.name < b.name

end Method

end HttpRouting
