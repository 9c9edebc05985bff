import HttpRouting.Http.Method
import HttpRouting.Text.Utf8

/-!
# header

header の名前は token の文字からなり、小文字にそろえて持つ（大文字と小文字は区別しない）。
値は byte の列で、使える byte は 32 以上で 127 でないもの、または tab である。
値を文字列として読めるのは、すべての byte が「見える ASCII」（32 以上 126 以下）か tab のとき
だけである（`HeaderValue.text?`）。

header の並び（`Headers`）は名前と値の組の列で、加えた順を保つ。同じ名前がいくつあってもよい。
名前で引くと最初の値が返る。
-/

namespace HttpRouting

/-- header の名前。小文字の token。 -/
structure HeaderName where
  name : String
  deriving DecidableEq

/-- ASCII の大文字を小文字にする。 -/
def lowerAscii (s : String) : String := s.map Char.toLower

/-- 名前として読めるなら小文字にそろえる。空、token でない文字、65536 byte 以上は読めない。 -/
def HeaderName.parse? (s : String) : Option HeaderName :=
  if isToken s ∧ s.utf8ByteSize < 65536 then some ⟨lowerAscii s⟩ else none

/-- 値に使える byte。 -/
def isValueByte (b : UInt8) : Bool := (32 ≤ b && b != 127) || b == 9

/-- 見える ASCII か tab。 -/
def isVisibleByte (b : UInt8) : Bool := (32 ≤ b && b < 127) || b == 9

/-- header の値。 -/
structure HeaderValue where
  bytes : List UInt8
  deriving DecidableEq

namespace HeaderValue

/-- byte の列が値として使えるなら値にする。 -/
def ofBytes? (bs : List UInt8) : Option HeaderValue :=
  if bs.all isValueByte then some ⟨bs⟩ else none

/-- 文字列の UTF-8 の byte が値として使えるなら値にする。 -/
def parse? (s : String) : Option HeaderValue := ofBytes? (Utf8.encode s)

/-- 見える ASCII と tab だけの値なら、その文字列。 -/
def text? (v : HeaderValue) : Option String :=
  if v.bytes.all isVisibleByte then some (Utf8.decodeLossy v.bytes) else none

/-- 値を UTF-8 として読む。読めない byte は U+FFFD になる。 -/
def lossy (v : HeaderValue) : String := Utf8.decodeLossy v.bytes

end HeaderValue

/-- header の並び。加えた順を保つ。 -/
abbrev Headers := List (HeaderName × HeaderValue)

namespace Headers

/-- 名前（大文字小文字を問わない）の最初の値。名前が token でなければ `none`。 -/
def get? (hs : Headers) (name : String) : Option HeaderValue :=
  match HeaderName.parse? name with
  | some n => (hs.find? (·.1 == n)).map (·.2)
  | none => none

/-- 名前の最初の値を文字列として読む（見える ASCII のときだけ）。 -/
def text? (hs : Headers) (name : String) : Option String := (hs.get? name).bind HeaderValue.text?

/-- 名前のすべての値。 -/
def getAll (hs : Headers) (n : HeaderName) : List HeaderValue := (hs.filter (·.1 == n)).map (·.2)

/-- 組を後ろに足す。 -/
def append (hs : Headers) (n : HeaderName) (v : HeaderValue) : Headers := hs ++ [(n, v)]

/-- 名前の値をすべて取り除き、新しい値を一つ置く。 -/
def set (hs : Headers) (n : HeaderName) (v : HeaderValue) : Headers :=
  hs.filter (·.1 != n) ++ [(n, v)]

/-- 名前の順に、同じ名前は加えた順のまま並べる。 -/
def sorted (hs : Headers) : Headers :=
  hs.mergeSort fun a b => decide (a.1.name ≤ b.1.name)

end Headers

end HttpRouting
