import HttpRouting.Text.Utf8

/-!
# form の符号化（`application/x-www-form-urlencoded`）

query を名前と値の組の列として読み書きする。

## 読む（`Form.parse`）

`&` で区切り、空の断片は捨てる。断片は最初の `=` で名前と値に分ける（`=` が無ければ値は空）。
名前と値はそれぞれ、`+` を空白に直して**から** percent-decode し、UTF-8 として読む。
`%` の後に 16 進の二桁が続かなければ `%` はそのまま残り、UTF-8 として読めない byte の並びは
U+FFFD になる。

## 書く（`Form.serialize`）

英数字と `* - . _` はそのまま、空白は `+`、ほかの byte は `%XX`（16 進は大文字）にする。
組は `名前=値` とし、`&` でつなぐ。
-/

namespace HttpRouting.Form

/-- byte の列を `sep` で区切る。区切りが続けば空の断片ができる。 -/
def splitOn (sep : UInt8) : List UInt8 → List (List UInt8)
  | [] => [[]]
  | b :: bs =>
    if b = sep then [] :: splitOn sep bs
    else
      match splitOn sep bs with
      | w :: ws => (b :: w) :: ws
      | [] => [[b]]

/-- `+` を空白にする。 -/
def plusToSpace (bs : List UInt8) : List UInt8 := bs.map fun b => if b == 0x2B then 0x20 else b

/-- 16 進の数字の値。 -/
def hexValue (b : UInt8) : Option Nat :=
  if 0x30 ≤ b && b ≤ 0x39 then some (b.toNat - 0x30)
  else if 0x41 ≤ b && b ≤ 0x46 then some (b.toNat - 0x37)
  else if 0x61 ≤ b && b ≤ 0x66 then some (b.toNat - 0x57)
  else none

/-- `%XX` を byte に戻す。そうでない `%` は残す。 -/
def percentDecode : List UInt8 → List UInt8
  | b :: h :: l :: rest =>
    if b == 0x25 then
      match hexValue h, hexValue l with
      | some x, some y => UInt8.ofNat (16 * x + y) :: percentDecode rest
      | _, _ => b :: percentDecode (h :: l :: rest)
    else b :: percentDecode (h :: l :: rest)
  | bs => bs
termination_by bs => bs.length

/-- 名前か値を一つ読む。 -/
def decodeComponent (bs : List UInt8) : String := Utf8.decodeLossy (percentDecode (plusToSpace bs))

/-- 一つの断片を名前と値に分ける。 -/
def splitPair (seq : List UInt8) : String × String :=
  let name := seq.takeWhile (· != 0x3D)
  (decodeComponent name, decodeComponent (seq.drop (name.length + 1)))

/-- query の byte の列を組の列として読む。 -/
def parse (bs : List UInt8) : List (String × String) :=
  ((splitOn 0x26 bs).filter (!·.isEmpty)).map splitPair

/-- query の文字列を組の列として読む。 -/
def parseString (q : String) : List (String × String) := parse (Utf8.encode q)

/-- 16 進の一桁（大文字）。 -/
def hexUpper (n : Nat) : Char := if n < 10 then Char.ofNat (0x30 + n) else Char.ofNat (0x37 + n)

/-- そのまま書く byte。 -/
def isUnreserved (b : UInt8) : Bool :=
  (0x30 ≤ b && b ≤ 0x39) || (0x41 ≤ b && b ≤ 0x5A) || (0x61 ≤ b && b ≤ 0x7A) ||
    b == 0x2A || b == 0x2D || b == 0x2E || b == 0x5F

/-- 一つの byte の書き方。 -/
def encodeByte (b : UInt8) : List Char :=
  if isUnreserved b then [Char.ofNat b.toNat]
  else if b == 0x20 then ['+']
  else ['%', hexUpper (b.toNat / 16), hexUpper (b.toNat % 16)]

/-- 名前か値を一つ書く。 -/
def encodeComponent (s : String) : String := String.ofList ((Utf8.encode s).flatMap encodeByte)

/-- 組の列を query にする。 -/
def serialize (pairs : List (String × String)) : String :=
  "&".intercalate (pairs.map fun (k, v) => encodeComponent k ++ "=" ++ encodeComponent v)

end HttpRouting.Form
