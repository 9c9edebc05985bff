import HttpRouting.Json.Value
import HttpRouting.Decimal.Layout

/-!
# JSON を書く

二つの書き方がある。

* `Json.compact` — 空白を入れない。
* `Json.pretty` — 要素ごとに改行し、一段ごとに字下げ `indent` を一つ足す。名前と値の間は `": "`。
  空の配列と object は `[]`、`{}` のまま。

文字列の中では `"` と `\` に `\` を前置し、`U+0000`〜`U+001F` のうち
`\b \t \n \f \r` はその短い形、ほかは `\u00XX`（16 進は小文字）にする。それ以外の文字は
そのまま書く。数は `Layout.json` で書く。
-/

namespace HttpRouting.Json

/-- 16 進の一桁（小文字）。 -/
def hexDigit (n : Nat) : Char :=
  if n < 10 then Char.ofNat (0x30 + n) else Char.ofNat (0x57 + n)

/-- 文字列の中での一文字の書き方。 -/
def escapeChar (c : Char) : List Char :=
  if c = '"' then ['\\', '"']
  else if c = '\\' then ['\\', '\\']
  else if c.toNat < 0x20 then
    match c.toNat with
    | 0x08 => ['\\', 'b']
    | 0x09 => ['\\', 't']
    | 0x0A => ['\\', 'n']
    | 0x0C => ['\\', 'f']
    | 0x0D => ['\\', 'r']
    | n => ['\\', 'u', '0', '0', hexDigit (n / 16), hexDigit (n % 16)]
  else [c]

/-- 文字列を引用符で囲んで書く。 -/
def quote (s : String) : String :=
  String.ofList ('"' :: s.toList.flatMap escapeChar ++ ['"'])

/-- 数の書き方。binary64 が有限でなければ `null`。 -/
def floatText (x : Float) : String :=
  (Layout.json.float x).getD "null"

/-- 空白を入れずに書く。 -/
def compact : Json → String
  | .null => "null"
  | .bool true => "true"
  | .bool false => "false"
  | .int i => toString i
  | .float x => floatText x
  | .str s => quote s
  | .arr xs => "[" ++ items xs ++ "]"
  | .obj fs => "\x7b" ++ fields fs ++ "\x7d"
where
  items : List Json → String
    | [] => ""
    | [x] => compact x
    | x :: rest => compact x ++ "," ++ items rest
  fields : List (String × Json) → String
    | [] => ""
    | [(k, v)] => quote k ++ ":" ++ compact v
    | (k, v) :: rest => quote k ++ ":" ++ compact v ++ "," ++ fields rest

/-- 字下げ `indent` を `n` 段。 -/
def indentBy (indent : String) : Nat → String
  | 0 => ""
  | n + 1 => indent ++ indentBy indent n

/-- 一段ごとに `indent` を足し、要素ごとに改行して書く。`level` は今の段。 -/
def prettyAt (indent : String) (level : Nat) : Json → String
  | .arr [] => "[]"
  | .obj [] => "\x7b\x7d"
  | .arr xs => "[\n" ++ items level xs ++ "\n" ++ indentBy indent level ++ "]"
  | .obj fs => "\x7b\n" ++ fields level fs ++ "\n" ++ indentBy indent level ++ "\x7d"
  | j => compact j
where
  items (level : Nat) : List Json → String
    | [] => ""
    | [x] => indentBy indent (level + 1) ++ prettyAt indent (level + 1) x
    | x :: rest => indentBy indent (level + 1) ++ prettyAt indent (level + 1) x ++ ",\n" ++ items level rest
  fields (level : Nat) : List (String × Json) → String
    | [] => ""
    | [(k, v)] => indentBy indent (level + 1) ++ quote k ++ ": " ++ prettyAt indent (level + 1) v
    | (k, v) :: rest =>
      indentBy indent (level + 1) ++ quote k ++ ": " ++ prettyAt indent (level + 1) v ++ ",\n" ++
        fields level rest

/-- 字下げ `indent` で書く。 -/
def pretty (indent : String) (j : Json) : String := prettyAt indent 0 j

end HttpRouting.Json
