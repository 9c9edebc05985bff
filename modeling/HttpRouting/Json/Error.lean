import HttpRouting.Json.Value
import HttpRouting.Decimal.Layout
import HttpRouting.Text.Printable

/-!
# JSON を読むときの失敗

失敗は原因（`Problem`）と、分かっていれば入力の中の位置（行と桁）からなる。
桁はその行の頭から数えた byte 数である。文面は `DecodeError.message` にまとめる。

原因は二種類ある。

* 構文の誤り（`Syntax`）。読み手がその場で気づき、位置をすぐ決める。
* 型の食い違い（`invalidType` など）。読み取った値を目的の形にするときに起き、位置は
  それを包む読み手が後から付ける（`DecodeError.fixAt`）。
-/

namespace HttpRouting.Json

/-- 構文の誤り。 -/
inductive Syntax where
  | eofWhileParsingList
  | eofWhileParsingObject
  | eofWhileParsingString
  | eofWhileParsingValue
  | expectedColon
  | expectedListCommaOrEnd
  | expectedObjectCommaOrEnd
  | expectedSomeIdent
  | expectedSomeValue
  | invalidEscape
  | invalidNumber
  | numberOutOfRange
  | invalidUnicodeCodePoint
  | controlCharacterWhileParsingString
  | keyMustBeAString
  | loneLeadingSurrogateInHexEscape
  | trailingComma
  | trailingCharacters
  | unexpectedEndOfHexEscape
  | recursionLimitExceeded
  deriving Repr, DecidableEq

/-- 構文の誤りの文面。 -/
def Syntax.message : Syntax → String
  | .eofWhileParsingList => "EOF while parsing a list"
  | .eofWhileParsingObject => "EOF while parsing an object"
  | .eofWhileParsingString => "EOF while parsing a string"
  | .eofWhileParsingValue => "EOF while parsing a value"
  | .expectedColon => "expected `:`"
  | .expectedListCommaOrEnd => "expected `,` or `]`"
  | .expectedObjectCommaOrEnd => "expected `,` or `\x7d`"
  | .expectedSomeIdent => "expected ident"
  | .expectedSomeValue => "expected value"
  | .invalidEscape => "invalid escape"
  | .invalidNumber => "invalid number"
  | .numberOutOfRange => "number out of range"
  | .invalidUnicodeCodePoint => "invalid unicode code point"
  | .controlCharacterWhileParsingString =>
    "control character (\\u0000-\\u001F) found while parsing a string"
  | .keyMustBeAString => "key must be a string"
  | .loneLeadingSurrogateInHexEscape => "lone leading surrogate in hex escape"
  | .trailingComma => "trailing comma"
  | .trailingCharacters => "trailing characters"
  | .unexpectedEndOfHexEscape => "unexpected end of hex escape"
  | .recursionLimitExceeded => "recursion limit exceeded"

/-- 目的の形と食い違った、実際に読んだもの。 -/
inductive Found where
  | bool (b : Bool)
  | int (i : Int)
  | float (x : Float)
  | str (s : String)
  | unit
  | seq
  | map

/-- 16 進（小文字、先頭の 0 なし）。 -/
def hexText (n : Nat) : String :=
  String.ofList (Nat.toDigits 16 n)

/-- 説明文の中で文字列を引用する形。`"` で囲み、`\0 \t \r \n " \` は `\` を前置した形、
そのまま書けない文字（`Printable.printable` でないもの）は `\u{…}` にする。 -/
def quoteForMessage (s : String) : String :=
  let one (c : Char) : String :=
    if c = '\x00' then "\\0"
    else if c = '\t' then "\\t"
    else if c = '\r' then "\\r"
    else if c = '\n' then "\\n"
    else if c = '"' then "\\\""
    else if c = '\\' then "\\\\"
    else if !Printable.printable c then "\\u" ++ "\x7b" ++ hexText c.toNat ++ "\x7d"
    else c.toString
  "\"" ++ String.join (s.toList.map one) ++ "\""

/-- 読んだものの説明。 -/
def Found.describe : Found → String
  | .bool b => "boolean `" ++ (if b then "true" else "false") ++ "`"
  | .int i => "integer `" ++ toString i ++ "`"
  | .float x => "floating point `" ++ (Layout.json.float x).getD "NaN" ++ "`"
  | .str s => "string " ++ quoteForMessage s
  | .unit => "null"
  | .seq => "sequence"
  | .map => "map"

/-- 値から、それが何であったか。 -/
def Found.ofJson : Json → Found
  | .null => .unit
  | .bool b => .bool b
  | .int i => .int i
  | .float x => .float x
  | .str s => .str s
  | .arr _ => .seq
  | .obj _ => .map

/-- 候補の名前の並べ方。一つ、二つ、三つ以上で言い方が変わる。 -/
def oneOf : List String → String
  | [] => "nothing"
  | [a] => "`" ++ a ++ "`"
  | [a, b] => "`" ++ a ++ "` or `" ++ b ++ "`"
  | names => "one of " ++ ", ".intercalate (names.map fun n => "`" ++ n ++ "`")

/-- 読めなかった原因。 -/
inductive Problem where
  | malformed (code : Syntax)
  | invalidType (found : Found) (expected : String)
  | invalidValue (found : Found) (expected : String)
  | invalidLength (length : Nat) (expected : String)
  | unknownVariant (name : String) (expected : List String)
  | missingField (name : String)
  | duplicateField (name : String)

/-- 原因の文面。 -/
def Problem.message : Problem → String
  | .malformed code => code.message
  | .invalidType found expected => "invalid type: " ++ found.describe ++ ", expected " ++ expected
  | .invalidValue found expected => "invalid value: " ++ found.describe ++ ", expected " ++ expected
  | .invalidLength n expected => "invalid length " ++ toString n ++ ", expected " ++ expected
  | .unknownVariant name [] => "unknown variant `" ++ name ++ "`, there are no variants"
  | .unknownVariant name expected => "unknown variant `" ++ name ++ "`, expected " ++ oneOf expected
  | .missingField name => "missing field `" ++ name ++ "`"
  | .duplicateField name => "duplicate field `" ++ name ++ "`"

/-- 入力の中の位置。行は 1 から、桁はその行で読み終えた byte 数。 -/
structure Position where
  line : Nat
  column : Nat
  deriving Repr, DecidableEq

/-- 読めなかったこと。位置がなければ、値の形の食い違いで、入力を読まずに見つかったもの。 -/
structure DecodeError where
  problem : Problem
  position : Option Position := none

/-- 位置がまだなければ `p` にする。 -/
def DecodeError.fixAt (e : DecodeError) (p : Position) : DecodeError :=
  match e.position with
  | some _ => e
  | none => { e with position := some p }

/-- 失敗の文面。位置があれば ` at line L column C` を続ける。 -/
def DecodeError.message (e : DecodeError) : String :=
  match e.position with
  | none => e.problem.message
  | some p => e.problem.message ++ " at line " ++ toString p.line ++ " column " ++ toString p.column

end HttpRouting.Json
