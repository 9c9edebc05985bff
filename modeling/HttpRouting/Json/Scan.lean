import HttpRouting.Json.Cursor
import HttpRouting.Decimal.Reading
import HttpRouting.Text.Utf8

/-!
# 文字列・数・語を読む

JSON の字句のうち、入れ子を持たないもの（文字列、数、`true` `false` `null`）を byte 列の頭から
読む。どれも byte 列の上の関数で、読んだ byte 数と値、または失敗とその位置を返す（`Scan`）。

## 文字列

`"` の後から閉じる `"` までを読む。エスケープは `\" \\ \/ \b \f \n \r \t \uXXXX`。
`\uXXXX` の代理対は `\uD800`–`\uDBFF` の直後に `\uDC00`–`\uDFFF` が来るものだけを受け入れる。
エスケープのない制御文字（`U+0000`–`U+001F`）は拒む。中身は UTF-8 として正しくなければならない。
正しくなければ、閉じる `"` の後から、中身の最初の壊れた文字より後ろの byte 数だけ戻った位置で
失敗する（エスケープは書いた形でなく表す byte で数える）。

## 数

整数部は先頭の `0` を一つだけ許す。64 bit の符号なし整数に収まる間は整数として読み、
収まらなくなった桁からは指数として数える。小数点か指数があれば binary64 にする
（`Float.ofDecimalParts`）。`-0` は binary64 の `-0.0`、`-2^63` 未満の負の整数も binary64 になる。
指数が 32 bit を超えると、仮数が 0 でない正の指数は範囲外、それ以外は ±0 になる。

## 読み飛ばし

値を捨てるときの読み方（`skipString`、`skipNumber`）は検査が軽い。文字列の UTF-8 は確かめず、
数は範囲外にならない。
-/

namespace HttpRouting.Json

/-- byte 列の頭から読んだ結果。 -/
inductive Scan (α : Type) where
  /-- 値と、読んだ byte 数。 -/
  | done (value : α) (used : Nat)
  /-- 失敗。`used` byte 読んだところ、`ahead` なら次の byte のところが位置。 -/
  | stop (code : Syntax) (used : Nat) (ahead : Bool)

/-- `Scan` を読み手の一歩にする。 -/
def Reader.scan (f : List UInt8 → Scan α) : Reader α := fun c =>
  match f c.rest with
  | .done v n => .ok v (c.advanceBy n)
  | .stop code n ahead =>
    let c' := c.advanceBy n
    .err ⟨.malformed code, some (if ahead then c'.positionAhead else c'.position)⟩ c'

/-- 十進の数字か。 -/
def isDigit (b : UInt8) : Bool := 0x30 ≤ b && b ≤ 0x39

/-- 16 進の数字の値。 -/
def hexValue (b : UInt8) : Option Nat :=
  if 0x30 ≤ b && b ≤ 0x39 then some (b.toNat - 0x30)
  else if 0x61 ≤ b && b ≤ 0x66 then some (b.toNat - 0x57)
  else if 0x41 ≤ b && b ≤ 0x46 then some (b.toNat - 0x37)
  else none

/-- 4 桁の 16 進。 -/
def hex4 (a b c d : UInt8) : Option Nat := do
  let a ← hexValue a
  let b ← hexValue b
  let c ← hexValue c
  let d ← hexValue d
  pure (((a * 16 + b) * 16 + c) * 16 + d)

/-- 一文字エスケープが表す byte。 -/
def simpleEscape (e : UInt8) : Option UInt8 :=
  match e with
  | 0x22 => some 0x22
  | 0x5C => some 0x5C
  | 0x2F => some 0x2F
  | 0x62 => some 0x08
  | 0x66 => some 0x0C
  | 0x6E => some 0x0A
  | 0x72 => some 0x0D
  | 0x74 => some 0x09
  | _ => none

/-- code point を UTF-8 の byte にする（逆順の蓄積に積む）。 -/
def pushCodePoint (n : Nat) (acc : List UInt8) : List UInt8 :=
  (String.utf8EncodeChar (Char.ofNat n)).reverse ++ acc

/-- 文字列の中身を閉じる `"` まで読む。`acc` は読んだ中身（逆順）、`used` は読んだ byte 数。 -/
def scanChars (acc : List UInt8) (used : Nat) : List UInt8 → Scan (List UInt8)
  | [] => .stop .eofWhileParsingString used false
  | 0x22 :: _ => .done acc.reverse (used + 1)
  | [0x5C] => .stop .eofWhileParsingString (used + 1) false
  | 0x5C :: 0x75 :: a :: b :: c :: d :: rest =>
    match hex4 a b c d with
    | none => .stop .invalidEscape (used + 6) false
    | some n =>
      if 0xDC00 ≤ n ∧ n ≤ 0xDFFF then .stop .loneLeadingSurrogateInHexEscape (used + 6) false
      else if n < 0xD800 ∨ 0xDBFF < n then scanChars (pushCodePoint n acc) (used + 6) rest
      else
        match rest with
        | [] => .stop .eofWhileParsingString (used + 6) false
        | [0x5C] => .stop .eofWhileParsingString (used + 7) false
        | 0x5C :: 0x75 :: e :: f :: g :: h :: rest' =>
          match hex4 e f g h with
          | none => .stop .invalidEscape (used + 12) false
          | some m =>
            if 0xDC00 ≤ m ∧ m ≤ 0xDFFF then
              scanChars (pushCodePoint (0x10000 + (n - 0xD800) * 0x400 + (m - 0xDC00)) acc)
                (used + 12) rest'
            else .stop .loneLeadingSurrogateInHexEscape (used + 12) false
        | 0x5C :: 0x75 :: short => .stop .eofWhileParsingString (used + 8 + short.length) false
        | 0x5C :: _ :: _ => .stop .unexpectedEndOfHexEscape (used + 8) false
        | _ :: _ => .stop .unexpectedEndOfHexEscape (used + 7) false
  | 0x5C :: 0x75 :: short => .stop .eofWhileParsingString (used + 2 + short.length) false
  | 0x5C :: e :: rest =>
    match simpleEscape e with
    | some v => scanChars (v :: acc) (used + 2) rest
    | none => .stop .invalidEscape (used + 2) false
  | b :: rest =>
    if b < 0x20 then .stop .controlCharacterWhileParsingString (used + 1) false
    else scanChars (b :: acc) (used + 1) rest

/-- 開いた `"` の後から文字列を読む。中身が UTF-8 でなければ、閉じた後の位置から中身の壊れた
部分の byte 数だけ戻った位置で失敗する。 -/
def scanString (bytes : List UInt8) : Scan String :=
  match scanChars [] 0 bytes with
  | .done raw n =>
    match Utf8.decode? raw with
    | some s => .done s n
    | none => .stop .invalidUnicodeCodePoint (n - (raw.length - Utf8.validPrefix raw)) false
  | .stop code n ahead => .stop code n ahead

/-- 捨てる文字列を閉じる `"` まで読む。UTF-8 は確かめない。 -/
def skipChars (used : Nat) : List UInt8 → Scan Unit
  | [] => .stop .eofWhileParsingString used false
  | 0x22 :: _ => .done () (used + 1)
  | [0x5C] => .stop .eofWhileParsingString (used + 1) false
  | 0x5C :: 0x75 :: a :: b :: c :: d :: rest =>
    match hex4 a b c d with
    | none => .stop .invalidEscape (used + 6) false
    | some _ => skipChars (used + 6) rest
  | 0x5C :: 0x75 :: short => .stop .eofWhileParsingString (used + 2 + short.length) false
  | 0x5C :: e :: rest =>
    match simpleEscape e with
    | some _ => skipChars (used + 2) rest
    | none => .stop .invalidEscape (used + 2) false
  | b :: rest =>
    if b < 0x20 then .stop .controlCharacterWhileParsingString used false
    else skipChars (used + 1) rest

/-- 語の残り（`null` の `ull` など）を読む。 -/
def scanWord (expected : List UInt8) (used : Nat) : List UInt8 → Scan Unit :=
  fun bytes =>
    match expected, bytes with
    | [], _ => .done () used
    | _ :: _, [] => .stop .eofWhileParsingValue used false
    | e :: es, b :: rest =>
      if e = b then scanWord es (used + 1) rest else .stop .expectedSomeIdent (used + 1) false

/-- 64 bit の符号なし整数の最大値。 -/
def u64Max : Nat := Nat.pow 2 64 - 1

/-- 32 bit の符号付き整数に収める（飽和）。 -/
def clampI32 (x : Int) : Int := max (-Int.pow 2 31) (min (Int.pow 2 31 - 1) x)

/-- 数字を、仮数が 64 bit を超えない間だけ取り込む。返すのは仮数、取り込んだ数字の数、
残り、超えたかどうか。 -/
def takeSignificand (sig : Nat) (n : Nat) : List UInt8 → Nat × Nat × List UInt8 × Bool
  | [] => (sig, n, [], false)
  | b :: rest =>
    if isDigit b then
      let s := sig * 10 + (b.toNat - 0x30)
      if s > u64Max then (sig, n, b :: rest, true) else takeSignificand s (n + 1) rest
    else (sig, n, b :: rest, false)

/-- 先頭の数字の数。 -/
def countDigits : List UInt8 → Nat
  | b :: rest => if isDigit b then countDigits rest + 1 else 0
  | [] => 0

/-- 仮数と指数から binary64。範囲外なら失敗。 -/
def fromParts (positive : Bool) (sig : Nat) (exp : Int) (used : Nat) : Scan Json :=
  match Float.ofDecimalParts positive sig exp with
  | some f => .done (.float f) used
  | none => .stop .numberOutOfRange used false

/-- 指数の数字を、32 bit を超えるまで足していく。 -/
def exponentDigits (positive : Bool) (sig : Nat) (start : Int) (positiveExp : Bool) :
    Nat → Nat → List UInt8 → Scan Json
  | exp, used, d :: rest =>
    if isDigit d then
      let e := exp * 10 + (d.toNat - 0x30)
      if e > Nat.pow 2 31 - 1 then
        -- 指数が 32 bit を超えた: 0 でない仮数の正の指数は範囲外、ほかは ±0
        if sig ≠ 0 ∧ positiveExp then .stop .numberOutOfRange (used + 1) false
        else .done (.float (if positive then 0.0 else -0.0)) (used + 1 + countDigits rest)
      else exponentDigits positive sig start positiveExp e (used + 1) rest
    else fromParts positive sig (clampI32 (if positiveExp then start + exp else start - exp)) used
  | exp, used, [] =>
    fromParts positive sig (clampI32 (if positiveExp then start + exp else start - exp)) used

/-- 指数部（`e` の後）を読む。 -/
def scanExponent (positive : Bool) (sig : Nat) (start : Int) (used : Nat) (bytes : List UInt8) :
    Scan Json :=
  let (positiveExp, used, bytes) :=
    match bytes with
    | 0x2B :: rest => (true, used + 1, rest)
    | 0x2D :: rest => (false, used + 1, rest)
    | _ => (true, used, bytes)
  match bytes with
  | [] => .stop .eofWhileParsingValue used false
  | b :: rest =>
    if isDigit b then exponentDigits positive sig start positiveExp (b.toNat - 0x30) (used + 1) rest
    else .stop .invalidNumber (used + 1) false

/-- 仮数が溢れた後の小数部の数字を捨て、指数があれば読む。 -/
def afterOverflowedFraction (positive : Bool) (sig : Nat) (exp : Int) (used : Nat)
    (bytes : List UInt8) : Scan Json :=
  let k := countDigits bytes
  match bytes.drop k with
  | b :: rest => if b = 0x65 || b = 0x45 then scanExponent positive sig exp (used + k + 1) rest
                 else fromParts positive sig exp (used + k)
  | [] => fromParts positive sig exp (used + k)

/-- 小数点の後を読む。 -/
def scanFraction (positive : Bool) (sig : Nat) (before : Int) (used : Nat) (bytes : List UInt8) :
    Scan Json :=
  let (sig', n, rest, overflowed) := takeSignificand sig 0 bytes
  let exp := before - n
  if overflowed then afterOverflowedFraction positive sig' exp (used + n) rest
  else if n = 0 then
    match rest with
    | [] => .stop .eofWhileParsingValue used true
    | _ :: _ => .stop .invalidNumber used true
  else
    match rest with
    | b :: rest' => if b = 0x65 || b = 0x45 then scanExponent positive sig' exp (used + n + 1) rest'
                    else fromParts positive sig' exp (used + n)
    | [] => fromParts positive sig' exp (used + n)

/-- 整数として読み終えた値。負の整数は `-2^63` までが整数、`-0` とそれより小さいものは binary64。 -/
def integerValue (positive : Bool) (sig : Nat) : Json :=
  if positive then .int sig
  else if sig = 0 ∨ Nat.pow 2 63 < sig then .float (-(Float.ofNatNearest sig))
  else .int (-(sig : Int))

/-- 整数部の後（小数点、指数、または終わり）。 -/
def afterInteger (positive : Bool) (sig : Nat) (used : Nat) : List UInt8 → Scan Json
  | 0x2E :: rest => scanFraction positive sig 0 (used + 1) rest
  | b :: rest =>
    if b = 0x65 || b = 0x45 then scanExponent positive sig 0 (used + 1) rest
    else .done (integerValue positive sig) used
  | [] => .done (integerValue positive sig) used

/-- 仮数が溢れた整数部の残りの桁を指数として数える。 -/
def afterLongInteger (positive : Bool) (sig : Nat) (used : Nat) (bytes : List UInt8) : Scan Json :=
  let k := countDigits bytes
  match bytes.drop k with
  | 0x2E :: rest => scanFraction positive sig k (used + k + 1) rest
  | b :: rest =>
    if b = 0x65 || b = 0x45 then scanExponent positive sig k (used + k + 1) rest
    else fromParts positive sig k (used + k)
  | [] => fromParts positive sig k (used + k)

/-- 数を読む。`-` はすでに読んであり、`positive` がその有無を表す。 -/
def scanNumber (positive : Bool) : List UInt8 → Scan Json
  | [] => .stop .eofWhileParsingValue 0 false
  | 0x30 :: rest =>
    match rest with
    | d :: _ => if isDigit d then .stop .invalidNumber 1 true else afterInteger positive 0 1 rest
    | [] => afterInteger positive 0 1 []
  | b :: rest =>
    if isDigit b then
      let (sig, n, rest', overflowed) := takeSignificand (b.toNat - 0x30) 0 rest
      if overflowed then afterLongInteger positive sig (n + 1) rest'
      else afterInteger positive sig (n + 1) rest'
    else .stop .invalidNumber 1 false

/-- 捨てる数を読む。形だけを確かめる。 -/
def skipNumber : List UInt8 → Scan Unit
  | [] => .stop .invalidNumber 0 false
  | b :: rest =>
    if b = 0x30 then
      match rest with
      | d :: _ => if isDigit d then .stop .invalidNumber 1 true else tail 1 rest
      | [] => tail 1 rest
    else if isDigit b then
      let k := countDigits rest
      tail (k + 1) (rest.drop k)
    else .stop .invalidNumber 1 false
where
  exponent (used : Nat) (bytes : List UInt8) : Scan Unit :=
    let (used, bytes) := match bytes with
      | 0x2B :: rest => (used + 1, rest)
      | 0x2D :: rest => (used + 1, rest)
      | _ => (used, bytes)
    match bytes with
    | d :: rest => if isDigit d then .done () (used + 1 + countDigits rest) else .stop .invalidNumber (used + 1) false
    | [] => .stop .invalidNumber used false
  tail (used : Nat) (bytes : List UInt8) : Scan Unit :=
    match bytes with
    | 0x2E :: rest =>
      let k := countDigits rest
      if k = 0 then .stop .invalidNumber (used + 1) true
      else
        match rest.drop k with
        | e :: rest' => if e = 0x65 || e = 0x45 then exponent (used + 1 + k + 1) rest' else .done () (used + 1 + k)
        | [] => .done () (used + 1 + k)
    | e :: rest => if e = 0x65 || e = 0x45 then exponent (used + 1) rest else .done () used
    | [] => .done () used

end HttpRouting.Json
