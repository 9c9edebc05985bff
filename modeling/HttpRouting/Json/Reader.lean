import HttpRouting.Json.Scan

/-!
# JSON の値を読む

入力の頭から一つの値を読む（`Reader.value`）。object は名前の順に並べ、同じ名前は後のほうを
残す。配列と object の読み方は共通で、要素の前の区切りで誤りを見分ける。

* 最初の要素の前に `,` があれば `expected value`（値の読み手が気づく）。
* 要素の後に `,` も閉じ括弧もなければ `expected `,` or `]``（object なら `}`）。
* `,` の直後に閉じ括弧があれば `trailing comma`。
* object の名前が文字列でなければ `key must be a string`。

値を捨てるとき（`Reader.skipValue`）は入れ子を再帰でなく枠の列で追う。深さの上限はなく、
区切りの誤りの言い方も少し違う。

## 停止性

どの読み手も一歩ごとに少なくとも一 byte 読むか、一段深く入る前に一 byte 読む。
燃料は入力の長さの二倍あれば尽きない（`Json.parse` がそれを与える）。
-/

namespace HttpRouting.Json

namespace Reader

/-- 開いた `"` の後から文字列を読む。 -/
def string : Reader String := scan scanString

/-- `:` を読む。 -/
def colon : Reader Unit := do
  match ← blanks with
  | some 0x3A => eat
  | some _ => failAhead .expectedColon
  | none => failAhead .eofWhileParsingObject

/-- 配列の閉じ括弧を確かめる。 -/
def endSeq : Reader Unit := do
  match ← blanks with
  | some 0x5D => eat
  | some 0x2C =>
    eat
    match ← blanks with
    | some 0x5D => failAhead .trailingComma
    | _ => failAhead .trailingCharacters
  | some _ => failAhead .trailingCharacters
  | none => failAhead .eofWhileParsingList

/-- object の閉じ括弧を確かめる。 -/
def endMap : Reader Unit := do
  match ← blanks with
  | some 0x7D => eat
  | some 0x2C => failAhead .trailingComma
  | some _ => failAhead .trailingCharacters
  | none => failAhead .eofWhileParsingObject

/-- 配列の次の要素があるか。`first` は最初の要素の前か。要素があれば、その頭で止まる。 -/
def hasElement (first : Bool) : Reader Bool := do
  match ← blanks with
  | none => failAhead .eofWhileParsingList
  | some 0x5D => pure false
  | some b =>
    if first then pure true
    else if b = 0x2C then
      eat
      match ← blanks with
      | some 0x5D => failAhead .trailingComma
      | some _ => pure true
      | none => failAhead .eofWhileParsingValue
    else failAhead .expectedListCommaOrEnd

/-- object の次の名前があるか。名前があれば、その `"` を読んだところで止まる。 -/
def hasKey (first : Bool) : Reader Bool := do
  match ← blanks with
  | none => failAhead .eofWhileParsingObject
  | some 0x7D => pure false
  | some b =>
    if first then
      if b = 0x22 then do eat; pure true else failAhead .keyMustBeAString
    else if b = 0x2C then
      eat
      match ← blanks with
      | some 0x22 => do eat; pure true
      | some 0x7D => failAhead .trailingComma
      | some _ => failAhead .keyMustBeAString
      | none => failAhead .eofWhileParsingValue
    else failAhead .expectedObjectCommaOrEnd

/-- 語の残りを読む。 -/
def word (rest : List UInt8) : Reader Unit := scan (scanWord rest 0)

/-- `ull`、`rue`、`alse`。 -/
def nullTail : List UInt8 := [0x75, 0x6C, 0x6C]
def trueTail : List UInt8 := [0x72, 0x75, 0x65]
def falseTail : List UInt8 := [0x61, 0x6C, 0x73, 0x65]

mutual

/-- 値を一つ読む。 -/
def value : Nat → Reader Json
  | 0 => fail .eofWhileParsingValue
  | fuel + 1 => positioned do
    match ← blanks with
    | none => failAhead .eofWhileParsingValue
    | some b =>
      if b = 0x6E then do eat; word nullTail; pure .null
      else if b = 0x74 then do eat; word trueTail; pure (.bool true)
      else if b = 0x66 then do eat; word falseTail; pure (.bool false)
      else if b = 0x2D then do eat; scan (scanNumber false)
      else if isDigit b then scan (scanNumber true)
      else if b = 0x22 then do eat; let s ← string; pure (.str s)
      else if b = 0x5B then
        nested (do eat; closing (elements fuel true []) endSeq)
      else if b = 0x7B then
        nested (do eat; closing (members fuel true []) endMap)
      else failAhead .expectedSomeValue

/-- 配列の要素を閉じ括弧の前まで読む。 -/
def elements : Nat → Bool → List Json → Reader Json
  | 0, _, _ => fail .eofWhileParsingList
  | fuel + 1, first, acc => do
    if ← hasElement first then
      let v ← value fuel
      elements fuel false (v :: acc)
    else pure (.arr acc.reverse)

/-- object の組を閉じ括弧の前まで読む。 -/
def members : Nat → Bool → List (String × Json) → Reader Json
  | 0, _, _ => fail .eofWhileParsingObject
  | fuel + 1, first, acc => do
    if ← hasKey first then
      let k ← string
      colon
      let v ← value fuel
      members fuel false (Fields.insert k v acc)
    else pure (.obj acc)

end

/-- 閉じ括弧を読み進める。次の値を読む枠と残りの枠を返す。捨てる値が終われば `none`。 -/
def closeFrames : Nat → UInt8 → Bool → List UInt8 → Reader (Option (UInt8 × List UInt8))
  | 0, _, _, _ => fail .eofWhileParsingValue
  | fuel + 1, frame, acceptComma, stack => do
    match ← blanks with
    | some b =>
      if b = 0x2C && acceptComma then do eat; pure (some (frame, stack))
      else if (b = 0x5D && frame = 0x5B) || (b = 0x7D && frame = 0x7B) then do
        eat
        match stack with
        | [] => pure none
        | f :: rest => closeFrames fuel f true rest
      else if acceptComma then
        failAhead (if frame = 0x5B then .expectedListCommaOrEnd else .expectedObjectCommaOrEnd)
      else pure (some (frame, stack))
    | none => failAhead (if frame = 0x5B then .eofWhileParsingList else .eofWhileParsingObject)

/-- 値を一つ読んで捨てる。`enclosing` は今いる枠、`stack` はその外の枠。 -/
def skipFrom : Nat → Option UInt8 → List UInt8 → Reader Unit
  | 0, _, _ => fail .eofWhileParsingValue
  | fuel + 1, enclosing, stack => do
    match ← blanks with
    | none => failAhead .eofWhileParsingValue
    | some b =>
      let opened ← (do
        if b = 0x6E then do eat; word nullTail; pure none
        else if b = 0x74 then do eat; word trueTail; pure none
        else if b = 0x66 then do eat; word falseTail; pure none
        else if b = 0x2D then do eat; scan skipNumber; pure none
        else if isDigit b then do scan skipNumber; pure none
        else if b = 0x22 then do eat; scan (skipChars 0); pure none
        else if b = 0x5B || b = 0x7B then do eat; pure (some b)
        else failAhead .expectedSomeValue : Reader (Option UInt8))
      let next : Option (UInt8 × Bool × List UInt8) :=
        match opened with
        | some f => some (f, false, enclosing.toList ++ stack)
        | none =>
          match enclosing with
          | some f => some (f, true, stack)
          | none =>
            match stack with
            | f :: rest => some (f, true, rest)
            | [] => none
      match next with
      | none => pure ()
      | some (frame, acceptComma, stk) =>
        match ← closeFrames fuel frame acceptComma stk with
        | none => pure ()
        | some (frame, stk) =>
          if frame = 0x7B then do
            match ← blanks with
            | some 0x22 => eat
            | some _ => failAhead .keyMustBeAString
            | none => failAhead .eofWhileParsingObject
            scan (skipChars 0)
            match ← blanks with
            | some 0x3A => eat
            | some _ => failAhead .expectedColon
            | none => failAhead .eofWhileParsingObject
          skipFrom fuel (some frame) stk

/-- 値を一つ読んで捨てる。 -/
def skipValue (fuel : Nat) : Reader Unit := skipFrom fuel none []

/-- 値の後に空白しか残っていないことを確かめる。 -/
def finish : Reader Unit := do
  match ← blanks with
  | some _ => failAhead .trailingCharacters
  | none => pure ()

/-- 入力の長さから決まる燃料。 -/
def fuelFor (input : List UInt8) : Nat := 2 * input.length + 2

end Reader

/-- byte 列を一つの JSON の値として読む。 -/
def parse (input : List UInt8) : Except DecodeError Json :=
  match Reader.run (do let v ← Reader.value (Reader.fuelFor input); Reader.finish; pure v) input with
  | .ok (v, _) => .ok v
  | .error e => .error e

/-- 文字列を一つの JSON の値として読む。 -/
def parseString (s : String) : Except DecodeError Json := parse (Utf8.encode s)

end HttpRouting.Json
