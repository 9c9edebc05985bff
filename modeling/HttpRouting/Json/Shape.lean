import HttpRouting.Json.Reader

/-!
# 形に沿って JSON を読む

`Shape` は、読み込む型の形（文字列、真偽値、任意の値、省略可、列、名前付きの表、
名前だけの選択肢、名前付きの項目を持つ記録）を表す。二通りの読み方がある。

* `Shape.read` — byte 列から直接読む。形に合わないものは、それを読み終えたところの位置で
  失敗する。記録の読み方は次のとおり。
  * `{…}` の形: 名前で項目を選ぶ。知らない名前の値は読み捨てる。同じ項目が二度あれば
    `duplicate field`（名前を読んだところ）。閉じた後、必須の項目が欠けていれば宣言順の最初を
    `missing field` として報告する。位置は閉じ括弧の後。
  * `[…]` の形: 宣言順に要素を当てる。足りない必須の項目は `invalid length`。

  選択肢は名前の文字列か、名前一つを鍵とし `null` を値とする `{…}`。後者で鍵の代わりに
  `}` が来れば `expected value`、文字列でないものが来れば `key must be a string`、入力が
  終われば `EOF while parsing an object`（どれも次の byte の位置）。
* `Shape.ofValue` — 読み込んだ値から読む。位置はない。object は名前の順に見る。

どちらも結果は「正規形」の値である。記録は宣言順のすべての項目を持つ object で、欠けた
省略可の項目には既定値（`Shape.default`）が入る。選択肢は名前の文字列になる。
-/

namespace HttpRouting.Json

/-- 読み込む型の形。 -/
inductive Shape where
  /-- 文字列。 -/
  | text
  /-- 真偽値。 -/
  | flag
  /-- 任意の JSON の値。 -/
  | any
  /-- `null` なら無し。 -/
  | optional (inner : Shape)
  /-- 列。 -/
  | list (item : Shape)
  /-- 文字列の名前から値への表。 -/
  | dict (item : Shape)
  /-- 名前だけの選択肢。 -/
  | choice (name : String) (variants : List String)
  /-- 名前付きの項目を持つ記録。項目は（名前、形、必須か）。 -/
  | record (name : String) (fields : List (String × Shape × Bool))

namespace Shape

/-- 欠けたときの既定値。 -/
def default : Shape → Json
  | .text => .str ""
  | .flag => .bool false
  | .any => .null
  | .optional _ => .null
  | .list _ => .arr []
  | .dict _ => .obj []
  | .choice _ variants => .str (variants.headD "")
  | .record _ fields => .obj (defaults fields)
where
  /-- 各項目の既定値。 -/
  defaults : List (String × Shape × Bool) → List (String × Json)
    | [] => []
    | (n, s, _) :: rest => (n, default s) :: defaults rest

/-- 形が期待するものの言い方。 -/
def expecting : Shape → String
  | .text => "a string"
  | .flag => "a boolean"
  | .any => "any valid JSON value"
  | .optional _ => "option"
  | .list _ => "a sequence"
  | .dict _ => "a map"
  | .choice _ _ => "variant identifier"
  | .record name _ => "struct " ++ name

/-- 記録を列の形で書いたときの長さの言い方。 -/
def recordLength (name : String) (n : Nat) : String :=
  "struct " ++ name ++ " with " ++ toString n ++ (if n = 1 then " element" else " elements")

/-- 選択肢の名前を確かめる。 -/
def pickVariant (variants : List String) (v : String) : Except Problem Json :=
  if variants.contains v then .ok (.str v) else .error (.unknownVariant v variants)

/-- 項目の名前の番号。 -/
def fieldIndex (fields : List (String × Shape × Bool)) (k : String) : Option Nat :=
  fields.findIdx? (·.1 = k)

/-- 読んだ項目の値から、宣言順の正規形を作る。必須の項目が欠けていれば、その名前。 -/
def assemble (fields : List (String × Shape × Bool)) (got : List (Nat × Json)) :
    Except Problem Json :=
  let rec go : Nat → List (String × Shape × Bool) → Except Problem (List (String × Json))
    | _, [] => .ok []
    | i, (n, s, required) :: rest => do
      let v ← match got.lookup i with
        | some v => .ok v
        | none => if required then .error (.missingField n) else .ok s.default
      let vs ← go (i + 1) rest
      pure ((n, v) :: vs)
  (go 0 fields).map .obj

end Shape

namespace Reader

/-- 形に合わないものを読んだ: 何であったかを読み取り、読み終えた位置で `invalid type` にする。 -/
def mismatch (expected : String) : Reader α := positioned do
  match ← peek with
  | some 0x6E => do eat; word nullTail; raise (.invalidType .unit expected)
  | some 0x74 => do eat; word trueTail; raise (.invalidType (.bool true) expected)
  | some 0x66 => do eat; word falseTail; raise (.invalidType (.bool false) expected)
  | some 0x2D => do
    eat
    let n ← scan (scanNumber false)
    raise (.invalidType (Found.ofJson n) expected)
  | some 0x22 => do
    eat
    let s ← string
    raise (.invalidType (.str s) expected)
  | some 0x5B => raise (.invalidType .seq expected)
  | some 0x7B => raise (.invalidType .map expected)
  | some b =>
    if isDigit b then do
      let n ← scan (scanNumber true)
      raise (.invalidType (Found.ofJson n) expected)
    else failAhead .expectedSomeValue
  | none => failAhead .expectedSomeValue

/-- 失敗を位置なしで起こす `Except` を読み手にする。 -/
def lift : Except Problem α → Reader α
  | .ok a => pure a
  | .error p => raise p

mutual

/-- 形 `s` に沿って値を一つ読む。 -/
def shaped : Nat → Shape → Reader Json
  | 0, _ => fail .eofWhileParsingValue
  | fuel + 1, .any => value fuel
  | fuel + 1, .optional inner => do
    match ← blanks with
    | some 0x6E => do eat; word nullTail; pure .null
    | _ => shaped fuel inner
  | _ + 1, .text => positioned do
    match ← blanks with
    | none => failAhead .eofWhileParsingValue
    | some 0x22 => do eat; let s ← string; pure (.str s)
    | some _ => mismatch "a string"
  | _ + 1, .flag => positioned do
    match ← blanks with
    | none => failAhead .eofWhileParsingValue
    | some 0x74 => do eat; word trueTail; pure (.bool true)
    | some 0x66 => do eat; word falseTail; pure (.bool false)
    | some _ => mismatch "a boolean"
  | fuel + 1, .list item => positioned do
    match ← blanks with
    | none => failAhead .eofWhileParsingValue
    | some 0x5B => nested (do eat; closing (listItems fuel item true []) endSeq)
    | some _ => mismatch "a sequence"
  | fuel + 1, .dict item => positioned do
    match ← blanks with
    | none => failAhead .eofWhileParsingValue
    | some 0x7B => nested (do eat; closing (dictEntries fuel item true []) endMap)
    | some _ => mismatch "a map"
  | _ + 1, .choice _ variants => do
    match ← blanks with
    | some 0x22 => positioned do
      eat
      let v ← string
      lift (Shape.pickVariant variants v)
    | some 0x7B => nested do
      eat
      let v ← positioned do
        match ← blanks with
        | some 0x22 => do eat; let v ← string; lift (Shape.pickVariant variants v)
        | some 0x7D => failAhead .expectedSomeValue
        | some _ => failAhead .keyMustBeAString
        | none => failAhead .eofWhileParsingObject
      colon
      let _ ← positioned do
        match ← blanks with
        | some 0x6E => do eat; word nullTail; pure Json.null
        | some _ => mismatch "unit"
        | none => failAhead .eofWhileParsingValue
      match ← blanks with
      | some 0x7D => do eat; pure v
      | some _ => fail .expectedSomeValue
      | none => fail .eofWhileParsingObject
    | some _ => failAhead .expectedSomeValue
    | none => failAhead .eofWhileParsingValue
  | fuel + 1, .record name fields => positioned do
    match ← blanks with
    | none => failAhead .eofWhileParsingValue
    | some 0x5B => nested (do eat; closing (recordItems fuel name fields fields.length 0 true []) endSeq)
    | some 0x7B => nested (do eat; closing (recordEntries fuel fields true []) endMap)
    | some _ => mismatch ("struct " ++ name)

/-- 列の要素を読む。 -/
def listItems : Nat → Shape → Bool → List Json → Reader Json
  | 0, _, _, _ => fail .eofWhileParsingList
  | fuel + 1, item, first, acc => do
    if ← hasElement first then
      let v ← shaped fuel item
      listItems fuel item false (v :: acc)
    else pure (.arr acc.reverse)

/-- 表の組を読む。同じ名前は後のほうが残る。 -/
def dictEntries : Nat → Shape → Bool → List (String × Json) → Reader Json
  | 0, _, _, _ => fail .eofWhileParsingObject
  | fuel + 1, item, first, acc => do
    if ← hasKey first then
      let k ← string
      colon
      let v ← shaped fuel item
      dictEntries fuel item false (Fields.insert k v acc)
    else pure (.obj acc)

/-- 記録を `{…}` の形で読む。`got` は読んだ項目（番号と値）。 -/
def recordEntries : Nat → List (String × Shape × Bool) → Bool → List (Nat × Json) → Reader Json
  | 0, _, _, _ => fail .eofWhileParsingObject
  | fuel + 1, fields, first, got => do
    if ← hasKey first then
      let k ← string
      match Shape.fieldIndex fields k with
      | some i =>
        if (got.lookup i).isSome then raise (.duplicateField k)
        else
          colon
          let v ← shaped fuel ((fields[i]?.map (·.2.1)).getD .any)
          recordEntries fuel fields false ((i, v) :: got)
      | none =>
        colon
        skipValue fuel
        recordEntries fuel fields false got
    else lift (Shape.assemble fields got)

/-- 記録を `[…]` の形で読む。`i` は次の項目の番号。 -/
def recordItems : Nat → String → List (String × Shape × Bool) → Nat → Nat → Bool →
    List (Nat × Json) → Reader Json
  | 0, _, _, _, _, _, _ => fail .eofWhileParsingList
  | fuel + 1, name, fields, total, i, first, got =>
    match fields[i]? with
    | none => lift (Shape.assemble fields got)
    | some (_, s, required) => do
      if ← hasElement first then
        let v ← shaped fuel s
        recordItems fuel name fields total (i + 1) false ((i, v) :: got)
      else if required then raise (.invalidLength i (Shape.recordLength name total))
      else recordItems fuel name fields total (i + 1) first got

end

end Reader

namespace Shape

/-- byte 列を形 `s` に沿って一つの値として読む。 -/
def read (s : Shape) (input : List UInt8) : Except DecodeError Json :=
  match Reader.run (do let v ← Reader.shaped (Reader.fuelFor input) s; Reader.finish; pure v) input with
  | .ok (v, _) => .ok v
  | .error e => .error e

/-- 文字列を形 `s` に沿って読む。 -/
def readString (s : Shape) (text : String) : Except DecodeError Json := s.read (Utf8.encode text)

/-- 記録を列の形で読んだ項目から、足りない項目を補う。欠けた必須の項目があれば、最初のものの番号で失敗する。 -/
def fillMissing (name : String) (fields : List (String × Shape × Bool)) (n : Nat) :
    Except Problem (List (Nat × Json)) :=
  let rec go : Nat → List (String × Shape × Bool) → Except Problem (List (Nat × Json))
    | _, [] => .ok []
    | i, (_, s, required) :: rest =>
      if required then .error (.invalidLength i (recordLength name fields.length))
      else (go (i + 1) rest).map ((i, s.default) :: ·)
  go n (fields.drop n)

/-- 読み込んだ値を形 `s` に沿って読む。 -/
def ofValue (s : Shape) (v : Json) : Except Problem Json :=
  match s, v with
  | .any, v => .ok v
  | .text, .str t => .ok (.str t)
  | .text, v => .error (.invalidType (Found.ofJson v) "a string")
  | .flag, .bool b => .ok (.bool b)
  | .flag, v => .error (.invalidType (Found.ofJson v) "a boolean")
  | .optional _, .null => .ok .null
  | .optional inner, v => ofValue inner v
  | .list item, .arr xs =>
    let items : Except Problem (List Json) := xs.attach.mapM fun (⟨x, _⟩ : Subtype (· ∈ xs)) => ofValue item x
    items.map .arr
  | .list _, v => .error (.invalidType (Found.ofJson v) "a sequence")
  | .dict item, .obj fs =>
    let entries : Except Problem (List (String × Json)) :=
      fs.attach.mapM fun (⟨(k, x), _⟩ : Subtype (· ∈ fs)) => (ofValue item x).map ((k, ·))
    entries.map .obj
  | .dict _, v => .error (.invalidType (Found.ofJson v) "a map")
  | .choice _ variants, .str t => pickVariant variants t
  | .choice _ variants, .obj [(k, .null)] => pickVariant variants k
  | .choice _ variants, .obj [(k, x)] => do
    let _ ← pickVariant variants k
    .error (.invalidType (Found.ofJson x) "unit")
  | .choice _ _, .obj _ => .error (.invalidValue .map "map with a single key")
  | .choice _ _, v => .error (.invalidType (Found.ofJson v) "string or map")
  | .record _ fields, .obj fs => do
    let got ← fs.attach.foldlM (fun (got : List (Nat × Json)) (⟨(k, x), _⟩ : Subtype (· ∈ fs)) =>
      match fieldIndex fields k with
      | some i =>
        match fields[i]? with
        | some (_, fs', _) => (ofValue fs' x).map fun w => (i, w) :: got
        | none => .ok got
      | none => .ok got) []
    assemble fields got
  | .record name fields, .arr xs => do
    let pairs : List (Nat × (String × Shape × Bool) × Subtype (· ∈ xs)) :=
      (List.range fields.length).zip (fields.zip xs.attach)
    let got ← pairs.mapM fun p =>
      match p with
      | (i, (_, fs', _), ⟨x, _⟩) => (ofValue fs' x).map ((i, ·))
    let rest ← fillMissing name fields xs.length
    if xs.length > fields.length then .error (.invalidLength xs.length "fewer elements in array")
    else assemble fields (got ++ rest)
  | .record name _, v => .error (.invalidType (Found.ofJson v) ("struct " ++ name))
termination_by (sizeOf v, sizeOf s)
decreasing_by
  all_goals first
    | exact Prod.Lex.left _ _ (sizeOf_lt_arr (by assumption))
    | exact Prod.Lex.left _ _ (sizeOf_lt_obj (by assumption))
    | (apply Prod.Lex.right; simp only [Shape.optional.sizeOf_spec]; omega)

end Shape

end HttpRouting.Json
