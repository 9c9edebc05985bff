import HttpRouting.Text.Utf8

/-!
# 要求の URI

要求の URI は次の四つの形のどれかである。

* origin 形 — `/` で始まる経路と、あれば `?` の後の query（`/users?limit=2`）。
* asterisk 形 — `*` だけ。
* authority 形 — 番地だけ（`example.com:80`）。
* absolute 形 — scheme、`://`、番地、経路と query（`http://example.com/p?q=1`）。経路は空でもよい。

`#` から後ろ（fragment）は捨てる。

## 読み方

1. 65534 byte を超えれば「長すぎる」、空なら「空」。
2. 一文字なら、`/` は origin 形、`*` は asterisk 形、ほかは一文字の番地。
3. `/` で始まれば origin 形。
4. ほかは scheme を探す。大文字小文字を問わず `http://` か `https://` で始まればその scheme。
   4 byte 以上あれば、英数字と `+ - . ~` の列に `://` が続くものも scheme になる（64 byte まで、
   先頭が英字でなくてもよい）。
5. scheme の後に何も無ければ「空」。
6. 番地の終わり（`/`、`?`、`#` か末尾）を探す。scheme が無ければ番地が全体でなければならず、
   あれば番地は空であってはならない。

番地に使える文字は英数字と ``! $ & ' ( ) * + , - . ; = _ ~``、区切りの `: @ [ ]`、それに `%` である。
`:` は 8 個まで、`]` の後と `@` の後で数え直し、最後に 2 個以上あれば誤り。`[` と `]` は対に
なり、`@` で終わってはならず、最後の `@` または `]` より後に `%` があってはならない。

経路に使える byte は `0x21`、`0x24`〜`0x3B`、`0x3D`、`0x40`〜`0x5F`、`0x61`〜`0x7A`、`0x7C`、
`0x7E`、`"`、`{`、`}` と `0x80` 以上、query に使える byte は `0x21`、`0x24`〜`0x3B`、`0x3D`、
`0x3F`〜`0x7E` と `0x80` 以上である（`0x7F` はどちらにも使えない）。全体は UTF-8 でなければならない。
-/

namespace HttpRouting

/-- URI を読めなかった理由。 -/
inductive UriError where
  | invalidChar
  | invalidAuthority
  | invalidFormat
  | tooLong
  | empty
  | schemeTooLong
  deriving DecidableEq, Repr

/-- 理由の文。 -/
def UriError.message : UriError → String
  | .invalidChar => "invalid uri character"
  | .invalidAuthority => "invalid authority"
  | .invalidFormat => "invalid format"
  | .tooLong => "uri too long"
  | .empty => "empty string"
  | .schemeTooLong => "scheme too long"

/-- scheme。`http` と `https` は小文字で書き、ほかは書かれたとおりに書く。 -/
inductive Scheme where
  | http
  | https
  | other (name : String)
  deriving DecidableEq

/-- scheme の名前。 -/
def Scheme.name : Scheme → String
  | .http => "http"
  | .https => "https"
  | .other n => n

/-- 経路と query。 -/
structure Target where
  path : String
  query : Option String := none
  deriving DecidableEq

/-- 要求の URI。 -/
inductive Uri where
  | origin (target : Target)
  | asterisk
  | authority (host : String)
  | absolute (scheme : Scheme) (host : String) (target : Target)
  deriving DecidableEq

namespace Uri

/-! ## byte の種類 -/

/-- 経路に使える byte。 -/
def isPathByte (b : UInt8) : Bool :=
  b == 0x21 || (0x24 ≤ b && b ≤ 0x3B) || b == 0x3D || (0x40 ≤ b && b ≤ 0x5F) ||
    (0x61 ≤ b && b ≤ 0x7A) || b == 0x7C || b == 0x7E || b == 0x22 || b == 0x7B || b == 0x7D ||
    0x80 ≤ b

/-- query に使える byte。 -/
def isQueryByte (b : UInt8) : Bool :=
  b == 0x21 || (0x24 ≤ b && b ≤ 0x3B) || b == 0x3D || (0x3F ≤ b && b ≤ 0x7E) || 0x80 ≤ b

/-- 英数字の byte。 -/
def isAlnumByte (b : UInt8) : Bool :=
  (0x30 ≤ b && b ≤ 0x39) || (0x41 ≤ b && b ≤ 0x5A) || (0x61 ≤ b && b ≤ 0x7A)

/-- 番地に区切りとしてでなく使える byte。 -/
def isHostByte (b : UInt8) : Bool :=
  isAlnumByte b || [0x21, 0x24, 0x26, 0x27, 0x28, 0x29, 0x2A, 0x2B, 0x2C, 0x2D, 0x2E, 0x3B, 0x3D,
    0x5F, 0x7E].contains b

/-- scheme に使える byte。英数字と `+ - . ~`。 -/
def isSchemeByte (b : UInt8) : Bool := isAlnumByte b || b == 0x2B || b == 0x2D || b == 0x2E || b == 0x7E

/-- byte の列を文字列に戻す。 -/
def text (bs : List UInt8) : String := Utf8.decodeLossy bs

/-! ## 経路と query -/

/-- 経路と query を読む。`#` から後ろは捨てる。 -/
def Target.parse (bs : List UInt8) : Except UriError Target :=
  let path := bs.takeWhile fun b => b != 0x3F && b != 0x23
  let rest := bs.drop path.length
  if !path.all isPathByte then .error .invalidChar
  else
    match rest with
    | 0x3F :: q =>
      let query := q.takeWhile (· != 0x23)
      if !query.all isQueryByte then .error .invalidChar
      else if (Utf8.decode? (path ++ 0x3F :: query)).isNone then .error .invalidChar
      else .ok ⟨text path, some (text query)⟩
    | _ =>
      if (Utf8.decode? path).isNone then .error .invalidChar
      else .ok ⟨text path, none⟩

/-! ## 番地 -/

/-- 番地を読み進める間の状態。 -/
structure HostScan where
  colons : Nat := 0
  opened : Bool := false
  closed : Bool := false
  percent : Bool := false
  atSign : Option Nat := none

/-- 番地の終わりの位置と、読み終えたときの状態。 -/
def hostScan (i : Nat) (st : HostScan) : List UInt8 → Except UriError (Nat × HostScan)
  | [] => .ok (i, st)
  | b :: bs =>
    if b == 0x2F || b == 0x3F || b == 0x23 then .ok (i, st)
    else if b == 0x3A then
      if st.colons ≥ 8 then .error .invalidAuthority
      else hostScan (i + 1) { st with colons := st.colons + 1 } bs
    else if b == 0x5B then
      if st.percent || st.opened then .error .invalidAuthority
      else hostScan (i + 1) { st with opened := true } bs
    else if b == 0x5D then
      if !st.opened || st.closed then .error .invalidAuthority
      else hostScan (i + 1) { st with closed := true, colons := 0, percent := false } bs
    else if b == 0x40 then hostScan (i + 1) { st with atSign := some i, colons := 0, percent := false } bs
    else if b == 0x25 then hostScan (i + 1) { st with percent := true } bs
    else if isHostByte b then hostScan (i + 1) st bs
    else .error .invalidChar

/-- 番地の終わりの位置。番地の規則に反すれば誤り。 -/
def hostEnd (bs : List UInt8) : Except UriError Nat := do
  let (stop, st) ← hostScan 0 {} bs
  if st.opened != st.closed then .error .invalidAuthority
  else if st.colons > 1 then .error .invalidAuthority
  else if stop > 0 ∧ st.atSign = some (stop - 1) then .error .invalidAuthority
  else if st.percent then .error .invalidAuthority
  else .ok stop

/-! ## scheme -/

/-- scheme を探した結果。`other n` は名前が `n` byte であること。 -/
inductive SchemeFound where
  | none
  | http
  | https
  | other (length : Nat)

/-- ASCII の大文字を小文字にした byte。 -/
def lowerByte (b : UInt8) : UInt8 := if 0x41 ≤ b && b ≤ 0x5A then b + 0x20 else b

/-- `http://` の byte。 -/
def httpMark : List UInt8 := [0x68, 0x74, 0x74, 0x70, 0x3A, 0x2F, 0x2F]

/-- `https://` の byte。 -/
def httpsMark : List UInt8 := [0x68, 0x74, 0x74, 0x70, 0x73, 0x3A, 0x2F, 0x2F]

/-- `i` byte 目から、scheme の名前の後の `://` を探す。 -/
def otherScheme (i : Nat) : List UInt8 → Except UriError SchemeFound
  | [] => .ok .none
  | b :: bs =>
    if b == 0x3A then
      match bs with
      | 0x2F :: 0x2F :: _ => if i > 64 then .error .schemeTooLong else .ok (.other i)
      | _ => .ok .none
    else if isSchemeByte b then otherScheme (i + 1) bs
    else .ok .none

/-- 先頭の scheme を探す。 -/
def findScheme (bs : List UInt8) : Except UriError SchemeFound :=
  if (bs.take 7).map lowerByte = httpMark then .ok .http
  else if (bs.take 8).map lowerByte = httpsMark then .ok .https
  else if bs.length > 3 then otherScheme 0 bs
  else .ok .none

/-! ## 全体 -/

/-- 先頭が `/` でも一文字でもない URI を読む。 -/
def parseFull (bs : List UInt8) : Except UriError Uri := do
  let (scheme, rest) : Option Scheme × List UInt8 ← match ← findScheme bs with
    | .none => pure (none, bs)
    | .http => pure (some .http, bs.drop 7)
    | .https => pure (some .https, bs.drop 8)
    | .other n => pure (some (.other (text (bs.take n))), bs.drop (n + 3))
  let stop ← hostEnd rest
  match scheme with
  | none => if stop ≠ rest.length then .error .invalidFormat else .ok (.authority (text rest))
  | some s =>
    if rest.isEmpty then .error .empty
    else if stop = 0 then .error .invalidFormat
    else .ok (.absolute s (text (rest.take stop)) (← Target.parse (rest.drop stop)))

/-- byte の列から URI を読む。 -/
def ofBytes (bs : List UInt8) : Except UriError Uri :=
  if bs.length > 65534 then .error .tooLong
  else
    match bs with
    | [] => .error .empty
    | [b] =>
      if b == 0x2F then .ok (.origin ⟨"/", none⟩)
      else if b == 0x2A then .ok .asterisk
      else do
        let stop ← hostEnd [b]
        if stop ≠ 1 then .error .invalidChar else .ok (.authority (text [b]))
    | b :: _ => if b == 0x2F then .origin <$> Target.parse bs else parseFull bs

/-- 文字列から URI を読む。 -/
def parse (s : String) : Except UriError Uri := ofBytes (Utf8.encode s)

/-! ## 見方 -/

/-- 経路。absolute 形で経路が空なら `/`、authority 形では空。 -/
def path : Uri → String
  | .origin t => t.path
  | .asterisk => "*"
  | .authority _ => ""
  | .absolute _ _ t => if t.path.isEmpty then "/" else t.path

/-- query。 -/
def query : Uri → Option String
  | .origin t => t.query
  | .absolute _ _ t => t.query
  | _ => none

/-- 書き表し。 -/
def render (u : Uri) : String :=
  let q := match u.query with
    | some q => "?" ++ q
    | none => ""
  match u with
  | .origin _ => u.path ++ q
  | .asterisk => "*"
  | .authority h => h
  | .absolute s h _ => s.name ++ "://" ++ h ++ u.path ++ q

/-- query を置き換える（空なら query を無くす）。経路は `path` のまま残す。query を持てない
asterisk 形と authority 形はそのまま。 -/
def withQuery (u : Uri) (q : String) : Uri :=
  let t : Target := ⟨u.path, if q.isEmpty then none else some q⟩
  match u with
  | .origin _ => .origin t
  | .absolute s h _ => .absolute s h t
  | other => other

end Uri

end HttpRouting
