/-!
# 待ち受けの番地

待ち受けの番地は IP の番地と port の組である。

## 読み方（`ListenAddress.parse?`）

`:` で始まる文字列は `0.0.0.0` を前に補う（`:8080` は `0.0.0.0:8080`）。そのうえで次の形を読む。

* `a.b.c.d:port` — 四つの十進の数（それぞれ 3 桁まで、255 まで、0 以外は 0 で始まらない）。
* `[v6]:port`、`[v6%scope]:port` — IPv6 の番地（16 進の 4 桁までの組を `:` で区切り、`::` で
  0 の組を省ける。最後の二組の代わりに IPv4 の番地を書ける）。

port は十進の数で 65535 まで（0 で始まってよい）。

## 名前としての番地（`ListenAddress.resolve?`）

この形で読めなければ、最後の `:` で名前と port に分ける。port は十進の数で、`+` を前に付けて
よい。名前は数で書いた番地でなければならない（名前の引き当てはしない）。

* IPv4 — `.` で区切った一つから四つの数。数は C の書き方で、`0x` の後は 16 進、`0` で始まれば
  8 進、ほかは 10 進。最後の数は残りの byte をまとめて表す（`a.b.c` の `c` は 16 bit、`a.b` の
  `b` は 24 bit、`a` だけなら 32 bit）。ほかの数は 255 まで。`127.1` は `127.0.0.1`。
* IPv6 — 括弧なしの IPv6 の番地。16 進の 4 桁までの組、`::` は一度だけ、最後の組の代わりに
  点つき四つ組（各数 255 まで、0 で始まらない）。`%` の後に scope を書ける。link-local と
  link・node 範囲の multicast の番地では scope をまず interface の名前として引き、
  ほかは十進の数（32 bit まで）として読む。

## 書き方

IPv4 は `a.b.c.d:port`。IPv6 は `[…]:port` で、`::ffff:a.b.c.d` の形の番地は IPv4 の部分を
十進で書き、ほかは 16 進の小文字で、二組以上続く 0 の組のうち最初の最長のものを `::` にする。
-/

namespace HttpRouting

/-- IP の番地と port。 -/
inductive ListenAddress where
  /-- IPv4 の番地（四つの byte）と port。 -/
  | v4 (octets : List Nat) (port : Nat)
  /-- IPv6 の番地（八つの 16 bit の組）、scope と port。 -/
  | v6 (segments : List Nat) (scope : Nat) (port : Nat)
  deriving DecidableEq, Repr

namespace ListenAddress

/-! ## 読む -/

/-- 基数 `radix` での数字の値。 -/
def digitValue (radix : Nat) (c : Char) : Option Nat :=
  let v := if '0' ≤ c ∧ c ≤ '9' then some (c.toNat - '0'.toNat)
    else if 'a' ≤ c ∧ c ≤ 'z' then some (c.toNat - 'a'.toNat + 10)
    else if 'A' ≤ c ∧ c ≤ 'Z' then some (c.toNat - 'A'.toNat + 10)
    else none
  v.filter (· < radix)

/-- 数を読む。数字が無い、`maxDigits` 桁を超える、`bound` 以上、0 で始まることを許さないのに
0 で始まる二桁以上、のどれかなら読めない。 -/
def number (radix : Nat) (maxDigits : Option Nat) (zeroPrefix : Bool) (bound : Nat) (cs : List Char) :
    Option (Nat × List Char) :=
  let ds := cs.takeWhile fun c => (digitValue radix c).isSome
  let v := ds.foldl (fun acc c => acc * radix + (digitValue radix c).getD 0) 0
  if ds.isEmpty then none
  else if maxDigits.any (ds.length > ·) then none
  else if v ≥ bound then none
  else if !zeroPrefix && ds.head? = some '0' && ds.length > 1 then none
  else some (v, cs.drop ds.length)

/-- 一文字を読む。 -/
def char (c : Char) : List Char → Option (List Char)
  | d :: cs => if c = d then some cs else none
  | [] => none

/-- IPv4 の番地を読む。 -/
def ipv4 (cs : List Char) : Option (List Nat × List Char) := do
  let (a, cs) ← number 10 (some 3) false 256 cs
  let (b, cs) ← number 10 (some 3) false 256 (← char '.' cs)
  let (c, cs) ← number 10 (some 3) false 256 (← char '.' cs)
  let (d, cs) ← number 10 (some 3) false 256 (← char '.' cs)
  pure ([a, b, c, d], cs)

/-- `i` 番目の区切り（最初の前には無い）の後に `p` を読む。 -/
def separated (sep : Char) (i : Nat) (p : List Char → Option (α × List Char)) (cs : List Char) :
    Option (α × List Char) :=
  if i > 0 then (char sep cs).bind p else p cs

/-- IPv6 の組を `limit` 個まで読む。読んだ組と、最後に IPv4 の番地を読んだかを返す。 -/
def groups (limit : Nat) : Nat → List Char → List Nat × Bool × List Char
  | 0, cs => ([], false, cs)
  | fuel + 1, cs =>
    let i := limit - (fuel + 1)
    let v4 := if i + 1 < limit then separated ':' i ipv4 cs else none
    match v4 with
    | some ([a, b, c, d], rest) => ([a * 256 + b, c * 256 + d], true, rest)
    | _ =>
      match separated ':' i (number 16 (some 4) true 65536) cs with
      | some (g, rest) =>
        let (gs, v4, rest) := groups limit fuel rest
        (g :: gs, v4, rest)
      | none => ([], false, cs)

/-- IPv6 の番地を読む。 -/
def ipv6 (cs : List Char) : Option (List Nat × List Char) := do
  let (head, headV4, cs) := groups 8 8 cs
  if head.length = 8 then return (head, cs)
  if headV4 then none
  let cs ← char ':' cs
  let cs ← char ':' cs
  let limit := 8 - (head.length + 1)
  let (tail, _, cs) := groups limit limit cs
  pure (head ++ List.replicate (8 - head.length - tail.length) 0 ++ tail, cs)

/-- `:port` を読む。 -/
def port (cs : List Char) : Option (Nat × List Char) := (char ':' cs).bind (number 10 none true 65536)

/-- `[v6%scope]:port` を読む。 -/
def socketV6 (cs : List Char) : Option (ListenAddress × List Char) := do
  let cs ← char '[' cs
  let (segs, cs) ← ipv6 cs
  let (scope, cs) := ((char '%' cs).bind (number 10 none true 4294967296)).getD (0, cs)
  let cs ← char ']' cs
  let (p, cs) ← port cs
  pure (.v6 segs scope p, cs)

/-- `a.b.c.d:port` を読む。 -/
def socketV4 (cs : List Char) : Option (ListenAddress × List Char) := do
  let (o, cs) ← ipv4 cs
  let (p, cs) ← port cs
  pure (.v4 o p, cs)

/-- 全体が一つの番地なら読む。 -/
def socket? (cs : List Char) : Option ListenAddress :=
  match socketV4 cs with
  | some (a, []) => some a
  | _ =>
    match socketV6 cs with
    | some (a, []) => some a
    | _ => none

/-- 十進の port（`+` を前に付けてよい）を読む。 -/
def portText? (cs : List Char) : Option Nat :=
  let ds := match cs with
    | '+' :: ds => ds
    | ds => ds
  if ds.isEmpty || !ds.all Char.isDigit then none
  else
    let v := ds.foldl (fun acc c => acc * 10 + (c.toNat - '0'.toNat)) 0
    if v < 65536 then some v else none

/-! ## 名前としての番地 -/

/-- 数字の列の値。 -/
def valueOf (radix : Nat) (ds : List Char) : Nat :=
  ds.foldl (fun acc c => acc * radix + (digitValue radix c).getD 0) 0

/-- 基数 `radix` の数字の最長の頭と、その残り。 -/
def digitsOf (radix : Nat) (cs : List Char) : List Char × List Char :=
  (cs.takeWhile fun c => (digitValue radix c).isSome, cs.dropWhile fun c => (digitValue radix c).isSome)

/-- C の整数の書き方で数を一つ読む。数字で始まらなければ読めない。`0x` か `0X` の後に 16 進の
数字があれば 16 進、`0` で始まれば 8 進、ほかは 10 進。 -/
def cNumber : List Char → Option (Nat × List Char)
  | '0' :: x :: rest =>
    if (x == 'x' || x == 'X') && (rest.head?.bind (digitValue 16)).isSome then
      let (ds, rest) := digitsOf 16 rest
      some (valueOf 16 ds, rest)
    else
      let (ds, rest) := digitsOf 8 (x :: rest)
      some (valueOf 8 ds, rest)
  | c :: rest =>
    if c.isDigit then
      let (ds, rest) := digitsOf 10 (c :: rest)
      some (valueOf 10 ds, rest)
    else none
  | [] => none

/-- `sep` で区切った部分。区切りが無ければ全体が一つの部分。 -/
def fields (sep : Char) : List Char → List (List Char)
  | [] => [[]]
  | c :: cs =>
    if c = sep then [] :: fields sep cs
    else
      match fields sep cs with
      | p :: ps => (c :: p) :: ps
      | [] => [[c]]

/-- 32 bit の値を四つの byte に分ける。 -/
def octetsOf (w : Nat) : List Nat := [w / Nat.pow 2 24 % 256, w / Nat.pow 2 16 % 256, w / Nat.pow 2 8 % 256, w % 256]

/-- 数で書いた IPv4 の番地（C の数の書き方、一つから四つの部分）。 -/
def looseIpv4 (cs : List Char) : Option (List Nat) := do
  let parts ← (fields '.' cs).mapM fun p =>
    match cNumber p with
    | some (v, []) => if v ≤ 0xFFFFFFFF then some v else none
    | _ => none
  let (init, last) ← match parts.reverse with
    | last :: init => some (init.reverse, last)
    | [] => none
  if init.length > 3 || init.any (· > 255) then none
  if last ≥ Nat.pow 2 (8 * (4 - init.length)) then none
  let high := (init.zipIdx.map fun (v, i) => v * Nat.pow 2 (24 - 8 * i)).foldr (· + ·) 0
  pure (octetsOf (high + last))

/-- 点つき四つ組の IPv4 の番地（各数は 10 進で 255 まで、0 だけのとき以外は 0 で始まらない）。 -/
def dottedQuad (cs : List Char) : Option (List Nat) :=
  let parts := fields '.' cs
  let wellFormed := fun (p : List Char) =>
    !p.isEmpty && p.all Char.isDigit && !(p.length > 1 && p.head? == some '0') && valueOf 10 p ≤ 255
  if parts.length = 4 && parts.all wellFormed then some (parts.map (valueOf 10)) else none

/-- 書いた組を `::` の位置 `gap` で広げて八つにする。 -/
def fillGap (written : List Nat) : Option Nat → Option (List Nat)
  | some k =>
    if written.length < 8 then
      some (written.take k ++ List.replicate (8 - written.length) 0 ++ written.drop k)
    else none
  | none => if written.length = 8 then some written else none

/-- 括弧なしの IPv6 の番地を一文字ずつ読む。`tok` は最後の `:` の後ろ、`written` は書き終えた組、
`gap` は `::` の位置、`digits` と `val` は読みかけの組の桁数と値。 -/
def looseIpv6.go (tok : List Char) (written : List Nat) (gap : Option Nat) (digits val : Nat) :
    List Char → Option (List Nat)
  | [] =>
    if digits = 0 then fillGap written gap
    else if written.length ≥ 8 then none
    else fillGap (written ++ [val]) gap
  | c :: rest =>
    match digitValue 16 c with
    | some d => if digits = 4 then none else go tok written gap (digits + 1) (val * 16 + d) rest
    | none =>
      if c = ':' then
        if digits = 0 then
          if gap.isSome then none else go rest written (some written.length) 0 0 rest
        else if rest.isEmpty || written.length ≥ 8 then none
        else go rest (written ++ [val]) gap 0 0 rest
      else if c = '.' && written.length + 2 ≤ 8 then
        match dottedQuad tok with
        | some [a, b, e, f] => fillGap (written ++ [a * 256 + b, e * 256 + f]) gap
        | _ => none
      else none

/-- 括弧なしの IPv6 の番地（八つの組）。 -/
def looseIpv6 : List Char → Option (List Nat)
  | [] => none
  | ':' :: rest =>
    match rest with
    | ':' :: _ => looseIpv6.go rest [] none 0 0 rest
    | _ => none
  | cs => looseIpv6.go cs [] none 0 0 cs

/-- scope を interface の名前で引く番地か: link-local（`fe80::/10`）と、node・link 範囲の
multicast。 -/
def linkScoped (segs : List Nat) : Bool :=
  match segs with
  | g :: _ => g / 64 == 0xFE80 / 64 || (g / 256 == 0xFF && (g % 16 == 1 || g % 16 == 2))
  | [] => false

/-- `%` の後の scope の番号。`interfaces` は interface の名前と番号の表。 -/
def scopeId (interfaces : List (String × Nat)) (segs : List Nat) (scope : List Char) : Option Nat :=
  let byName := if linkScoped segs then interfaces.lookup (String.ofList scope) else none
  byName.orElse fun _ =>
    if !scope.isEmpty && scope.all Char.isDigit && valueOf 10 scope ≤ 0xFFFFFFFF then
      some (valueOf 10 scope)
    else none

/-- 数で書いた名前を番地にする。 -/
def hostAddress (interfaces : List (String × Nat)) (host : List Char) (p : Nat) :
    Option ListenAddress :=
  match looseIpv4 host with
  | some o => some (.v4 o p)
  | none =>
    let addr := host.takeWhile (· ≠ '%')
    let scope := (host.dropWhile (· ≠ '%')).drop 1
    match looseIpv6 addr with
    | none => none
    | some segs =>
      if host.contains '%' then (scopeId interfaces segs scope).map fun s => .v6 segs s p
      else some (.v6 segs 0 p)

/-- 名前と port に分けて読む。名前は数で書いた番地でなければならない。 -/
def resolve? (interfaces : List (String × Nat)) (cs : List Char) : Option ListenAddress := do
  let i ← (List.range cs.length).reverse.find? fun i => cs[i]? = some ':'
  let p ← portText? (cs.drop (i + 1))
  hostAddress interfaces (cs.take i) p

/-- loopback だけを持つ計算機の interface の表。 -/
def loopbackOnly : List (String × Nat) := [("lo", 1)]

/-- 待ち受けの番地の文字列を読む。`interfaces` は scope の名前を引く interface の表。 -/
def parse? (interfaces : List (String × Nat)) (s : String) : Option ListenAddress :=
  let full := match s.toList with
    | ':' :: rest => "0.0.0.0:".toList ++ rest
    | cs => cs
  (socket? full).orElse fun _ => resolve? interfaces full

/-! ## 書く -/

/-- 16 進の小文字。 -/
def hex (n : Nat) : String := String.ofList (Nat.toDigits 16 n)

/-- 組を `:` でつなぐ。 -/
def joinGroups (gs : List Nat) : String := ":".intercalate (gs.map hex)

/-- 0 の組の最初の最長の連なり（始まりと長さ）。 -/
def zeroRun (segs : List Nat) : Nat × Nat :=
  let step := fun (acc : (Nat × Nat) × (Nat × Nat) × Nat) (g : Nat) =>
    let (best, cur, i) := acc
    if g = 0 then
      let cur := if cur.2 = 0 then (i, 1) else (cur.1, cur.2 + 1)
      (if cur.2 > best.2 then cur else best, cur, i + 1)
    else (best, (0, 0), i + 1)
  (segs.foldl step ((0, 0), (0, 0), 0)).1

/-- IPv6 の番地の書き方。 -/
def ipv6Text (segs : List Nat) : String :=
  match segs with
  | [0, 0, 0, 0, 0, 0xFFFF, x, y] =>
    "::ffff:" ++ toString (x / 256) ++ "." ++ toString (x % 256) ++ "." ++ toString (y / 256) ++ "." ++
      toString (y % 256)
  | _ =>
    let (start, len) := zeroRun segs
    if len > 1 then joinGroups (segs.take start) ++ "::" ++ joinGroups (segs.drop (start + len))
    else joinGroups segs

/-- 番地の書き方。 -/
def render : ListenAddress → String
  | .v4 o p => ".".intercalate (o.map toString) ++ ":" ++ toString p
  | .v6 segs scope p =>
    "[" ++ ipv6Text segs ++ (if scope = 0 then "" else "%" ++ toString scope) ++ "]:" ++ toString p

end ListenAddress

end HttpRouting
