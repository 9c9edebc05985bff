/-!
# UTF-8

byte の列と文字の列のあいだの行き来。書くほうは core の `String.utf8EncodeChar` をそのまま使い、
読むほうは RFC 3629 §4 の構文を一 byte ずつ進む機械で書く。

## 壊れた列の読み方

`decodeLossy` は読めない部分を U+FFFD に置き換える。置き換えの単位は Unicode の
「maximal subpart」である。機械が byte を拒んだとき、それまでに受け入れた先頭部分を一つの
U+FFFD にし、拒まれた byte はもう一度、文字の先頭として読み直す。先頭として拒まれた byte は
それ一つで U+FFFD になる。

## 停止性

`decodeLossy.go` の測度は (残りの byte 数, 途中の文字があるか) の辞書式順序である。
拒まれた byte を読み直す枝だけが残りを減らさず、途中の文字を捨てる。
-/

namespace HttpRouting.Utf8

/-- 文字列を UTF-8 の byte 列にする。 -/
def encode (s : String) : List UInt8 :=
  s.toList.flatMap String.utf8EncodeChar

/-- 文字の途中で、次の継続 byte に求める範囲と、ここまでに組み立てた値。 -/
structure Pending where
  /-- あと何個の継続 byte が要るか。 -/
  owed : Nat
  /-- 次の byte の下限。 -/
  low : Nat
  /-- 次の byte の上限。 -/
  high : Nat
  /-- ここまでの code point の上位 bit。 -/
  acc : Nat

/-- 先頭 byte を読んだ結果。一 byte の文字、続きを待つ状態、または拒否。 -/
inductive Lead where
  | single (c : Char)
  | pending (p : Pending)
  | refused

/-- 文字の先頭 byte の分類。範囲は RFC 3629 §4 の `UTF8-char` の各選択肢に当たる。 -/
def lead (b : Nat) : Lead :=
  if b ≤ 0x7F then .single (Char.ofNat b)
  else if 0xC2 ≤ b ∧ b ≤ 0xDF then .pending ⟨1, 0x80, 0xBF, b - 0xC0⟩
  else if b = 0xE0 then .pending ⟨2, 0xA0, 0xBF, 0⟩
  else if 0xE1 ≤ b ∧ b ≤ 0xEC then .pending ⟨2, 0x80, 0xBF, b - 0xE0⟩
  else if b = 0xED then .pending ⟨2, 0x80, 0x9F, 0xD⟩
  else if 0xEE ≤ b ∧ b ≤ 0xEF then .pending ⟨2, 0x80, 0xBF, b - 0xE0⟩
  else if b = 0xF0 then .pending ⟨3, 0x90, 0xBF, 0⟩
  else if 0xF1 ≤ b ∧ b ≤ 0xF3 then .pending ⟨3, 0x80, 0xBF, b - 0xF0⟩
  else if b = 0xF4 then .pending ⟨3, 0x80, 0x8F, 4⟩
  else .refused

/-- 継続 byte を一つ受け入れた後。文字が完成すれば `.inl`、まだなら `.inr`。 -/
def Pending.accept (p : Pending) (b : Nat) : Char ⊕ Pending :=
  let acc := p.acc * 64 + (b - 0x80)
  if p.owed ≤ 1 then .inl (Char.ofNat acc) else .inr ⟨p.owed - 1, 0x80, 0xBF, acc⟩

/-- 置き換え文字 U+FFFD。 -/
def replacement : Char := '�'

/-- 読めない部分を U+FFFD にして読む。 -/
def decodeLossy.go : Option Pending → List UInt8 → List Char
  | none, [] => []
  | some _, [] => [replacement]
  | none, b :: rest =>
    match lead b.toNat with
    | .single c => c :: go none rest
    | .pending p => go (some p) rest
    | .refused => replacement :: go none rest
  | some p, b :: rest =>
    if p.low ≤ b.toNat ∧ b.toNat ≤ p.high then
      match p.accept b.toNat with
      | .inl c => c :: go none rest
      | .inr q => go (some q) rest
    else replacement :: go none (b :: rest)
termination_by p bs => (bs.length, if p.isSome then 1 else 0)

/-- byte 列を文字列として読む。読めない部分は maximal subpart ごとに U+FFFD になる。 -/
def decodeLossy (bytes : List UInt8) : String :=
  String.ofList (decodeLossy.go none bytes)

/-- 壊れていない UTF-8 だけを読む。 -/
def decode?.go : Option Pending → List UInt8 → Option (List Char)
  | none, [] => some []
  | some _, [] => none
  | none, b :: rest =>
    match lead b.toNat with
    | .single c => (go none rest).map (c :: ·)
    | .pending p => go (some p) rest
    | .refused => none
  | some p, b :: rest =>
    if p.low ≤ b.toNat ∧ b.toNat ≤ p.high then
      match p.accept b.toNat with
      | .inl c => (go none rest).map (c :: ·)
      | .inr q => go (some q) rest
    else none

/-- byte 列が UTF-8 として正しければ、その文字列。 -/
def decode? (bytes : List UInt8) : Option String :=
  (decode?.go none bytes).map String.ofList

/-- 壊れずに読める先頭の byte 数を数える。`done` は読み終えた文字の byte 数、`pending` は
読みかけの文字の byte 数。 -/
def validPrefix.go : Option Pending → (done pending : Nat) → List UInt8 → Nat
  | _, k, _, [] => k
  | none, k, _, b :: rest =>
    match lead b.toNat with
    | .single _ => go none (k + 1) 0 rest
    | .pending p => go (some p) k 1 rest
    | .refused => k
  | some p, k, n, b :: rest =>
    if p.low ≤ b.toNat ∧ b.toNat ≤ p.high then
      match p.accept b.toNat with
      | .inl _ => go none (k + n + 1) 0 rest
      | .inr q => go (some q) k (n + 1) rest
    else k

/-- 完全な文字だけからなる、壊れていない最長の先頭部分の byte 数。列全体が正しければ列の長さ、
そうでなければ最初の壊れた文字の始まり。 -/
def validPrefix (bytes : List UInt8) : Nat := validPrefix.go none 0 0 bytes

end HttpRouting.Utf8
