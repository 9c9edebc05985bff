import HttpRouting.Proofs.Headers

/-!
# UTF-8 を読み戻す

`Utf8.encode` が書いた byte の列は、読み手の機械が一文字ずつそのまま読み戻す。

機械が一つの文字を読み切る道筋を `Utf8.Completes` で表す。先頭の byte が一 byte の文字なら
その場で、続きを待つ状態なら範囲に入る継続 byte を受け入れるたびに一歩進み、最後の byte で文字が
完成する。`String.utf8EncodeChar c` の byte はどれもこの道筋をたどって `c` に戻る
（`Utf8.completes_utf8EncodeChar`）。先頭の byte の範囲は RFC 3629 §4 の `UTF8-char` の選択肢に
当たり、二つ目の byte の範囲（`E0` の後は `A0` 以上、`ED` の後は `9F` 以下、`F0` の後は `90` 以上、
`F4` の後は `8F` 以下）は、文字の番号が三 byte・四 byte の範囲にあり、代理の番号でないことから出る。

道筋は読み方によらないので、壊れた部分を置き換える `decodeLossy` と、壊れていれば失敗する
`decode?` のどちらも、一文字ずつ元の文字を返す。

* `Utf8.decodeLossy_encode` — `decodeLossy (encode s) = s`。
* `Utf8.decode?_encode` — `decode? (encode s) = some s`。
-/

namespace HttpRouting.Utf8

/-- つないだ文字列の byte は、それぞれの byte をつないだもの。 -/
@[simp] theorem encode_append (s t : String) : encode (s ++ t) = encode s ++ encode t := by
  simp [encode]

/-! ## 先頭の byte と継続 byte -/

theorem lead_of_le_7f {b : Nat} (h : b ≤ 0x7F) : lead b = .single (Char.ofNat b) := by
  simp [lead, h]

/-- 二 byte の文字の先頭。 -/
theorem lead_two {b : Nat} (h₁ : 0xC2 ≤ b) (h₂ : b ≤ 0xDF) :
    lead b = .pending ⟨1, 0x80, 0xBF, b - 0xC0⟩ := by
  unfold lead
  rw [if_neg (by omega), if_pos ⟨h₁, h₂⟩]

/-- 三 byte の文字の先頭。二つ目の byte の範囲は `E0` と `ED` の後で狭まる。 -/
theorem lead_three {b : Nat} (h₁ : 0xE0 ≤ b) (h₂ : b ≤ 0xEF) :
    lead b = .pending ⟨2, if b = 0xE0 then 0xA0 else 0x80, if b = 0xED then 0x9F else 0xBF, b - 0xE0⟩ := by
  unfold lead
  by_cases he0 : b = 0xE0
  · subst he0; rfl
  by_cases hed : b = 0xED
  · subst hed; rfl
  simp only [he0, hed, ↓reduceIte]
  rw [if_neg (by omega), if_neg (by omega)]
  split
  · rfl
  · rw [if_pos (by omega)]

/-- 四 byte の文字の先頭。二つ目の byte の範囲は `F0` と `F4` の後で狭まる。 -/
theorem lead_four {b : Nat} (h₁ : 0xF0 ≤ b) (h₂ : b ≤ 0xF4) :
    lead b = .pending ⟨3, if b = 0xF0 then 0x90 else 0x80, if b = 0xF4 then 0x8F else 0xBF, b - 0xF0⟩ := by
  unfold lead
  by_cases hf0 : b = 0xF0
  · subst hf0; rfl
  by_cases hf4 : b = 0xF4
  · subst hf4; rfl
  simp only [hf0, hf4, ↓reduceIte]
  rw [if_neg (by omega), if_neg (by omega), if_neg (by omega), if_neg (by omega), if_neg (by omega),
    if_neg (by omega), if_pos (by omega)]

/-- 最後の継続 byte で文字が完成する。 -/
theorem Pending.accept_of_last {p : Pending} {b : Nat} {c : Char} (h : p.owed ≤ 1)
    (hc : p.acc * 64 + (b - 0x80) = c.toNat) : p.accept b = .inl c := by
  simp [Pending.accept, h, hc, Char.ofNat_toNat]

/-- 最後でない継続 byte は、残りを一つ減らし、下位の 6 bit を値に足す。 -/
theorem Pending.accept_of_more {p : Pending} {b : Nat} (h : 1 < p.owed) :
    p.accept b = .inr ⟨p.owed - 1, 0x80, 0xBF, p.acc * 64 + (b - 0x80)⟩ := by
  simp [Pending.accept, Nat.not_le.mpr h]

/-! ## 一文字を読み切る道筋 -/

/-- 状態 `st` の機械が byte の列を読み、読み終えたところでちょうど文字 `c` が完成する。 -/
inductive Completes : Option Pending → List UInt8 → Char → Prop where
  /-- 一 byte の文字。 -/
  | single {b : UInt8} {c : Char} : lead b.toNat = .single c → Completes none [b] c
  /-- 続きを待つ先頭の byte。 -/
  | start {b : UInt8} {p : Pending} {bs : List UInt8} {c : Char} :
      lead b.toNat = .pending p → Completes (some p) bs c → Completes none (b :: bs) c
  /-- 文字を完成させる継続 byte。 -/
  | last {p : Pending} {b : UInt8} {c : Char} :
      p.low ≤ b.toNat ∧ b.toNat ≤ p.high → p.accept b.toNat = .inl c → Completes (some p) [b] c
  /-- まだ続く継続 byte。 -/
  | more {p q : Pending} {b : UInt8} {bs : List UInt8} {c : Char} :
      p.low ≤ b.toNat ∧ b.toNat ≤ p.high → p.accept b.toNat = .inr q → Completes (some q) bs c →
        Completes (some p) (b :: bs) c

/-- 256 未満の数は byte にしても変わらない。 -/
theorem toNat_ofNat_of_lt {n : Nat} (h : n < 256) : (UInt8.ofNat n).toNat = n := by
  simp [Nat.mod_eq_of_lt h]

/-- 文字の UTF-8 の byte は、機械が読み切ってその文字に戻す。 -/
theorem completes_utf8EncodeChar (c : Char) : Completes none (String.utf8EncodeChar c) c := by
  have hvalid : c.toNat < 0xD800 ∨ (0xDFFF < c.toNat ∧ c.toNat < 0x110000) := by
    have := c.valid
    simpa [UInt32.isValidChar, Nat.isValidChar] using this
  have hv : c.val.toNat = c.toNat := rfl
  unfold String.utf8EncodeChar
  simp only [hv]
  split
  · -- 一 byte
    rename_i h₁
    refine .single ?_
    rw [toNat_ofNat_of_lt (by omega), lead_of_le_7f h₁, Char.ofNat_toNat]
  split
  · -- 二 byte: 先頭は `C2`〜`DF`
    rename_i h₁ h₂
    have hb₀ : (UInt8.ofNat (c.toNat / 64 % 32 + 0xC0)).toNat = c.toNat / 64 + 0xC0 := by
      rw [toNat_ofNat_of_lt (by omega)]; omega
    have hb₁ : (UInt8.ofNat (c.toNat % 64 + 0x80)).toNat = c.toNat % 64 + 0x80 :=
      toNat_ofNat_of_lt (by omega)
    have hlead := lead_two (b := (UInt8.ofNat (c.toNat / 64 % 32 + 0xC0)).toNat) (by omega) (by omega)
    apply Completes.start hlead
    apply Completes.last (by dsimp only; omega)
    exact Pending.accept_of_last (by simp) (by dsimp only; omega)
  split
  · -- 三 byte: 先頭は `E0`〜`EF`、代理の番号でないので `ED` の後は `9F` 以下
    rename_i h₁ h₂ h₃
    have hb₀ : (UInt8.ofNat (c.toNat / 4096 % 16 + 0xE0)).toNat = c.toNat / 4096 + 0xE0 := by
      rw [toNat_ofNat_of_lt (by omega)]; omega
    have hb₁ : (UInt8.ofNat (c.toNat / 64 % 64 + 0x80)).toNat = c.toNat / 64 % 64 + 0x80 :=
      toNat_ofNat_of_lt (by omega)
    have hb₂ : (UInt8.ofNat (c.toNat % 64 + 0x80)).toNat = c.toNat % 64 + 0x80 :=
      toNat_ofNat_of_lt (by omega)
    have hlead := lead_three (b := (UInt8.ofNat (c.toNat / 4096 % 16 + 0xE0)).toNat) (by omega) (by omega)
    apply Completes.start hlead
    apply Completes.more (by dsimp only; split <;> split <;> omega)
      (Pending.accept_of_more (by simp))
    apply Completes.last (by dsimp only; omega)
    exact Pending.accept_of_last (by simp) (by dsimp only; omega)
  · -- 四 byte: 先頭は `F0`〜`F4`、番号が `10FFFF` 以下なので `F4` の後は `8F` 以下
    rename_i h₁ h₂ h₃
    have hb₀ : (UInt8.ofNat (c.toNat / 262144 % 8 + 0xF0)).toNat = c.toNat / 262144 + 0xF0 := by
      rw [toNat_ofNat_of_lt (by omega)]; omega
    have hb₁ : (UInt8.ofNat (c.toNat / 4096 % 64 + 0x80)).toNat = c.toNat / 4096 % 64 + 0x80 :=
      toNat_ofNat_of_lt (by omega)
    have hb₂ : (UInt8.ofNat (c.toNat / 64 % 64 + 0x80)).toNat = c.toNat / 64 % 64 + 0x80 :=
      toNat_ofNat_of_lt (by omega)
    have hb₃ : (UInt8.ofNat (c.toNat % 64 + 0x80)).toNat = c.toNat % 64 + 0x80 :=
      toNat_ofNat_of_lt (by omega)
    have hlead := lead_four (b := (UInt8.ofNat (c.toNat / 262144 % 8 + 0xF0)).toNat) (by omega) (by omega)
    apply Completes.start hlead
    apply Completes.more (by dsimp only; split <;> split <;> omega)
      (Pending.accept_of_more (by simp))
    apply Completes.more (by dsimp only; omega) (Pending.accept_of_more (by simp))
    apply Completes.last (by dsimp only; omega)
    exact Pending.accept_of_last (by simp) (by dsimp only; omega)

/-! ## 二つの読み方 -/

/-- 道筋をたどる byte の後に何が続いても、壊れた部分を置き換える読み方はその文字を返して続ける。 -/
theorem decodeLossy_go_append {st : Option Pending} {bs : List UInt8} {c : Char}
    (h : Completes st bs c) (rest : List UInt8) :
    decodeLossy.go st (bs ++ rest) = c :: decodeLossy.go none rest := by
  induction h with
  | single hlead => rw [List.singleton_append, decodeLossy.go, hlead]
  | start hlead _ ih => rw [List.cons_append, decodeLossy.go, hlead]; exact ih
  | last hb hacc => rw [List.singleton_append, decodeLossy.go, if_pos hb, hacc]
  | more hb hacc _ ih => rw [List.cons_append, decodeLossy.go, if_pos hb, hacc]; exact ih

/-- 道筋をたどる byte の後に何が続いても、壊れていれば失敗する読み方はその文字を前に足す。 -/
theorem decode?_go_append {st : Option Pending} {bs : List UInt8} {c : Char}
    (h : Completes st bs c) (rest : List UInt8) :
    decode?.go st (bs ++ rest) = (decode?.go none rest).map (c :: ·) := by
  induction h with
  | single hlead => rw [List.singleton_append, decode?.go, hlead]
  | start hlead _ ih => rw [List.cons_append, decode?.go, hlead]; exact ih
  | last hb hacc => rw [List.singleton_append, decode?.go, if_pos hb, hacc]
  | more hb hacc _ ih => rw [List.cons_append, decode?.go, if_pos hb, hacc]; exact ih

theorem decodeLossy_go_encode (cs : List Char) :
    decodeLossy.go none (cs.flatMap String.utf8EncodeChar) = cs := by
  induction cs with
  | nil => simp [decodeLossy.go]
  | cons c cs ih =>
    rw [List.flatMap_cons, decodeLossy_go_append (completes_utf8EncodeChar c), ih]

theorem decode?_go_encode (cs : List Char) :
    decode?.go none (cs.flatMap String.utf8EncodeChar) = some cs := by
  induction cs with
  | nil => simp [decode?.go]
  | cons c cs ih =>
    rw [List.flatMap_cons, decode?_go_append (completes_utf8EncodeChar c), ih, Option.map_some]

/-- 書いた byte を、壊れた部分を置き換える読み方で読み戻すと元の文字列。 -/
@[simp] theorem decodeLossy_encode (s : String) : decodeLossy (encode s) = s := by
  rw [decodeLossy, encode, decodeLossy_go_encode, String.ofList_toList]

/-- 書いた byte は壊れていない UTF-8 で、読み戻すと元の文字列。 -/
@[simp] theorem decode?_encode (s : String) : decode? (encode s) = some s := by
  rw [decode?, encode, decode?_go_encode, Option.map_some, String.ofList_toList]

end HttpRouting.Utf8
