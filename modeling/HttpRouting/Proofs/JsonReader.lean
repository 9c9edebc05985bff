import HttpRouting.Json.Reader
import HttpRouting.Json.Printer
import HttpRouting.Proofs.Utf8Decoding
import HttpRouting.Proofs.Table

/-!
# JSON の読み手を組み合わせる

読み手（`Reader`）の一歩を、読む byte 列と返す値で言い表し、組み合わせの法則を積み上げる。

* `Reader.Stops r c a rest` — `r` は `c` から読んで `a` を返し、残りが `rest` のところで止まる。
  入れ子の深さの残り（`Cursor.room`）は元に戻っている。
* `Reader.Takes r bs a` — 何が後に続いても、`r` は `bs` を読んで `a` を返す。
* `Reader.Reads r bs a need` — 深さの残りが `need` より多く、後に続くのが値の区切り
  （`Reader.Ends`）なら、`r` は `bs` を読んで `a` を返す。数は区切りを見て止まるので、後に
  続くものを限る。

配列と object の中身を読む繰り返しは、値を読む読み手（`elements`、`members`）と形に沿って読む
読み手（`listItems`、`dictEntries`）で同じ形をしている。繰り返しの一歩の等式を仮定に取る法則
（`Reader.Stops.seqLoop`、`Reader.Stops.mapLoop`）で両方を扱う。要素の書き方は区切り `,` で
つないだ列（`commaList`）である。

燃料は、読む byte 数より多ければ尽きない。形の入れ子が余分に使う燃料は `k` で数える。
-/

namespace HttpRouting.Json

namespace Cursor

@[simp] theorem rest_advance (c : Cursor) : c.advance.rest = c.rest.drop 1 := by
  unfold advance
  split
  · simp_all
  · split <;> simp_all

@[simp] theorem room_advance (c : Cursor) : c.advance.room = c.room := by
  unfold advance
  split
  · rfl
  · split <;> rfl

@[simp] theorem rest_advanceBy (n : Nat) (c : Cursor) : (c.advanceBy n).rest = c.rest.drop n := by
  induction n generalizing c with
  | zero => rfl
  | succ n ih => simp [advanceBy, ih]

@[simp] theorem room_advanceBy (n : Nat) (c : Cursor) : (c.advanceBy n).room = c.room := by
  induction n generalizing c with
  | zero => rfl
  | succ n ih => simp [advanceBy, ih]

theorem advanceBy_add (m n : Nat) (c : Cursor) : (c.advanceBy m).advanceBy n = c.advanceBy (m + n) := by
  induction m generalizing c with
  | zero => simp [advanceBy]
  | succ m ih => rw [advanceBy, ih, Nat.add_right_comm, advanceBy]

end Cursor

/-- 要素の byte 列を区切り `,` でつなぐ。`first` でなければ最初の要素の前にも `,` を置く。 -/
def commaList : Bool → List (List UInt8) → List UInt8
  | _, [] => []
  | true, x :: xs => x ++ commaList false xs
  | false, x :: xs => 0x2C :: x ++ commaList false xs

@[simp] theorem commaList_nil (first : Bool) : commaList first [] = [] := by
  cases first <;> rfl

/-- 要素の byte 列を区切り `,` でつなぎ、どの要素の前にも空白の列 `w` を置く。`first` でなければ
最初の要素の前にも `,` を置く。`commaList` は `w` が空のとき（`commaList_eq_spacedList`）。 -/
def spacedList (w : List UInt8) : Bool → List (List UInt8) → List UInt8
  | _, [] => []
  | true, x :: xs => w ++ x ++ spacedList w false xs
  | false, x :: xs => 0x2C :: (w ++ x ++ spacedList w false xs)

@[simp] theorem spacedList_nil (w : List UInt8) (first : Bool) : spacedList w first [] = [] := by
  cases first <;> rfl

theorem commaList_eq_spacedList (first : Bool) (xs : List (List UInt8)) :
    commaList first xs = spacedList [] first xs := by
  induction xs generalizing first with
  | nil => simp
  | cons x xs ih => cases first <;> simp [commaList, spacedList, ih]

theorem length_spacedList_cons (w : List UInt8) (first : Bool) (x : List UInt8) (xs : List (List UInt8)) :
    x.length + (spacedList w false xs).length ≤ (spacedList w first (x :: xs)).length := by
  -- 最初の要素の前には空白 `w` だけ、後の要素の前には `,` と `w` が入る
  cases first with
  | true =>
    simp only [spacedList, List.length_append]
    omega
  | false =>
    simp only [spacedList, List.length_cons, List.length_append]
    omega

theorem length_commaList_cons (first : Bool) (x : List UInt8) (xs : List (List UInt8)) :
    x.length + (commaList false xs).length ≤ (commaList first (x :: xs)).length := by
  cases first <;> simp [commaList]

/-! ## 書いた文字列の中身 -/

/-- 文字列の中での一文字の書き方を byte にしたもの。 -/
def escapedBytes (c : Char) : List UInt8 := (escapeChar c).flatMap String.utf8EncodeChar

theorem encode_quote (s : String) :
    Utf8.encode (quote s) = 0x22 :: s.toList.flatMap escapedBytes ++ [0x22] := by
  simp [quote, Utf8.encode, List.flatMap_assoc, show String.utf8EncodeChar '"' = [0x22] from by decide]
  rfl

/-- 二 byte 以上の文字の byte はどれも `80` 以上。 -/
theorem utf8EncodeChar_high {c : Char} (h : 0x80 ≤ c.toNat) :
    ∀ b ∈ String.utf8EncodeChar c, 0x80 ≤ b.toNat := by
  have hvalid : c.toNat < 0x110000 := by
    have := c.valid
    simp [UInt32.isValidChar, Nat.isValidChar] at this
    omega
  have hv : c.val.toNat = c.toNat := rfl
  unfold String.utf8EncodeChar
  simp only [hv]
  split
  · omega
  split
  · simp only [List.mem_cons, List.not_mem_nil, or_false]
    rintro b (rfl | rfl) <;> rw [Utf8.toNat_ofNat_of_lt (by omega)] <;> omega
  split
  · simp only [List.mem_cons, List.not_mem_nil, or_false]
    rintro b (rfl | rfl | rfl) <;> rw [Utf8.toNat_ofNat_of_lt (by omega)] <;> omega
  · simp only [List.mem_cons, List.not_mem_nil, or_false]
    rintro b (rfl | rfl | rfl | rfl) <;> rw [Utf8.toNat_ofNat_of_lt (by omega)] <;> omega

/-- エスケープも閉じる `"` もない byte は、そのまま中身に積む。 -/
theorem scanChars_plain (acc : List UInt8) (used : Nat) {bs : List UInt8} (rest : List UInt8)
    (h : ∀ b ∈ bs, 0x20 ≤ b.toNat ∧ b.toNat ≠ 0x22 ∧ b.toNat ≠ 0x5C) :
    scanChars acc used (bs ++ rest) = scanChars (bs.reverse ++ acc) (used + bs.length) rest := by
  induction bs generalizing acc used with
  | nil => simp
  | cons b bs ih =>
    obtain ⟨h₁, h₂, h₃⟩ := h b List.mem_cons_self
    have h₂ : b ≠ 0x22 := fun e => h₂ (by rw [e]; rfl)
    have h₃ : b ≠ 0x5C := fun e => h₃ (by rw [e]; rfl)
    rw [List.cons_append, scanChars.eq_7 _ _ _ _ h₂ (fun h => absurd h h₃) (fun _ _ _ _ _ h => absurd h h₃)
      (fun _ h => absurd h h₃) (fun _ _ h => absurd h h₃), if_neg (by simp [UInt8.lt_iff_toNat_lt]; omega),
      ih _ _ fun x hx => h x (List.mem_cons_of_mem b hx)]
    simp only [List.reverse_cons, List.append_assoc, List.singleton_append, List.length_cons]
    congr 1
    omega


theorem hexValue_hexDigit : ∀ d < 16, hexValue (UInt8.ofNat (hexDigit d).toNat) = some d := by
  decide

/-- 番号 `n` の `\u00XX` の書き方の byte。 -/
theorem flatMap_hexEscape {n : Nat} (hn : n < 0x100) :
    ['\\', 'u', '0', '0', hexDigit (n / 16), hexDigit (n % 16)].flatMap String.utf8EncodeChar =
      [0x5C, 0x75, 0x30, 0x30, UInt8.ofNat (hexDigit (n / 16)).toNat,
        UInt8.ofNat (hexDigit (n % 16)).toNat] := by
  have hdigit : ∀ d < 16, String.utf8EncodeChar (hexDigit d) = [UInt8.ofNat (hexDigit d).toNat] := by
    decide
  simp [hdigit _ (show n / 16 < 16 by omega), hdigit _ (show n % 16 < 16 by omega)]
  rfl

/-- `\u00XX` の四桁は番号 `n` を表す。 -/
theorem hex4_hexEscape {n : Nat} (hn : n < 0x100) :
    hex4 0x30 0x30 (UInt8.ofNat (hexDigit (n / 16)).toNat) (UInt8.ofNat (hexDigit (n % 16)).toNat) =
      some n := by
  simp only [hex4, hexValue_hexDigit _ (show n / 16 < 16 by omega),
    hexValue_hexDigit _ (show n % 16 < 16 by omega), show hexValue 0x30 = some 0 from rfl]
  simp only [Option.bind_eq_bind, Option.bind_some, Option.pure_def, Option.some.injEq]
  omega

theorem scanChars_escapedBytes (c : Char) (acc : List UInt8) (used : Nat) (rest : List UInt8) :
    scanChars acc used (escapedBytes c ++ rest) =
      scanChars ((String.utf8EncodeChar c).reverse ++ acc) (used + (escapedBytes c).length) rest := by
  unfold escapedBytes escapeChar
  split
  · rename_i h
    subst h
    rfl
  split
  · rename_i h
    subst h
    rfl
  split
  · rename_i _ _ hlt
    rw [utf8EncodeChar_ascii (by omega)]
    split
    case h_6 =>
      -- `\u00XX`: 16 進の二桁が番号を表す
      rw [flatMap_hexEscape (by omega), List.cons_append, List.cons_append, List.cons_append,
        List.cons_append, List.cons_append, List.cons_append, List.nil_append, scanChars.eq_4,
        hex4_hexEscape (by omega)]
      simp only
      rw [if_neg (by omega), if_pos (by omega), pushCodePoint, Char.ofNat_toNat, utf8EncodeChar_ascii (by omega)]
      rfl
    all_goals
      rename_i h
      rw [h]
      rfl
  · -- そのまま書く文字の byte は、どれも制御文字でも `"` でも `\\` でもない
    rename_i hq hs hlt
    rw [List.flatMap_singleton]
    apply scanChars_plain
    intro b hb
    by_cases hc : c.toNat < 0x80
    · rw [utf8EncodeChar_ascii hc, List.mem_singleton] at hb
      subst hb
      have hq : c.toNat ≠ 0x22 := fun h => hq (by rw [← Char.ofNat_toNat c, h])
      have hs : c.toNat ≠ 0x5C := fun h => hs (by rw [← Char.ofNat_toNat c, h])
      rw [Utf8.toNat_ofNat_of_lt (by omega)]
      omega
    · have := utf8EncodeChar_high (by omega) b hb
      omega

/-- 書いた文字列の中身は、閉じる `"` までそのまま読み戻る。 -/
theorem scanChars_quoted (cs : List Char) (acc : List UInt8) (used : Nat) (rest : List UInt8) :
    scanChars acc used (cs.flatMap escapedBytes ++ 0x22 :: rest) =
      .done (acc.reverse ++ cs.flatMap String.utf8EncodeChar) (used + (cs.flatMap escapedBytes).length + 1) := by
  induction cs generalizing acc used with
  | nil => simp [scanChars]
  | cons c cs ih =>
    rw [List.flatMap_cons, List.append_assoc, scanChars_escapedBytes, ih]
    simp only [List.reverse_append, List.reverse_reverse, List.append_assoc, List.flatMap_cons,
      List.length_append]
    congr 1
    omega

theorem scanString_quoted (s : String) (rest : List UInt8) :
    scanString (s.toList.flatMap escapedBytes ++ 0x22 :: rest) =
      .done s ((s.toList.flatMap escapedBytes).length + 1) := by
  have hraw := scanChars_quoted s.toList [] 0 rest
  rw [List.reverse_nil, List.nil_append, Nat.zero_add] at hraw
  simp only [scanString, hraw]
  rw [show s.toList.flatMap String.utf8EncodeChar = Utf8.encode s from rfl, Utf8.decode?_encode]

namespace Reader

variable {α β : Type}

theorem bind_apply (r : Reader α) (f : α → Reader β) (c : Cursor) :
    (r >>= f) c = match r c with | .ok a c' => f a c' | .err e c' => .err e c' := rfl

/-! ## 区切りと空白 -/

/-- 読み飛ばす空白の byte（空白・改行・タブ・復帰）。 -/
def Blank (b : UInt8) : Prop := b = 0x20 ∨ b = 0x0A ∨ b = 0x09 ∨ b = 0x0D

instance (b : UInt8) : Decidable (Blank b) := inferInstanceAs (Decidable (_ ∨ _))

/-- 値の直後に来てよい byte 列。入力の終わりか、`,` `]` `}` で始まる。 -/
def Ends (rest : List UInt8) : Prop := ∀ b ∈ rest.head?, b = 0x2C ∨ b = 0x5D ∨ b = 0x7D

/-- 配列の要素の書き始め。空白でも `]` でもない byte で始まる。 -/
def Opens (bs : List UInt8) : Prop := ∃ b t, bs = b :: t ∧ ¬Blank b ∧ b ≠ 0x5D

theorem ends_nil : Ends [] := by simp [Ends]

theorem ends_cons {b : UInt8} {t : List UInt8} (h : b = 0x2C ∨ b = 0x5D ∨ b = 0x7D) : Ends (b :: t) := by
  simpa [Ends] using h

theorem ends_commaList (xs : List (List UInt8)) (close : UInt8) (rest : List UInt8)
    (hclose : close = 0x5D ∨ close = 0x7D) : Ends (commaList false xs ++ close :: rest) := by
  cases xs with
  | nil => exact ends_cons (by simp_all)
  | cons x xs => exact ends_cons (by simp)

/-- 空白だけの byte 列。 -/
def Blanks (w : List UInt8) : Prop := ∀ b ∈ w, Blank b

theorem blanks_nil : Blanks [] := fun _ h => nomatch h

/-- 値の直後に来てよい byte 列（値の後に空白を置く書き方のとき）。入力の終わりか、`,` `]` `}`
か空白で始まる。 -/
def Follows (rest : List UInt8) : Prop := ∀ b ∈ rest.head?, b = 0x2C ∨ b = 0x5D ∨ b = 0x7D ∨ Blank b

theorem Ends.follows {rest : List UInt8} (h : Ends rest) : Follows rest :=
  fun b hb => (h b hb).imp_right fun h => h.imp_right .inl

/-- 空白の列を読み飛ばすと、数えた長さがその分だけ進む。 -/
theorem blanks_go_append {w : List UInt8} (hw : Blanks w) (r : List UInt8) (n : Nat) :
    blanks.go (w ++ r) n = blanks.go r (n + w.length) := by
  induction w generalizing n with
  | nil => rfl
  | cons b w ih =>
    have hb : (b = 0x20 || b = 0x0A || b = 0x09 || b = 0x0D) = true := by
      rcases hw b List.mem_cons_self with rfl | rfl | rfl | rfl <;> rfl
    rw [List.cons_append, blanks.go, if_pos hb, ih fun x hx => hw x (List.mem_cons_of_mem b hx),
      List.length_cons, Nat.add_assoc, Nat.add_comm 1]

theorem blanks_go_stop {b : UInt8} (hb : ¬Blank b) (t : List UInt8) (n : Nat) :
    blanks.go (b :: t) n = n := by
  simp only [blanks.go]
  simp_all [Blank]

/-- 空白の列の後に空白でない byte があれば、空白を読み飛ばしてその byte を見せる。 -/
theorem blanks_after {c : Cursor} {w : List UInt8} {b : UInt8} {t : List UInt8} (hc : c.rest = w ++ b :: t)
    (hw : Blanks w) (hb : ¬Blank b) : blanks c = .ok (some b) (c.advanceBy w.length) := by
  have hgo : blanks.go c.rest 0 = w.length := by
    rw [hc, blanks_go_append hw, blanks_go_stop hb, Nat.zero_add]
  have hhead : (c.advanceBy w.length).rest.head? = some b := by
    rw [Cursor.rest_advanceBy, hc, List.drop_left, List.head?_cons]
  simp only [blanks, hgo, hhead]

theorem blanks_of_head {c : Cursor} {b : UInt8} {t : List UInt8} (hc : c.rest = b :: t)
    (hb : ¬Blank b) : blanks c = .ok (some b) c :=
  blanks_after (w := []) hc blanks_nil hb

theorem blanks_of_nil {c : Cursor} (hc : c.rest = []) : blanks c = .ok none c := by
  simp only [blanks, hc, blanks.go, Cursor.advanceBy, List.head?_nil]

/-! ## 止まるところ -/

/-- `r` は `c` から読んで `a` を返し、残りが `rest` のところで止まる。深さの残りは元のまま。 -/
def Stops (r : Reader α) (c : Cursor) (a : α) (rest : List UInt8) : Prop :=
  ∃ c', r c = .ok a c' ∧ c'.rest = rest ∧ c'.room = c.room

variable {r : Reader α} {f : α → Reader β} {c : Cursor} {a : α} {b : β} {mid rest : List UInt8}

theorem Stops.bind (h : Stops r c a mid)
    (hf : ∀ c', c'.rest = mid → c'.room = c.room → Stops (f a) c' b rest) :
    Stops (r >>= f) c b rest := by
  obtain ⟨c₁, hr, hrest, hroom⟩ := h
  obtain ⟨c₂, hf', hrest₂, hroom₂⟩ := hf c₁ hrest hroom
  exact ⟨c₂, by rw [bind_apply, hr]; exact hf', hrest₂, hroom₂.trans hroom⟩

theorem Stops.pure (c : Cursor) (a : α) : Stops (Pure.pure a : Reader α) c a c.rest :=
  ⟨c, rfl, rfl, rfl⟩

theorem Stops.positioned (h : Stops r c a rest) : Stops (positioned r) c a rest := by
  obtain ⟨c', hr, hrest, hroom⟩ := h
  exact ⟨c', by simp only [Reader.positioned, hr], hrest, hroom⟩

/-- 入れ子に入ると深さの残りが一つ減り、出ると元に戻る。 -/
theorem Stops.nested (hroom : 1 < c.room) (h : Stops r { c with room := c.room - 1 } a rest) :
    Stops (nested r) c a rest := by
  obtain ⟨c', hr, hrest, -⟩ := h
  refine ⟨{ c' with room := c.room }, ?_, hrest, rfl⟩
  simp only [Reader.nested, if_neg (Nat.not_le.mpr hroom), hr]

theorem Stops.closing {body : Reader α} {close : Reader Unit} (h : Stops body c a mid)
    (hclose : ∀ c', c'.rest = mid → c'.room = c.room → Stops close c' () rest) :
    Stops (closing body close) c a rest := by
  obtain ⟨c₁, hbody, hrest, hroom⟩ := h
  obtain ⟨c₂, hc, hrest₂, hroom₂⟩ := hclose c₁ hrest hroom
  exact ⟨c₂, by simp only [Reader.closing, hbody, hc], hrest₂, hroom₂.trans hroom⟩

/-- 空白の列の後に空白でない byte があれば、空白を読み飛ばす一歩はその byte の前まで進み、
その byte を見せる。 -/
theorem Stops.blanks_bind_after {g : Option UInt8 → Reader α} {w : List UInt8} {v : UInt8} {t : List UInt8}
    (hc : c.rest = w ++ v :: t) (hw : Blanks w) (hv : ¬Blank v)
    (h : Stops (g (some v)) (c.advanceBy w.length) a rest) : Stops (blanks >>= g) c a rest := by
  obtain ⟨c', hg, hrest, hroom⟩ := h
  exact ⟨c', by rw [bind_apply, blanks_after hc hw hv]; exact hg, hrest, by rw [hroom, Cursor.room_advanceBy]⟩

/-- 空白でない byte の前では、空白を読み飛ばす一歩は動かずにその byte を見せる。 -/
theorem Stops.blanks_bind {g : Option UInt8 → Reader α} {v : UInt8} {t : List UInt8}
    (hc : c.rest = v :: t) (hv : ¬Blank v) (h : Stops (g (some v)) c a rest) :
    Stops (blanks >>= g) c a rest :=
  Stops.blanks_bind_after (w := []) hc blanks_nil hv h

theorem Stops.blanks_bind_nil {g : Option UInt8 → Reader α} (hc : c.rest = [])
    (h : Stops (g none) c a rest) : Stops (blanks >>= g) c a rest := by
  obtain ⟨c', hg, hrest, hroom⟩ := h
  exact ⟨c', by rw [bind_apply, blanks_of_nil hc]; exact hg, hrest, hroom⟩

theorem Stops.eat {v : UInt8} {t : List UInt8} (hc : c.rest = v :: t) : Stops eat c () t :=
  ⟨c.advance, rfl, by simp [hc], by simp⟩

theorem Stops.scan {g : List UInt8 → Scan α} {n : Nat} (hg : g c.rest = .done a n) :
    Stops (scan g) c a (c.rest.drop n) :=
  ⟨c.advanceBy n, by simp only [Reader.scan, hg], by simp, by simp⟩

/-! ## 決まった byte 列を読む -/

/-- 何が後に続いても、深さの残りがいくつでも、`r` は `bs` を読んで `a` を返す。 -/
def Takes (r : Reader α) (bs : List UInt8) (a : α) : Prop :=
  ∀ c rest, c.rest = bs ++ rest → Stops r c a rest

/-- 深さの残りが `need` より多く、後に続くのが値の区切りなら、`r` は `bs` を読んで `a` を返す。 -/
def Reads (r : Reader α) (bs : List UInt8) (a : α) (need : Nat) : Prop :=
  ∀ c rest, need < c.room → Ends rest → c.rest = bs ++ rest → Stops r c a rest

/-- 深さの残りが `need` より多く、後に続くものが `F` を満たせば、`r` は `bs` を読んで `a` を返す。
`Reads` は、`F` が値の区切り（`Ends`）のとき。 -/
def ReadsWhen (F : List UInt8 → Prop) (r : Reader α) (bs : List UInt8) (a : α) (need : Nat) : Prop :=
  ∀ c rest, need < c.room → F rest → c.rest = bs ++ rest → Stops r c a rest

variable {bs bs₁ bs₂ : List UInt8} {n : Nat} {F G : List UInt8 → Prop}

theorem reads_eq_readsWhen (r : Reader α) (bs : List UInt8) (a : α) (n : Nat) :
    Reads r bs a n = ReadsWhen Ends r bs a n :=
  rfl

/-- 後に続いてよいものを狭めても読める。 -/
theorem ReadsWhen.mono (hFG : ∀ rest, F rest → G rest) (h : ReadsWhen G r bs a n) : ReadsWhen F r bs a n :=
  fun c rest hroom hrest hc => h c rest hroom (hFG rest hrest) hc

theorem Takes.readsWhen (h : Takes r bs a) : ReadsWhen F r bs a n :=
  fun c rest _ _ hc => h c rest hc

theorem Takes.reads (h : Takes r bs a) : Reads r bs a n :=
  h.readsWhen (F := Ends)

theorem Takes.bind (h₁ : Takes r bs₁ a) (h₂ : Takes (f a) bs₂ b) : Takes (r >>= f) (bs₁ ++ bs₂) b :=
  fun c rest hc => (h₁ c (bs₂ ++ rest) (by simp [hc])).bind fun c' hc' _ => h₂ c' rest hc'

theorem Takes.bind_readsWhen (h₁ : Takes r bs₁ a) (h₂ : ReadsWhen F (f a) bs₂ b n) :
    ReadsWhen F (r >>= f) (bs₁ ++ bs₂) b n :=
  fun c rest hroom hrest hc =>
    (h₁ c (bs₂ ++ rest) (by simp [hc])).bind fun c' hc' hroom' => h₂ c' rest (hroom' ▸ hroom) hrest hc'

theorem Takes.bind_reads (h₁ : Takes r bs₁ a) (h₂ : Reads (f a) bs₂ b n) :
    Reads (r >>= f) (bs₁ ++ bs₂) b n :=
  h₁.bind_readsWhen (F := Ends) h₂

theorem Takes.pure (a : α) : Takes (Pure.pure a : Reader α) [] a := by
  intro c rest hc
  simpa [hc] using Stops.pure c a

theorem Takes.eat (v : UInt8) : Takes eat [v] () :=
  fun _ _ hc => Stops.eat hc

theorem Takes.scan {g : List UInt8 → Scan α} (hg : ∀ rest, g (bs ++ rest) = .done a bs.length) :
    Takes (scan g) bs a := by
  intro c rest hc
  have h := Stops.scan (c := c) (hc ▸ hg rest)
  rwa [hc, List.drop_left] at h

theorem Takes.positioned (h : Takes r bs a) : Takes (positioned r) bs a :=
  fun c rest hc => (h c rest hc).positioned

theorem ReadsWhen.positioned (h : ReadsWhen F r bs a n) : ReadsWhen F (positioned r) bs a n :=
  fun c rest hroom hrest hc => (h c rest hroom hrest hc).positioned

theorem Reads.positioned (h : Reads r bs a n) : Reads (positioned r) bs a n :=
  ReadsWhen.positioned (F := Ends) h

theorem ReadsWhen.nested (h : ReadsWhen F r bs a n) : ReadsWhen F (nested r) bs a (n + 1) :=
  fun c rest hroom hrest hc => Stops.nested (by omega) (h _ rest (by simp; omega) hrest hc)

theorem Reads.nested (h : Reads r bs a n) : Reads (nested r) bs a (n + 1) :=
  ReadsWhen.nested (F := Ends) h

theorem Takes.blanks_bind {g : Option UInt8 → Reader α} {v : UInt8} {t : List UInt8} (hv : ¬Blank v)
    (h : Takes (g (some v)) (v :: t) a) : Takes (blanks >>= g) (v :: t) a :=
  fun c rest hc => Stops.blanks_bind hc hv (h c rest hc)

theorem ReadsWhen.blanks_bind {g : Option UInt8 → Reader α} {v : UInt8} {t : List UInt8} (hv : ¬Blank v)
    (h : ReadsWhen F (g (some v)) (v :: t) a n) : ReadsWhen F (blanks >>= g) (v :: t) a n :=
  fun c rest hroom hrest hc => Stops.blanks_bind hc hv (h c rest hroom hrest hc)

theorem Reads.blanks_bind {g : Option UInt8 → Reader α} {v : UInt8} {t : List UInt8} (hv : ¬Blank v)
    (h : Reads (g (some v)) (v :: t) a n) : Reads (blanks >>= g) (v :: t) a n :=
  ReadsWhen.blanks_bind (F := Ends) hv h

/-- 語の残りを読む。 -/
theorem scanWord_append (es rest : List UInt8) (used : Nat) :
    scanWord es used (es ++ rest) = .done () (used + es.length) := by
  induction es generalizing used with
  | nil => simp [scanWord]
  | cons e es ih =>
    simp only [scanWord, List.cons_append, if_true] at ih ⊢
    rw [ih]
    simp only [List.length_cons]
    congr 1
    omega

theorem Takes.word (es : List UInt8) : Takes (word es) es () :=
  Takes.scan fun rest => by simpa using scanWord_append es rest 0

theorem Takes.colon : Takes colon [0x3A] () :=
  Takes.blanks_bind (by decide) (Takes.eat 0x3A)

theorem Takes.endSeq : Takes endSeq [0x5D] () :=
  Takes.blanks_bind (by decide) (Takes.eat 0x5D)

theorem Takes.endMap : Takes endMap [0x7D] () :=
  Takes.blanks_bind (by decide) (Takes.eat 0x7D)

/-! ## 要素と組の前

要素や組の前、閉じ括弧の前には空白の列 `w` があってよい。空白のない書き方は `w` が空のとき。 -/

variable {v : UInt8} {t w : List UInt8}

theorem rest_advanceBy_after (hc : c.rest = w ++ t) : (c.advanceBy w.length).rest = t := by
  rw [Cursor.rest_advanceBy, hc, List.drop_left]

/-- 最初の要素の前。空白を読み飛ばし、要素があると答える。 -/
theorem Stops.hasElement_first_after (hc : c.rest = w ++ v :: t) (hw : Blanks w) (hv : ¬Blank v)
    (hv' : v ≠ 0x5D) : Stops (hasElement true) c true (v :: t) := by
  unfold hasElement
  refine Stops.blanks_bind_after hc hw hv ?_
  split
  · contradiction
  · rename_i h
    cases h
    exact absurd rfl hv'
  · rw [if_pos rfl]
    exact rest_advanceBy_after hc ▸ Stops.pure _ true

/-- 二つ目からの要素の前。`,` と空白を読み、要素の頭で止まる。 -/
theorem Stops.hasElement_next_after (hc : c.rest = 0x2C :: (w ++ v :: t)) (hw : Blanks w) (hv : ¬Blank v)
    (hv' : v ≠ 0x5D) : Stops (hasElement false) c true (v :: t) := by
  unfold hasElement
  refine Stops.blanks_bind hc (by decide) ?_
  simp only [Bool.false_eq_true, if_false]
  -- 見えた `,` は `]` ではない
  split
  · contradiction
  · rename_i h
    exact absurd h (by decide)
  · rename_i b h
    cases h
    rw [if_pos rfl]
    refine (Stops.eat hc).bind fun c' hc' _ => Stops.blanks_bind_after hc' hw hv ?_
    split
    · rename_i h
      cases h
      exact absurd rfl hv'
    · exact rest_advanceBy_after hc' ▸ Stops.pure _ true
    · contradiction

/-- 閉じ括弧の前。空白を読み飛ばし、もう要素はないと答える。 -/
theorem Stops.hasElement_close_after (first : Bool) (hc : c.rest = w ++ 0x5D :: t) (hw : Blanks w) :
    Stops (hasElement first) c false (0x5D :: t) := by
  unfold hasElement
  exact Stops.blanks_bind_after hc hw (by decide) (rest_advanceBy_after hc ▸ Stops.pure _ false)

/-- 最初の組の前。空白と `"` を読み、名前の中身の頭で止まる。 -/
theorem Stops.hasKey_first_after (hc : c.rest = w ++ 0x22 :: t) (hw : Blanks w) :
    Stops (hasKey true) c true t := by
  unfold hasKey
  refine Stops.blanks_bind_after hc hw (by decide) ?_
  show Stops (do Reader.eat; Pure.pure true) _ true t
  exact (Stops.eat (rest_advanceBy_after hc)).bind fun c' hc' _ => hc' ▸ Stops.pure c' true

/-- 二つ目からの組の前。`,` と空白と `"` を読む。 -/
theorem Stops.hasKey_next_after (hc : c.rest = 0x2C :: (w ++ 0x22 :: t)) (hw : Blanks w) :
    Stops (hasKey false) c true t := by
  unfold hasKey
  refine Stops.blanks_bind hc (by decide) ?_
  simp only [Bool.false_eq_true, if_false]
  -- 見えた `,` は `}` ではない
  split
  · contradiction
  · rename_i h
    exact absurd h (by decide)
  · rename_i b h
    cases h
    rw [if_pos rfl]
    refine (Stops.eat hc).bind fun c₁ hc₁ _ => Stops.blanks_bind_after hc₁ hw (by decide) ?_
    exact (Stops.eat (rest_advanceBy_after hc₁)).bind fun c₂ hc₂ _ => hc₂ ▸ Stops.pure c₂ true

/-- 閉じ括弧の前。空白を読み飛ばし、もう組はないと答える。 -/
theorem Stops.hasKey_close_after (first : Bool) (hc : c.rest = w ++ 0x7D :: t) (hw : Blanks w) :
    Stops (hasKey first) c false (0x7D :: t) := by
  unfold hasKey
  exact Stops.blanks_bind_after hc hw (by decide) (rest_advanceBy_after hc ▸ Stops.pure _ false)

theorem Stops.hasElement_first (hc : c.rest = v :: t) (hv : ¬Blank v) (hv' : v ≠ 0x5D) :
    Stops (hasElement true) c true (v :: t) :=
  Stops.hasElement_first_after (w := []) hc blanks_nil hv hv'

theorem Stops.hasElement_next (hc : c.rest = 0x2C :: v :: t) (hv : ¬Blank v) (hv' : v ≠ 0x5D) :
    Stops (hasElement false) c true (v :: t) :=
  Stops.hasElement_next_after (w := []) hc blanks_nil hv hv'

theorem Stops.hasElement_close (first : Bool) (hc : c.rest = 0x5D :: t) :
    Stops (hasElement first) c false (0x5D :: t) :=
  Stops.hasElement_close_after (w := []) first hc blanks_nil

theorem Stops.hasKey_first (hc : c.rest = 0x22 :: t) : Stops (hasKey true) c true t :=
  Stops.hasKey_first_after (w := []) hc blanks_nil

theorem Stops.hasKey_next (hc : c.rest = 0x2C :: 0x22 :: t) : Stops (hasKey false) c true t :=
  Stops.hasKey_next_after (w := []) hc blanks_nil

theorem Stops.hasKey_close (first : Bool) (hc : c.rest = 0x7D :: t) :
    Stops (hasKey first) c false (0x7D :: t) :=
  Stops.hasKey_close_after (w := []) first hc blanks_nil

/-! ## 文字列 -/

/-- 開いた `"` の後から、書いた文字列の中身と閉じる `"` を読む。 -/
theorem Takes.string (s : String) : Takes string (s.toList.flatMap escapedBytes ++ [0x22]) s :=
  Takes.scan fun rest => by simpa using scanString_quoted s rest

/-- 書いた文字列を `"` から読み、文字列の値を返す。 -/
theorem Takes.quoted (s : String) :
    Takes (do Reader.eat; let t ← Reader.string; Pure.pure (Json.str t))
      (0x22 :: (s.toList.flatMap escapedBytes ++ [0x22])) (Json.str s) := by
  intro c rest hc
  refine (Stops.eat hc).bind fun c₁ hc₁ _ => (Takes.string s c₁ rest hc₁).bind fun c₂ hc₂ _ => ?_
  exact hc₂ ▸ Stops.pure c₂ (Json.str s)

/-- 語（`null` `true` `false`）を頭の byte から読み、決まった値を返す。 -/
theorem Takes.keyword (v : UInt8) (tail : List UInt8) (a : α) :
    Takes (do Reader.eat; Reader.word tail; Pure.pure a) (v :: tail) a := by
  intro c rest hc
  refine (Stops.eat hc).bind fun c₁ hc₁ _ => (Takes.word tail c₁ rest hc₁).bind fun c₂ hc₂ _ => ?_
  exact hc₂ ▸ Stops.pure c₂ a

/-! ## 配列と object の中身

どの要素（組）の前にも空白の列 `w` を、閉じ括弧の前に空白の列 `w'` を置いてよい。要素の後に
続くもの（次の `,` か、`w'` と閉じ括弧）は `F` を満たさなければならない。空白のない書き方は
`w` と `w'` が空で、`F` が値の区切り `Ends` のとき（`Stops.seqLoop`、`Stops.mapLoop`）。 -/

/-- 配列の中身を読む繰り返し。一歩で要素を一つ読み、`]` の前まで来たら配列を返す。 -/
theorem Stops.seqLoopWhen {L : Nat → Bool → List Json → Reader Json} {r : Nat → Reader Json}
    (hL : ∀ fuel first acc, L (fuel + 1) first acc = (do
      if ← hasElement first then
        let v ← r fuel
        L fuel false (v :: acc)
      else Pure.pure (.arr acc.reverse)))
    {w' : List UInt8} (hw : Blanks w) (hw' : Blanks w')
    (hF : ∀ xs rest, F (spacedList w false xs ++ (w' ++ 0x5D :: rest)))
    {k : Nat} (ps : List (List UInt8 × Json))
    (hps : ∀ p ∈ ps, Opens p.1 ∧ ∀ fuel, p.1.length + k < fuel → ReadsWhen F (r fuel) p.1 p.2 n) :
    ∀ first acc fuel (c : Cursor) rest, n < c.room →
      (spacedList w first (ps.map (·.1))).length + 1 + k < fuel →
      c.rest = spacedList w first (ps.map (·.1)) ++ (w' ++ 0x5D :: rest) →
      Stops (L fuel first acc) c (.arr (acc.reverse ++ ps.map (·.2))) (0x5D :: rest) := by
  induction ps with
  | nil =>
    intro first acc fuel c rest _ hfuel hc
    obtain ⟨fuel, rfl⟩ : ∃ f, fuel = f + 1 := ⟨fuel - 1, by omega⟩
    simp only [List.map_nil, spacedList_nil, List.nil_append] at hc
    rw [hL]
    refine (Stops.hasElement_close_after first hc hw').bind fun c' hc' _ => ?_
    simpa [hc'] using Stops.pure c' (Json.arr acc.reverse)
  | cons p ps ih =>
    intro first acc fuel c rest hroom hfuel hc
    obtain ⟨⟨v, t, hp, hv, hv'⟩, hread⟩ := hps p List.mem_cons_self
    obtain ⟨fuel, rfl⟩ : ∃ f, fuel = f + 1 := ⟨fuel - 1, by omega⟩
    have hlen := length_spacedList_cons w first p.1 (ps.map (·.1))
    have hp₁ : 1 ≤ p.1.length := by simp [hp]
    rw [List.map_cons] at hfuel hc
    -- 要素があると答え、要素の頭で止まる
    have hhas : Stops (hasElement first) c true
        (p.1 ++ (spacedList w false (ps.map (·.1)) ++ (w' ++ 0x5D :: rest))) := by
      cases first with
      | true =>
        simp only [spacedList, hp, List.append_assoc, List.cons_append] at hc ⊢
        exact Stops.hasElement_first_after hc hw hv hv'
      | false =>
        simp only [spacedList, hp, List.append_assoc, List.cons_append] at hc ⊢
        exact Stops.hasElement_next_after hc hw hv hv'
    rw [hL]
    refine hhas.bind fun c₁ hc₁ hroom₁ => ?_
    simp only [if_true]
    refine (hread fuel (by omega) c₁ _ (by omega) (hF _ rest) hc₁).bind fun c₂ hc₂ hroom₂ => ?_
    have h := ih (fun q hq => hps q (List.mem_cons_of_mem p hq)) false (p.2 :: acc) fuel c₂ rest
      (by omega) (by omega) hc₂
    simpa using h

theorem Stops.seqLoop {L : Nat → Bool → List Json → Reader Json} {r : Nat → Reader Json}
    (hL : ∀ fuel first acc, L (fuel + 1) first acc = (do
      if ← hasElement first then
        let v ← r fuel
        L fuel false (v :: acc)
      else Pure.pure (.arr acc.reverse)))
    {k : Nat} (ps : List (List UInt8 × Json))
    (hps : ∀ p ∈ ps, Opens p.1 ∧ ∀ fuel, p.1.length + k < fuel → Reads (r fuel) p.1 p.2 n) :
    ∀ first acc fuel (c : Cursor) rest, n < c.room →
      (commaList first (ps.map (·.1))).length + 1 + k < fuel →
      c.rest = commaList first (ps.map (·.1)) ++ 0x5D :: rest →
      Stops (L fuel first acc) c (.arr (acc.reverse ++ ps.map (·.2))) (0x5D :: rest) := by
  intro first acc fuel c rest hroom hfuel hc
  rw [commaList_eq_spacedList] at hfuel hc
  exact Stops.seqLoopWhen (F := Ends) hL blanks_nil blanks_nil
    (fun xs rest => by simpa [commaList_eq_spacedList] using ends_commaList xs 0x5D rest (.inl rfl))
    ps hps first acc fuel c rest hroom hfuel hc

/-- object の組の書き方: 名前、`:`、値。 -/
def memberBytes (key : String) (bs : List UInt8) : List UInt8 := Utf8.encode (quote key) ++ 0x3A :: bs

theorem length_memberBytes (key : String) (bs : List UInt8) : bs.length + 3 ≤ (memberBytes key bs).length := by
  simp [memberBytes, encode_quote]

/-- 組の頭を読む。名前があると答えてから名前を読み、`:` の前で止まる。 -/
theorem Stops.memberKeyAfter {first : Bool} {key : String} {bs : List UInt8} {more : List (List UInt8)}
    {tail : List UInt8} {g : String → Reader β} {e : Reader β} (hw : Blanks w)
    (hc : c.rest = spacedList w first (memberBytes key bs :: more) ++ tail)
    (h : ∀ c', c'.rest = 0x3A :: bs ++ (spacedList w false more ++ tail) → c'.room = c.room →
      Stops (g key) c' b mid) :
    Stops (do if ← hasKey first then (do let k ← Reader.string; g k) else e) c b mid := by
  have hkey : memberBytes key bs = 0x22 :: (key.toList.flatMap escapedBytes ++ [0x22]) ++ 0x3A :: bs := by
    simp [memberBytes, encode_quote]
  have hhas : Stops (hasKey first) c true ((key.toList.flatMap escapedBytes ++ [0x22]) ++
      (0x3A :: bs ++ (spacedList w false more ++ tail))) := by
    cases first with
    | true =>
      simp only [spacedList, hkey, List.cons_append, List.append_assoc] at hc ⊢
      exact Stops.hasKey_first_after hc hw
    | false =>
      simp only [spacedList, hkey, List.cons_append, List.append_assoc] at hc ⊢
      exact Stops.hasKey_next_after hc hw
  refine hhas.bind fun c₁ hc₁ hroom₁ => ?_
  simp only [if_true]
  exact (Takes.string key c₁ _ hc₁).bind fun c₂ hc₂ hroom₂ => h c₂ hc₂ (hroom₂.trans hroom₁)

theorem Stops.memberKey {first : Bool} {key : String} {bs : List UInt8} {more : List (List UInt8)}
    {g : String → Reader β} {e : Reader β}
    (hc : c.rest = commaList first (memberBytes key bs :: more) ++ 0x7D :: rest)
    (h : ∀ c', c'.rest = 0x3A :: bs ++ commaList false more ++ 0x7D :: rest → c'.room = c.room →
      Stops (g key) c' b mid) :
    Stops (do if ← hasKey first then (do let k ← Reader.string; g k) else e) c b mid :=
  Stops.memberKeyAfter (w := []) blanks_nil (by rw [hc, commaList_eq_spacedList])
    fun c' hc' hroom => h c' (by rw [hc', commaList_eq_spacedList, List.append_assoc]) hroom

/-- 組の `:` と値を読む。値の後に続くもの `tail` の前で止まる。 -/
theorem Stops.colonValueWhen {r : Reader α} {g : α → Reader β} {x : α} {tail : List UInt8}
    (hc : c.rest = 0x3A :: bs ++ tail) (hroom : n < c.room) (hr : ReadsWhen F r bs x n) (hF : F tail)
    (h : ∀ c', c'.rest = tail → c'.room = c.room → Stops (g x) c' b mid) :
    Stops (do colon; let v ← r; g v) c b mid := by
  refine (Takes.colon c (bs ++ tail) (by simp [hc])).bind fun c₁ hc₁ hroom₁ => ?_
  refine (hr c₁ _ (by omega) hF hc₁).bind fun c₂ hc₂ hroom₂ => ?_
  exact h c₂ hc₂ (hroom₂.trans hroom₁)

/-- 組の `:` と値を読む。値の後の組の列と閉じ括弧の前で止まる。 -/
theorem Stops.colonValue {r : Reader α} {g : α → Reader β} {w : α} {more : List (List UInt8)}
    (hc : c.rest = 0x3A :: bs ++ commaList false more ++ 0x7D :: rest) (hroom : n < c.room)
    (hr : Reads r bs w n)
    (h : ∀ c', c'.rest = commaList false more ++ 0x7D :: rest → c'.room = c.room → Stops (g w) c' b mid) :
    Stops (do colon; let v ← r; g v) c b mid :=
  Stops.colonValueWhen (F := Ends) (by rw [hc, List.append_assoc]) hroom hr
    (ends_commaList _ _ _ (.inr rfl)) h

/-- 名前が増える順に並ぶ組を順に入れると、組は末尾に並ぶ。 -/
theorem foldl_insert_of_sorted {acc kvs : List (String × Json)} (h : Keyed.Sorted (acc ++ kvs)) :
    kvs.foldl (fun acc kv => Fields.insert kv.1 kv.2 acc) acc = acc ++ kvs := by
  induction kvs generalizing acc with
  | nil => simp
  | cons kv kvs ih =>
    obtain ⟨key, x⟩ := kv
    -- 名前は入れた組のどれより後なので、組は末尾に入る
    have hlast : Fields.insert key x acc = acc ++ [(key, x)] := by
      apply Keyed.insert_eq_append
      intro y hy
      simp only [Keyed.Sorted, Keyed.keys, List.map_append, List.map_cons, List.pairwise_append] at h
      exact h.2.2 y (by simpa [Keyed.keys] using hy) key List.mem_cons_self
    rw [List.foldl_cons, hlast, ih (by simpa using h)]
    simp

/-- object の中身を読む繰り返し。一歩で組を一つ読んで名前の順に入れ（同じ名前は後のものが
残る）、`}` の前まで来たら object を返す。 -/
theorem Stops.mapLoopWhen {L : Nat → Bool → List (String × Json) → Reader Json} {r : Nat → Reader Json}
    (hL : ∀ fuel first acc, L (fuel + 1) first acc = (do
      if ← hasKey first then
        let key ← Reader.string
        colon
        let v ← r fuel
        L fuel false (Fields.insert key v acc)
      else Pure.pure (.obj acc)))
    {w' : List UInt8} (hw : Blanks w) (hw' : Blanks w')
    (hF : ∀ xs rest, F (spacedList w false xs ++ (w' ++ 0x7D :: rest)))
    {k : Nat} (ps : List (String × List UInt8 × Json))
    (hps : ∀ p ∈ ps, ∀ fuel, p.2.1.length + k < fuel → ReadsWhen F (r fuel) p.2.1 p.2.2 n) :
    ∀ first acc fuel (c : Cursor) rest, n < c.room →
      (spacedList w first (ps.map fun p => memberBytes p.1 p.2.1)).length + 1 + k < fuel →
      c.rest = spacedList w first (ps.map fun p => memberBytes p.1 p.2.1) ++ (w' ++ 0x7D :: rest) →
      Stops (L fuel first acc) c
        (.obj ((ps.map fun p => (p.1, p.2.2)).foldl (fun acc kv => Fields.insert kv.1 kv.2 acc) acc))
        (0x7D :: rest) := by
  induction ps with
  | nil =>
    intro first acc fuel c rest _ hfuel hc
    obtain ⟨fuel, rfl⟩ : ∃ f, fuel = f + 1 := ⟨fuel - 1, by omega⟩
    simp only [List.map_nil, spacedList_nil, List.nil_append] at hc
    rw [hL]
    refine (Stops.hasKey_close_after first hc hw').bind fun c' hc' _ => ?_
    simpa [hc'] using Stops.pure c' (Json.obj acc)
  | cons p ps ih =>
    intro first acc fuel c rest hroom hfuel hc
    obtain ⟨key, bs, x⟩ := p
    obtain ⟨fuel, rfl⟩ : ∃ f, fuel = f + 1 := ⟨fuel - 1, by omega⟩
    have hlen := length_spacedList_cons w first (memberBytes key bs) (ps.map fun p => memberBytes p.1 p.2.1)
    have hmem := length_memberBytes key bs
    simp only [List.map_cons] at hfuel hc
    rw [hL]
    refine Stops.memberKeyAfter hw hc fun c₁ hc₁ hroom₁ => ?_
    refine Stops.colonValueWhen hc₁ (by omega) ((hps (key, bs, x) List.mem_cons_self) fuel (by simp only; omega))
      (hF _ rest) fun c₂ hc₂ hroom₂ => ?_
    have h := ih (fun q hq => hps q (List.mem_cons_of_mem _ hq)) false (Fields.insert key x acc) fuel c₂ rest
      (by omega) (by omega) hc₂
    simpa using h

/-- 名前が増える順に書いた object の中身を読むと、組は書いた順に並ぶ。 -/
theorem Stops.mapLoop {L : Nat → Bool → List (String × Json) → Reader Json} {r : Nat → Reader Json}
    (hL : ∀ fuel first acc, L (fuel + 1) first acc = (do
      if ← hasKey first then
        let key ← Reader.string
        colon
        let v ← r fuel
        L fuel false (Fields.insert key v acc)
      else Pure.pure (.obj acc)))
    {k : Nat} (ps : List (String × List UInt8 × Json))
    (hps : ∀ p ∈ ps, ∀ fuel, p.2.1.length + k < fuel → Reads (r fuel) p.2.1 p.2.2 n) :
    ∀ first acc fuel (c : Cursor) rest, n < c.room →
      Keyed.Sorted (acc ++ ps.map fun p => (p.1, p.2.2)) →
      (commaList first (ps.map fun p => memberBytes p.1 p.2.1)).length + 1 + k < fuel →
      c.rest = commaList first (ps.map fun p => memberBytes p.1 p.2.1) ++ 0x7D :: rest →
      Stops (L fuel first acc) c (.obj (acc ++ ps.map fun p => (p.1, p.2.2))) (0x7D :: rest) := by
  intro first acc fuel c rest hroom hsorted hfuel hc
  rw [commaList_eq_spacedList] at hfuel hc
  have h := Stops.mapLoopWhen (F := Ends) hL blanks_nil blanks_nil
    (fun xs rest => by simpa [commaList_eq_spacedList] using ends_commaList xs 0x7D rest (.inr rfl))
    ps hps first acc fuel c rest hroom hfuel hc
  rwa [foldl_insert_of_sorted hsorted] at h

end Reader

end HttpRouting.Json
