import Mathlib
import HttpRouting.Proofs.JsonReader

/-!
# JSON の値を書いて読み戻す

`Json.compact` が書いた byte 列を `Reader.value` で読むと、元の値に戻る。ただし値は
読み手の作る形をしていなければならない（`Json.Plain`）。

* 小数（binary64）を含まない。
* 整数は `-2^63` 以上 `2^64` 未満（読み手が整数として読む範囲）。
* object の名前は増える順に並ぶ。読み手は名前の順に並べ、同じ名前は後のものだけを残すので、
  そう並んだ object だけが元に戻る。
* 入れ子は深さ `d` まで。読み手は入れ子の深さに上限を持つ（`Cursor.room`）。

主な結果は次のとおり。

* `Json.value_reads` — 深さの残りが `d` より多ければ、値の書き表しを読んでその値を返す。
* `Json.parse_compact` — 深さ 127 までの値は、書いて `Json.parse` で読むと元に戻る。
-/

namespace HttpRouting.Json

open Reader

/-! ## 書き表しの byte -/

theorem encode_compact_items (xs : List Json) :
    Utf8.encode (compact.items xs) = commaList true (xs.map fun x => Utf8.encode x.compact) := by
  induction xs with
  | nil => rfl
  | cons x xs ih =>
    cases xs with
    | nil => simp [compact.items, commaList]
    | cons y ys =>
      rw [compact.items.eq_3, Utf8.encode_append, Utf8.encode_append, ih]
      · simp [commaList, show Utf8.encode "," = [0x2C] from rfl]
      · exact List.cons_ne_nil y ys

theorem encode_compact_fields (fs : List (String × Json)) :
    Utf8.encode (compact.fields fs) =
      commaList true (fs.map fun kv => memberBytes kv.1 (Utf8.encode kv.2.compact)) := by
  induction fs with
  | nil => rfl
  | cons kv fs ih =>
    obtain ⟨k, v⟩ := kv
    cases fs with
    | nil => simp [compact.fields, commaList, memberBytes, show Utf8.encode ":" = [0x3A] from rfl]
    | cons kv' fs =>
      rw [compact.fields.eq_3, Utf8.encode_append, Utf8.encode_append,
        Utf8.encode_append, Utf8.encode_append, ih]
      · simp [commaList, memberBytes, show Utf8.encode "," = [0x2C] from rfl,
          show Utf8.encode ":" = [0x3A] from rfl]
      · exact List.cons_ne_nil kv' fs

theorem encode_compact_arr (xs : List Json) :
    Utf8.encode (Json.arr xs).compact =
      0x5B :: commaList true (xs.map fun x => Utf8.encode x.compact) ++ [0x5D] := by
  simp [compact, encode_compact_items, show Utf8.encode "[" = [0x5B] from rfl,
    show Utf8.encode "]" = [0x5D] from rfl]

theorem encode_compact_obj (fs : List (String × Json)) :
    Utf8.encode (Json.obj fs).compact =
      0x7B :: commaList true (fs.map fun kv => memberBytes kv.1 (Utf8.encode kv.2.compact)) ++ [0x7D] := by
  simp [compact, encode_compact_fields, show Utf8.encode "\x7b" = [0x7B] from rfl,
    show Utf8.encode "\x7d" = [0x7D] from rfl]

/-! ## 整数 -/

theorem toNat_of_isDigit {d : Char} (h : d.isDigit) : 48 ≤ d.toNat ∧ d.toNat ≤ 57 := by
  simp only [Char.isDigit, Bool.and_eq_true, decide_eq_true_eq] at h
  exact ⟨UInt32.le_iff_toNat_le.mp h.1, UInt32.le_iff_toNat_le.mp h.2⟩

/-- 十進の数字の文字は、その番号の一 byte で書く。 -/
theorem utf8EncodeChar_digit {d : Char} (h : d.isDigit) :
    String.utf8EncodeChar d = [UInt8.ofNat d.toNat] :=
  utf8EncodeChar_ascii (by have := toNat_of_isDigit h; omega)

theorem isDigit_byte {d : Char} (h : d.isDigit) : isDigit (UInt8.ofNat d.toNat) = true := by
  have hd := toNat_of_isDigit h
  simp only [isDigit, Bool.and_eq_true, decide_eq_true_eq, UInt8.le_iff_toNat_le,
    Utf8.toNat_ofNat_of_lt (show d.toNat < 256 by omega)]
  exact ⟨hd.1, hd.2⟩

theorem length_flatMap_digits {ds : List Char} (h : ∀ d ∈ ds, d.isDigit) :
    (ds.flatMap String.utf8EncodeChar).length = ds.length := by
  induction ds with
  | nil => rfl
  | cons d ds ih =>
    rw [List.flatMap_cons, List.length_append, utf8EncodeChar_digit (h d List.mem_cons_self),
      ih fun x hx => h x (List.mem_cons_of_mem d hx), List.length_singleton, List.length_cons, Nat.add_comm]

/-- 数字の列は、仮数が 64 bit に収まる間、仮数に取り込まれる。 -/
theorem takeSignificand_digits (ds : List Char) (hds : ∀ d ∈ ds, d.isDigit) (sig n : Nat)
    {rest : List UInt8} (hrest : ∀ b ∈ rest.head?, isDigit b = false)
    (hmax : Nat.ofDigitChars 10 ds sig ≤ u64Max) :
    takeSignificand sig n (ds.flatMap String.utf8EncodeChar ++ rest) =
      (Nat.ofDigitChars 10 ds sig, n + ds.length, rest, false) := by
  induction ds generalizing sig n with
  | nil =>
    cases rest with
    | nil => rfl
    | cons b t =>
      simp only [List.flatMap_nil, List.nil_append, takeSignificand,
        hrest b (by simp), Bool.false_eq_true, if_false, Nat.ofDigitChars_nil, List.length_nil]
      rfl
  | cons d ds ih =>
    have hd := hds d List.mem_cons_self
    have hb := toNat_of_isDigit hd
    -- 取り込んだ後の仮数は、最後の仮数より大きくない
    have hstep : Nat.ofDigitChars 10 (d :: ds) sig = Nat.ofDigitChars 10 ds (sig * 10 + (d.toNat - 48)) := by
      rw [Nat.ofDigitChars_cons, Nat.mul_comm]
      rfl
    have hle : sig * 10 + (d.toNat - 48) ≤ Nat.ofDigitChars 10 ds (sig * 10 + (d.toNat - 48)) := by
      rw [Nat.ofDigitChars_eq_ofDigitChars_zero]
      exact Nat.le_add_right_of_le (Nat.le_mul_of_pos_left _ (Nat.pow_pos (by decide)))
    rw [hstep] at hmax ⊢
    rw [List.flatMap_cons, utf8EncodeChar_digit hd, List.singleton_append, List.cons_append,
      takeSignificand, if_pos (isDigit_byte hd), Utf8.toNat_ofNat_of_lt (show d.toNat < 256 by omega),
      if_neg (by omega), ih (fun x hx => hds x (List.mem_cons_of_mem d hx)) _ _ hmax]
    rw [List.length_cons, Nat.add_right_comm n 1, Nat.add_assoc]

/-- 正の数の十進表記は `0` で始まらない。 -/
theorem head_toDigits_ne_zero {m : Nat} (hm : 0 < m) : (Nat.toDigits 10 m).head? ≠ some '0' := by
  induction m using Nat.strongRecOn with
  | ind m ih =>
    by_cases hlt : m < 10
    · have hdigit : ∀ j < 10, 0 < j → j.digitChar ≠ '0' := by decide
      rw [Nat.toDigits_of_lt_base hlt, List.head?_cons, ne_eq, Option.some.injEq]
      exact hdigit m hlt hm
    · -- 先頭の数字は `m / 10` の先頭の数字
      have ih' := ih (m / 10) (by omega) (by omega)
      obtain ⟨x, xs, hx⟩ := List.exists_cons_of_ne_nil (Nat.toDigits_ne_nil (n := m / 10) (b := 10))
      rw [Nat.toDigits_of_base_le (by decide) (by omega), hx]
      rw [hx] at ih'
      simpa using ih'

/-- 数の後に値の区切りか空白が来れば、整数として読み終える。 -/
theorem afterInteger_of_follows (positive : Bool) (sig used : Nat) {rest : List UInt8} (hrest : Follows rest) :
    afterInteger positive sig used rest = .done (integerValue positive sig) used := by
  cases rest with
  | nil => rfl
  | cons b t =>
    rcases hrest b rfl with rfl | rfl | rfl | rfl | rfl | rfl | rfl <;> rfl

theorem isDigit_of_follows {rest : List UInt8} (hrest : Follows rest) : ∀ b ∈ rest.head?, isDigit b = false := by
  intro b hb
  rcases hrest b hb with rfl | rfl | rfl | rfl | rfl | rfl | rfl <;> rfl

/-- 64 bit に収まる数の十進表記を読むと、その数を整数として読む。 -/
theorem scanNumber_repr (positive : Bool) {m : Nat} (hm : m ≤ u64Max) {rest : List UInt8} (hrest : Follows rest) :
    scanNumber positive (Utf8.encode (Nat.repr m) ++ rest) =
      .done (integerValue positive m) (Utf8.encode (Nat.repr m)).length := by
  have hdigits : Utf8.encode (Nat.repr m) = (Nat.toDigits 10 m).flatMap String.utf8EncodeChar := by
    rw [Utf8.encode, Nat.toList_repr]
  by_cases hzero : m = 0
  · subst hzero
    cases rest with
    | nil => rfl
    | cons b t => rcases hrest b rfl with rfl | rfl | rfl | rfl | rfl | rfl | rfl <;> rfl
  · -- 先頭の数字は `0` でない
    obtain ⟨d, ds, hds⟩ := List.exists_cons_of_ne_nil (Nat.toDigits_ne_nil (n := m) (b := 10))
    have hall : ∀ x ∈ d :: ds, x.isDigit := fun x hx =>
      Nat.isDigit_of_mem_toDigits (by decide) (by decide) (hds ▸ hx)
    have hd := hall d List.mem_cons_self
    have hb := toNat_of_isDigit hd
    have hd0 : d ≠ '0' := fun h => head_toDigits_ne_zero (Nat.pos_of_ne_zero hzero) (by rw [hds, h]; rfl)
    have hb0 : UInt8.ofNat d.toNat ≠ 0x30 := by
      intro h
      have h' := congrArg UInt8.toNat h
      rw [Utf8.toNat_ofNat_of_lt (by omega)] at h'
      exact hd0 (by rw [← Char.ofNat_toNat d, h']; rfl)
    -- 残りの数字で仮数ができあがる
    have hvalue : Nat.ofDigitChars 10 ds (d.toNat - 48) = m := by
      have h := Nat.ofDigitChars_ten_toDigits (n := m)
      rw [hds, Nat.ofDigitChars_cons] at h
      simpa using h
    have hsig := takeSignificand_digits ds (fun x hx => hall x (List.mem_cons_of_mem d hx))
      (d.toNat - 48) 0 (isDigit_of_follows hrest) (by rw [hvalue]; exact hm)
    rw [hvalue] at hsig
    rw [hdigits, hds, List.flatMap_cons, utf8EncodeChar_digit hd, List.singleton_append, List.cons_append,
      scanNumber.eq_4 _ _ _ hb0, if_pos (isDigit_byte hd), Utf8.toNat_ofNat_of_lt (show d.toNat < 256 by omega)]
    have hlen := length_flatMap_digits fun x hx => hall x (List.mem_cons_of_mem d hx)
    rw [hsig]
    simp only [Bool.false_eq_true, if_false, afterInteger_of_follows positive m _ hrest, Nat.zero_add,
      List.length_cons, hlen]

/-- 整数の書き表しは、区切りか空白が後に来れば整数として読む。 -/
theorem Reader.ReadsWhen.integer (positive : Bool) {m : Nat} (hm : m ≤ u64Max) (n : Nat) :
    ReadsWhen Follows (scan (scanNumber positive)) (Utf8.encode (Nat.repr m)) (integerValue positive m) n := by
  intro c rest _ hrest hc
  have h := Stops.scan (g := scanNumber positive) (c := c)
    (by rw [hc]; exact Json.scanNumber_repr positive hm hrest)
  rwa [hc, List.drop_left] at h

theorem encode_compact_ofNat (m : Nat) : Utf8.encode (Json.int (.ofNat m)).compact = Utf8.encode (Nat.repr m) :=
  rfl

theorem encode_compact_negSucc (m : Nat) :
    Utf8.encode (Json.int (.negSucc m)).compact = 0x2D :: Utf8.encode (Nat.repr (m + 1)) := by
  simp only [compact, Int.toString_eq_repr, Int.repr, Utf8.encode_append]
  rfl

/-- 数の十進表記の最初の byte は数字。 -/
theorem encode_repr_head (m : Nat) : ∃ b t, Utf8.encode (Nat.repr m) = b :: t ∧ isDigit b = true := by
  obtain ⟨d, ds, hds⟩ := List.exists_cons_of_ne_nil (Nat.toDigits_ne_nil (n := m) (b := 10))
  have hd : d.isDigit := Nat.isDigit_of_mem_toDigits (by decide) (by decide) (hds ▸ List.mem_cons_self)
  refine ⟨UInt8.ofNat d.toNat, ds.flatMap String.utf8EncodeChar, ?_, isDigit_byte hd⟩
  rw [Utf8.encode, Nat.toList_repr, hds, List.flatMap_cons, utf8EncodeChar_digit hd, List.singleton_append]

/-! ## 読み戻せる値 -/

/-- 書いて読み戻せる値。小数を含まず、整数は `-2^63` 以上 `2^64` 未満、object の名前は増える順に
並ぶ。`d` は入れ子の深さの上限（配列と object が一段ずつ数える）。 -/
inductive Plain : Nat → Json → Prop
  | null (d : Nat) : Plain d .null
  | bool (d : Nat) (b : Bool) : Plain d (.bool b)
  | int (d : Nat) {i : Int} (lo : -2 ^ 63 ≤ i) (hi : i < 2 ^ 64) : Plain d (.int i)
  | str (d : Nat) (s : String) : Plain d (.str s)
  | arr {d : Nat} {xs : List Json} (items : ∀ x ∈ xs, Plain d x) : Plain (d + 1) (.arr xs)
  | obj {d : Nat} {fs : List (String × Json)} (sorted : Keyed.Sorted fs) (values : ∀ kv ∈ fs, Plain d kv.2) :
      Plain (d + 1) (.obj fs)

/-- 深さの上限は緩めてよい。 -/
theorem Plain.mono {d d' : Nat} {v : Json} (hv : v.Plain d) (hd : d ≤ d') : v.Plain d' := by
  induction hv generalizing d' with
  | null d => exact .null d'
  | bool d b => exact .bool d' b
  | int d lo hi => exact .int d' lo hi
  | str d s => exact .str d' s
  | arr items ih =>
    obtain ⟨e, rfl⟩ : ∃ e, d' = e + 1 := ⟨d' - 1, by omega⟩
    exact .arr fun x hx => ih x hx (by omega)
  | obj sorted values ih =>
    obtain ⟨e, rfl⟩ : ∃ e, d' = e + 1 := ⟨d' - 1, by omega⟩
    exact .obj sorted fun kv hkv => ih kv hkv (by omega)

/-- 数字は空白ではない。 -/
theorem not_blank_of_isDigit {b : UInt8} (hb : isDigit b = true) : ¬Blank b := by
  intro h
  revert hb
  rcases h with rfl | rfl | rfl | rfl <;> decide

theorem opens_of_head {bs t : List UInt8} {b : UInt8} (h : bs = b :: t) (hb : ¬Blank b) (hb' : b ≠ 0x5D) :
    Opens bs :=
  ⟨b, t, h, hb, hb'⟩

/-- 読み戻せる値の書き表しは、空白でも `]` でもない byte で始まる。 -/
theorem opens_compact {d : Nat} {v : Json} (hv : v.Plain d) : Opens (Utf8.encode v.compact) := by
  cases hv with
  | null => exact opens_of_head (t := [0x75, 0x6C, 0x6C]) rfl (by decide) (by decide)
  | bool d b =>
    cases b with
    | true => exact opens_of_head (t := [0x72, 0x75, 0x65]) rfl (by decide) (by decide)
    | false => exact opens_of_head (t := [0x61, 0x6C, 0x73, 0x65]) rfl (by decide) (by decide)
  | int d lo hi =>
    rename_i i
    cases i with
    | ofNat m =>
      obtain ⟨b, t, hbt, hb⟩ := encode_repr_head m
      refine opens_of_head hbt (not_blank_of_isDigit hb) ?_
      rintro rfl
      exact absurd hb (by decide)
    | negSucc m => exact opens_of_head (encode_compact_negSucc m) (by decide) (by decide)
  | str d s => exact opens_of_head (encode_quote s) (by decide) (by decide)
  | arr => exact opens_of_head (encode_compact_arr _) (by decide) (by decide)
  | obj => exact opens_of_head (encode_compact_obj _) (by decide) (by decide)

/-! ## 値を読む -/

/-- 配列の要素を、書き表しと値の組にする。 -/
def itemsOf (xs : List Json) : List (List UInt8 × Json) := xs.map fun x => (Utf8.encode x.compact, x)

/-- object の組を、名前と値の書き表しと値の組にする。 -/
def membersOf (fs : List (String × Json)) : List (String × List UInt8 × Json) :=
  fs.map fun kv => (kv.1, Utf8.encode kv.2.compact, kv.2)

@[simp] theorem map_fst_itemsOf (xs : List Json) :
    (itemsOf xs).map (·.1) = xs.map fun x => Utf8.encode x.compact := by
  simp [itemsOf]

@[simp] theorem map_snd_itemsOf (xs : List Json) : (itemsOf xs).map (·.2) = xs := by
  simp [itemsOf, Function.comp_def]

@[simp] theorem map_memberBytes_membersOf (fs : List (String × Json)) :
    (membersOf fs).map (fun p => memberBytes p.1 p.2.1) =
      fs.map fun kv => memberBytes kv.1 (Utf8.encode kv.2.compact) := by
  simp [membersOf]

@[simp] theorem map_pair_membersOf (fs : List (String × Json)) :
    (membersOf fs).map (fun p => (p.1, p.2.2)) = fs := by
  simp [membersOf, Function.comp_def]

/-- 範囲内の整数の書き表しを、値の読み手は整数として読む。後に空白が続いてもよい。 -/
theorem value_reads_int {i : Int} (lo : -2 ^ 63 ≤ i) (hi : i < 2 ^ 64) (d fuel : Nat) :
    ReadsWhen Follows (value (fuel + 1)) (Utf8.encode (Json.int i).compact) (.int i) d := by
  rw [value]
  cases i with
  | ofNat m =>
    -- 数字で始まるので、符号なしの数として読む
    obtain ⟨b, t, hbt, hb⟩ := encode_repr_head m
    have hm : m ≤ u64Max := by
      rw [Int.ofNat_eq_natCast] at hi
      simp only [u64Max, Nat.pow_eq]
      omega
    rw [encode_compact_ofNat, hbt]
    refine ReadsWhen.positioned (ReadsWhen.blanks_bind ?_ ?_)
    · exact not_blank_of_isDigit hb
    · have hn : b ≠ 0x6E := by rintro rfl; exact absurd hb (by decide)
      have ht : b ≠ 0x74 := by rintro rfl; exact absurd hb (by decide)
      have hf : b ≠ 0x66 := by rintro rfl; exact absurd hb (by decide)
      have hs : b ≠ 0x2D := by rintro rfl; exact absurd hb (by decide)
      dsimp only
      rw [if_neg hn, if_neg ht, if_neg hf, if_neg hs, if_pos hb, ← hbt]
      exact ReadsWhen.integer true hm d
  | negSucc m =>
    -- `-` の後の数を負の数として読む
    have hm : m + 1 ≤ u64Max := by simp only [u64Max, Nat.pow_eq]; omega
    have hvalue : integerValue false (m + 1) = Json.int (.negSucc m) := by
      rw [integerValue, if_neg Bool.false_ne_true, if_neg (by rw [Nat.pow_eq]; omega)]
      rfl
    rw [encode_compact_negSucc]
    refine ReadsWhen.positioned (ReadsWhen.blanks_bind (by decide) ?_)
    show ReadsWhen Follows (do eat; scan (scanNumber false)) _ _ _
    exact hvalue ▸ (Takes.eat 0x2D).bind_readsWhen (ReadsWhen.integer false hm d)

/-- `null` の書き表しは、何が後に続いても `null` と読む。 -/
theorem value_takes_null (fuel : Nat) : Takes (value (fuel + 1)) (Utf8.encode Json.null.compact) .null := by
  rw [value]
  exact Takes.positioned (Takes.blanks_bind (by decide) (Takes.keyword 0x6E nullTail Json.null))

theorem value_takes_bool (b : Bool) (fuel : Nat) :
    Takes (value (fuel + 1)) (Utf8.encode (Json.bool b).compact) (.bool b) := by
  rw [value]
  cases b with
  | true => exact Takes.positioned (Takes.blanks_bind (by decide) (Takes.keyword 0x74 trueTail (Json.bool true)))
  | false =>
    exact Takes.positioned (Takes.blanks_bind (by decide) (Takes.keyword 0x66 falseTail (Json.bool false)))

theorem value_takes_str (s : String) (fuel : Nat) :
    Takes (value (fuel + 1)) (Utf8.encode (Json.str s).compact) (.str s) := by
  rw [value, compact, encode_quote]
  exact Takes.positioned (Takes.blanks_bind (by decide) (Takes.quoted s))

/-- 燃料が一つあれば読める書き表しは、その長さより多い燃料で読める。 -/
theorem readsWhen_of_succ {F : List UInt8 → Prop} {bs : List UInt8} {v : Json} {d : Nat}
    (h : ∀ fuel, ReadsWhen F (value (fuel + 1)) bs v d) :
    ∀ fuel, bs.length < fuel → ReadsWhen F (value fuel) bs v d := by
  intro fuel hfuel
  obtain ⟨fuel, rfl⟩ : ∃ f, fuel = f + 1 := ⟨fuel - 1, by omega⟩
  exact h fuel

/-- 配列の書き表しを読むと、要素を読んだ配列を返す。要素の前に空白の列 `w`、`]` の前に `w'` が
あってよい。`]` で終わるので、後に何が続いてもよい。 -/
theorem value_reads_array {F G : List UInt8 → Prop} {w w' : List UInt8} (hw : Blanks w) (hw' : Blanks w')
    (hF : ∀ xs rest, F (spacedList w false xs ++ (w' ++ 0x5D :: rest)))
    {d : Nat} (ps : List (List UInt8 × Json))
    (hps : ∀ p ∈ ps, Opens p.1 ∧ ∀ fuel, p.1.length < fuel → ReadsWhen F (value fuel) p.1 p.2 d) :
    ∀ fuel, (0x5B :: (spacedList w true (ps.map (·.1)) ++ (w' ++ [0x5D]))).length < fuel →
      ReadsWhen G (value fuel) (0x5B :: (spacedList w true (ps.map (·.1)) ++ (w' ++ [0x5D])))
        (.arr (ps.map (·.2))) (d + 1) := by
  intro fuel hfuel
  obtain ⟨fuel, rfl⟩ : ∃ f, fuel = f + 1 := ⟨fuel - 1, by omega⟩
  rw [value]
  refine ReadsWhen.positioned (ReadsWhen.blanks_bind (by decide) ?_)
  show ReadsWhen G (nested (do eat; closing (elements fuel true []) endSeq)) _ _ _
  refine ReadsWhen.nested ((Takes.eat 0x5B).bind_readsWhen ?_)
  -- 要素を `]` の前まで読み、`]` を確かめる
  intro c rest hroom _ hc
  have hloop := Stops.seqLoopWhen (L := elements) (r := value) (k := 0) (fun _ _ _ => rfl) hw hw' hF ps
    (fun p hp => ⟨(hps p hp).1, fun fuel hf => (hps p hp).2 fuel (by omega)⟩)
    true [] fuel c rest hroom (by simp at hfuel ⊢; omega) (by simp [hc])
  simp only [List.reverse_nil, List.nil_append] at hloop
  exact hloop.closing fun c' hc' _ => Takes.endSeq c' rest hc'

/-- object の書き表しを読むと、組を書いた順に入れた object（名前の順に並び、同じ名前は後のものが
残る）を返す。組の前に空白の列 `w`、`}` の前に `w'` があってよい。 -/
theorem value_reads_object {F G : List UInt8 → Prop} {w w' : List UInt8} (hw : Blanks w) (hw' : Blanks w')
    (hF : ∀ xs rest, F (spacedList w false xs ++ (w' ++ 0x7D :: rest)))
    {d : Nat} (ps : List (String × List UInt8 × Json))
    (hps : ∀ p ∈ ps, ∀ fuel, p.2.1.length < fuel → ReadsWhen F (value fuel) p.2.1 p.2.2 d) :
    ∀ fuel, (0x7B :: (spacedList w true (ps.map fun p => memberBytes p.1 p.2.1) ++ (w' ++ [0x7D]))).length < fuel →
      ReadsWhen G (value fuel) (0x7B :: (spacedList w true (ps.map fun p => memberBytes p.1 p.2.1) ++ (w' ++ [0x7D])))
        (Json.object (ps.map fun p => (p.1, p.2.2))) (d + 1) := by
  intro fuel hfuel
  obtain ⟨fuel, rfl⟩ : ∃ f, fuel = f + 1 := ⟨fuel - 1, by omega⟩
  rw [value]
  refine ReadsWhen.positioned (ReadsWhen.blanks_bind (by decide) ?_)
  show ReadsWhen G (nested (do eat; closing (members fuel true []) endMap)) _ _ _
  refine ReadsWhen.nested ((Takes.eat 0x7B).bind_readsWhen ?_)
  -- 組を `}` の前まで読み、`}` を確かめる
  intro c rest hroom _ hc
  have hloop := Stops.mapLoopWhen (L := members) (r := value) (k := 0) (fun _ _ _ => rfl) hw hw' hF ps
    (fun p hp fuel hf => hps p hp fuel (by omega))
    true [] fuel c rest hroom (by simp at hfuel ⊢; omega) (by simp [hc])
  exact hloop.closing fun c' hc' _ => Takes.endMap c' rest hc'

/-- 名前が増える順に並んだ組の object は、組をそのまま並べたもの。 -/
theorem object_of_sorted {fs : List (String × Json)} (h : Keyed.Sorted fs) : Json.object fs = .obj fs := by
  rw [Json.object, foldl_insert_of_sorted (show Keyed.Sorted ([] ++ fs) from h), List.nil_append]

/-- 空白のない書き方では、要素の後に続くものは値の区切り。 -/
theorem ends_spacedList_nil (close : UInt8) (hclose : close = 0x5D ∨ close = 0x7D)
    (xs : List (List UInt8)) (rest : List UInt8) : Ends (spacedList [] false xs ++ ([] ++ close :: rest)) := by
  simpa [commaList_eq_spacedList] using ends_commaList xs close rest hclose

/-- 名前が増える順に並ぶとは限らない object の書き表しを読むと、組を書いた順に入れた object を
返す。値の書き表しはそれぞれ読めればよい。 -/
theorem value_reads_compact_obj {d : Nat} {fs : List (String × Json)}
    (hfs : ∀ kv ∈ fs, ∀ fuel, (Utf8.encode kv.2.compact).length < fuel →
      Reads (value fuel) (Utf8.encode kv.2.compact) kv.2 d) :
    ∀ fuel, (Utf8.encode (Json.obj fs).compact).length < fuel →
      Reads (value fuel) (Utf8.encode (Json.obj fs).compact) (Json.object fs) (d + 1) := by
  have hobj := value_reads_object (F := Ends) (G := Ends) blanks_nil blanks_nil
    (ends_spacedList_nil 0x7D (.inr rfl)) (membersOf fs)
    (fun p hp => by
      obtain ⟨kv, hkv, rfl⟩ := List.mem_map.mp hp
      exact hfs kv hkv)
  simpa [encode_compact_obj, commaList_eq_spacedList, reads_eq_readsWhen] using hobj

/-- 深さの残りが `d` より多ければ、読み戻せる値の書き表しを読んでその値を返す。燃料は書き表しの
byte 数より多ければ足りる。 -/
theorem value_reads {d : Nat} {v : Json} (hv : v.Plain d) :
    ∀ fuel, (Utf8.encode v.compact).length < fuel → Reads (value fuel) (Utf8.encode v.compact) v d := by
  induction hv with
  | null d => exact readsWhen_of_succ fun fuel => (value_takes_null fuel).readsWhen
  | bool d b => exact readsWhen_of_succ fun fuel => (value_takes_bool b fuel).readsWhen
  | int d lo hi => exact readsWhen_of_succ fun fuel => (value_reads_int lo hi d fuel).mono fun _ h => h.follows
  | str d s => exact readsWhen_of_succ fun fuel => (value_takes_str s fuel).readsWhen
  | @arr d xs items ih =>
    have harr := value_reads_array (F := Ends) (G := Ends) blanks_nil blanks_nil
      (ends_spacedList_nil 0x5D (.inl rfl)) (itemsOf xs)
      (fun p hp => by
        obtain ⟨x, hx, rfl⟩ := List.mem_map.mp hp
        exact ⟨opens_compact (items x hx), ih x hx⟩)
    simpa [encode_compact_arr, commaList_eq_spacedList, reads_eq_readsWhen] using harr
  | @obj d fs sorted values ih => simpa [object_of_sorted sorted] using value_reads_compact_obj ih

/-- 入力の終わりでは、後に空白しかないことの確かめは通る。 -/
theorem Reader.Stops.finish {c : Cursor} (hc : c.rest = []) : Stops finish c () [] :=
  Stops.blanks_bind_nil hc (hc ▸ Stops.pure c ())

/-- byte 列 `text` 全体は値 `v` の書き表し: 入れ子の深さの残りが `need` より多い読み手は、`text` を
最後まで読んで `v` を返す。燃料は `Json.parse` と同じ。 -/
def ReadsWhole (text : List UInt8) (v : Json) (need : Nat) : Prop :=
  ∀ c : Cursor, need < c.room → c.rest = text →
    ∃ c', (do let x ← value (fuelFor text); finish; Pure.pure x : Reader Json) c = .ok v c'

theorem ReadsWhole.mono {text : List UInt8} {v : Json} {n m : Nat} (h : ReadsWhole text v n) (hnm : n ≤ m) :
    ReadsWhole text v m :=
  fun c hroom hc => h c (by omega) hc

/-- 入力の終わりが後に続いてよい読み方で読めるなら、byte 列全体がその値の書き表し。 -/
theorem readsWhole_of_readsWhen {F : List UInt8 → Prop} (hF : F []) {text : List UInt8} {v : Json} {need : Nat}
    (h : ∀ fuel, text.length < fuel → ReadsWhen F (value fuel) text v need) : ReadsWhole text v need := by
  intro c hroom hc
  obtain ⟨c₁, hv, hrest, -⟩ := h (fuelFor text) (by simp only [fuelFor]; omega) c [] hroom hF (by simp [hc])
  obtain ⟨c₂, hfin, -, -⟩ := Stops.finish hrest
  exact ⟨c₂, by simp only [bind_apply, hv, hfin]; rfl⟩

/-- 深さの残り 128 の読み手に足りれば、`Json.parse` も同じ値を返す。 -/
theorem parse_of_readsWhole {text : List UInt8} {v : Json} {need : Nat} (h : ReadsWhole text v need)
    (hneed : need < 128) : parse text = .ok v := by
  obtain ⟨c, hc⟩ := h (Cursor.start text) hneed rfl
  simp only [parse, Reader.run, hc]

/-- 深さ 127 までの読み戻せる値は、書いて `Json.parse` で読むと元に戻る。 -/
theorem parse_compact {v : Json} (hv : v.Plain 127) : parse (Utf8.encode v.compact) = .ok v :=
  parse_of_readsWhole (readsWhole_of_readsWhen (F := Ends) ends_nil (value_reads hv)) (by decide)

end HttpRouting.Json
