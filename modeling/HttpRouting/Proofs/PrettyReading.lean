import HttpRouting.Proofs.JsonRoundTrip

/-!
# 字下げして書いた JSON を読み戻す

`Json.pretty` は要素ごとに改行し、一段ごとに字下げを足して書く。字下げが空白の byte だけなら
（tab など）、読み手は改行と字下げを読み飛ばすので、書いた値がそのまま戻る。

* `Json.encode_prettyAt_arr`、`Json.encode_prettyAt_obj` — 空でない配列と object の書き表しは、
  要素の前に改行と一段深い字下げ（`lineBreak`）、閉じ括弧の前に改行と今の段の字下げを置いた列。
* `Json.value_after_blanks` — 書き表しの前に空白があっても、値の読み手は同じ値を読む。名前と値の
  間の `": "` の空白はこれで読み飛ばす。
* `Json.prettyAt_reads` — 読み戻せる値（`Json.Plain`）の書き表しを、後に区切りか空白が続くとき
  読んでその値を返す。
* `Json.parse_pretty` — 深さ 127 までの値は、字下げして書いて `Json.parse` で読むと元に戻る。
* `Json.readsWhole_compact_obj`、`Json.readsWhole_pretty_obj` — 名前が並んでいない object でも、
  値が読み戻せれば、書き表しは組を書いた順に入れた object（`Json.object`）と読む。
-/

namespace HttpRouting.Json

open Reader

/-! ## 書き表しの byte -/

/-- 改行と `n` 段の字下げ。 -/
def lineBreak (ind : String) (n : Nat) : List UInt8 := 0x0A :: Utf8.encode (indentBy ind n)

/-- 字下げが空白だけなら、改行と字下げの列も空白だけ。 -/
theorem blanks_lineBreak {ind : String} (hind : Blanks (Utf8.encode ind)) (n : Nat) :
    Blanks (lineBreak ind n) := by
  have hindent : Blanks (Utf8.encode (indentBy ind n)) := by
    induction n with
    | zero => exact fun b hb => by simp [indentBy, Utf8.encode] at hb
    | succ n ih =>
      intro b hb
      rw [indentBy, Utf8.encode_append, List.mem_append] at hb
      exact hb.elim (hind b) (ih b)
  intro b hb
  rcases List.mem_cons.mp hb with rfl | h
  · exact .inr (.inl rfl)
  · exact hindent b h

theorem spacedList_true_cons (w x : List UInt8) (xs : List (List UInt8)) :
    spacedList w true (x :: xs) = w ++ x ++ spacedList w false xs :=
  rfl

theorem spacedList_false_cons (w x : List UInt8) (xs : List (List UInt8)) :
    spacedList w false (x :: xs) = 0x2C :: spacedList w true (x :: xs) :=
  rfl

/-- 配列の要素の書き表しは、改行と一段深い字下げを要素の前に置いた `,` 区切りの列。 -/
theorem lineBreak_items (ind : String) (l : Nat) {xs : List Json} (hxs : xs ≠ []) :
    0x0A :: Utf8.encode (prettyAt.items ind l xs) =
      spacedList (lineBreak ind (l + 1)) true (xs.map fun x => Utf8.encode (prettyAt ind (l + 1) x)) := by
  induction xs with
  | nil => exact absurd rfl hxs
  | cons x xs ih =>
    cases xs with
    | nil => simp [prettyAt.items, spacedList, lineBreak]
    | cons y ys =>
      have hrest := ih (List.cons_ne_nil y ys)
      rw [List.map_cons] at hrest
      rw [prettyAt.items.eq_3 _ _ _ _ (List.cons_ne_nil y ys), List.map_cons, List.map_cons,
        spacedList_true_cons, spacedList_false_cons, ← hrest]
      simp [Utf8.encode_append, lineBreak, show Utf8.encode ",\n" = [0x2C, 0x0A] from rfl]

/-- object の組の書き表しは、改行と一段深い字下げを組の前に置いた `,` 区切りの列。名前の後の
`:` と値の間に空白が一つある。 -/
theorem lineBreak_fields (ind : String) (l : Nat) {fs : List (String × Json)} (hfs : fs ≠ []) :
    0x0A :: Utf8.encode (prettyAt.fields ind l fs) =
      spacedList (lineBreak ind (l + 1)) true
        (fs.map fun kv => memberBytes kv.1 (0x20 :: Utf8.encode (prettyAt ind (l + 1) kv.2))) := by
  induction fs with
  | nil => exact absurd rfl hfs
  | cons kv fs ih =>
    obtain ⟨k, v⟩ := kv
    cases fs with
    | nil =>
      simp [prettyAt.fields, spacedList, lineBreak, memberBytes, Utf8.encode_append,
        show Utf8.encode ": " = [0x3A, 0x20] from rfl]
    | cons kv' fs =>
      have hrest := ih (List.cons_ne_nil kv' fs)
      rw [List.map_cons] at hrest
      rw [prettyAt.fields.eq_3 _ _ _ _ _ (List.cons_ne_nil kv' fs), List.map_cons, List.map_cons,
        spacedList_true_cons, spacedList_false_cons, ← hrest]
      simp [Utf8.encode_append, lineBreak, memberBytes, show Utf8.encode ",\n" = [0x2C, 0x0A] from rfl,
        show Utf8.encode ": " = [0x3A, 0x20] from rfl]

theorem encode_prettyAt_arr (ind : String) (l : Nat) {xs : List Json} (hxs : xs ≠ []) :
    Utf8.encode (prettyAt ind l (.arr xs)) =
      0x5B :: (spacedList (lineBreak ind (l + 1)) true (xs.map fun x => Utf8.encode (prettyAt ind (l + 1) x)) ++
        (lineBreak ind l ++ [0x5D])) := by
  rw [prettyAt.eq_3 _ _ _ hxs, ← lineBreak_items ind l hxs]
  simp [Utf8.encode_append, lineBreak, show Utf8.encode "[\n" = [0x5B, 0x0A] from rfl,
    show Utf8.encode "\n" = [0x0A] from rfl, show Utf8.encode "]" = [0x5D] from rfl]

theorem encode_prettyAt_obj (ind : String) (l : Nat) {fs : List (String × Json)} (hfs : fs ≠ []) :
    Utf8.encode (prettyAt ind l (.obj fs)) =
      0x7B :: (spacedList (lineBreak ind (l + 1)) true
        (fs.map fun kv => memberBytes kv.1 (0x20 :: Utf8.encode (prettyAt ind (l + 1) kv.2))) ++
          (lineBreak ind l ++ [0x7D])) := by
  rw [prettyAt.eq_4 _ _ _ hfs, ← lineBreak_fields ind l hfs]
  simp [Utf8.encode_append, lineBreak, show Utf8.encode "\x7b\n" = [0x7B, 0x0A] from rfl,
    show Utf8.encode "\n" = [0x0A] from rfl, show Utf8.encode "\x7d" = [0x7D] from rfl]

/-- 空の配列と object は字下げせずに書く。 -/
theorem encode_prettyAt_arr_nil (ind : String) (l : Nat) : Utf8.encode (prettyAt ind l (.arr [])) = [0x5B, 0x5D] := by
  rw [prettyAt.eq_1]
  rfl

theorem encode_prettyAt_obj_nil (ind : String) (l : Nat) : Utf8.encode (prettyAt ind l (.obj [])) = [0x7B, 0x7D] := by
  rw [prettyAt.eq_2]
  rfl

/-- 読み戻せる値の字下げした書き表しは、空白でも `]` でもない byte で始まる。 -/
theorem opens_prettyAt {d : Nat} {v : Json} (hv : v.Plain d) (ind : String) (l : Nat) :
    Opens (Utf8.encode (prettyAt ind l v)) := by
  cases hv with
  | null d => exact opens_compact (.null d)
  | bool d b => exact opens_compact (.bool d b)
  | int d lo hi => exact opens_compact (.int d lo hi)
  | str d s => exact opens_compact (.str d s)
  | @arr d xs items =>
    cases xs with
    | nil => exact opens_of_head (encode_prettyAt_arr_nil ind l) (by decide) (by decide)
    | cons x xs => exact opens_of_head (encode_prettyAt_arr ind l (List.cons_ne_nil x xs)) (by decide) (by decide)
  | @obj d fs sorted values =>
    cases fs with
    | nil => exact opens_of_head (encode_prettyAt_obj_nil ind l) (by decide) (by decide)
    | cons kv fs => exact opens_of_head (encode_prettyAt_obj ind l (List.cons_ne_nil kv fs)) (by decide) (by decide)

/-! ## 改行と字下げを読み飛ばす -/

theorem positioned_eq_ok {α : Type} {r : Reader α} {c c' : Cursor} {a : α} :
    positioned r c = .ok a c' ↔ r c = .ok a c' := by
  simp only [Reader.positioned]
  split <;> simp_all

/-- 値の読み手は空白を読み飛ばしてから読むので、書き表しの前に空白の列があっても同じ値を読む。 -/
theorem value_after_blanks {F : List UInt8 → Prop} {w bs : List UInt8} {v : Json} {d fuel : Nat}
    (hw : Blanks w) (hbs : Opens bs) (h : ReadsWhen F (value (fuel + 1)) bs v d) :
    ReadsWhen F (value (fuel + 1)) (w ++ bs) v d := by
  obtain ⟨b, t, rfl, hb, -⟩ := hbs
  intro c rest hroom hrest hc
  have hc' : c.rest = w ++ b :: (t ++ rest) := by simp [hc]
  -- 空白を読み飛ばした後の位置から読むのと同じ一歩になる
  obtain ⟨c', hread, hrest', hroom'⟩ :=
    h (c.advanceBy w.length) rest (by simpa using hroom) hrest (rest_advanceBy_after hc')
  refine ⟨c', ?_, hrest', by simpa using hroom'⟩
  rw [value, positioned_eq_ok, bind_apply, blanks_after hc' hw hb]
  rw [value, positioned_eq_ok, bind_apply, blanks_of_head (rest_advanceBy_after hc') hb] at hread
  exact hread

/-- 字下げして書いた列では、要素の後に続くのは `,` か、閉じ括弧の前の空白か閉じ括弧。 -/
theorem follows_spacedList {w w' : List UInt8} (hw' : Blanks w') {close : UInt8}
    (hclose : close = 0x5D ∨ close = 0x7D) (xs : List (List UInt8)) (rest : List UInt8) :
    Follows (spacedList w false xs ++ (w' ++ close :: rest)) := by
  cases xs with
  | cons x xs => simp [Follows, spacedList]
  | nil =>
    cases w' with
    | nil => rcases hclose with rfl | rfl <;> simp [Follows]
    | cons b t =>
      intro x hx
      simp only [spacedList_nil, List.nil_append, List.cons_append, List.head?_cons, Option.mem_def,
        Option.some.injEq] at hx
      exact .inr (.inr (.inr (hx ▸ hw' b List.mem_cons_self)))

theorem follows_nil : Follows [] := fun _ h => nomatch h

/-! ## 字下げした値を読む -/

section

variable {ind : String} (hind : Blanks (Utf8.encode ind))
include hind

/-- 字下げした object の書き表しを読むと、組を書いた順に入れた object を返す。値の書き表しは、
後に区切りか空白が続くとき読めればよい。 -/
theorem prettyAt_reads_obj (l : Nat) {d : Nat} {fs : List (String × Json)}
    (hopen : ∀ kv ∈ fs, Opens (Utf8.encode (prettyAt ind (l + 1) kv.2)))
    (hfs : ∀ kv ∈ fs, ∀ fuel, (Utf8.encode (prettyAt ind (l + 1) kv.2)).length < fuel →
      ReadsWhen Follows (value fuel) (Utf8.encode (prettyAt ind (l + 1) kv.2)) kv.2 d) :
    ∀ fuel, (Utf8.encode (prettyAt ind l (.obj fs))).length < fuel →
      ReadsWhen Follows (value fuel) (Utf8.encode (prettyAt ind l (.obj fs))) (Json.object fs) (d + 1) := by
  cases fs with
  | nil =>
    have hobj := value_reads_object (F := Ends) (G := Follows) blanks_nil blanks_nil
      (ends_spacedList_nil 0x7D (.inr rfl)) (d := d) [] (fun p hp => nomatch hp)
    simpa [encode_prettyAt_obj_nil] using hobj
  | cons kv fs =>
    have hobj := value_reads_object (F := Follows) (G := Follows) (blanks_lineBreak hind (l + 1))
      (blanks_lineBreak hind l) (follows_spacedList (blanks_lineBreak hind l) (.inr rfl))
      ((kv :: fs).map fun p => (p.1, 0x20 :: Utf8.encode (prettyAt ind (l + 1) p.2), p.2))
      (fun p hp fuel hfuel => by
        obtain ⟨q, hq, rfl⟩ := List.mem_map.mp hp
        simp only [List.length_cons] at hfuel
        obtain ⟨fuel, rfl⟩ : ∃ f, fuel = f + 1 := ⟨fuel - 1, by omega⟩
        -- 名前の後の `:` に続く空白を読み飛ばす
        exact value_after_blanks (w := [0x20]) (fun b hb => List.mem_singleton.mp hb ▸ .inl rfl) (hopen q hq) (hfs q hq (fuel + 1) (by omega)))
    rw [encode_prettyAt_obj ind l (List.cons_ne_nil kv fs)]
    simpa [Function.comp_def] using hobj

/-- 読み戻せる値の字下げした書き表しを、後に区切りか空白が続くとき読んでその値を返す。燃料は
書き表しの byte 数より多ければ足りる。 -/
theorem prettyAt_reads {d : Nat} {v : Json} (hv : v.Plain d) :
    ∀ l fuel, (Utf8.encode (prettyAt ind l v)).length < fuel →
      ReadsWhen Follows (value fuel) (Utf8.encode (prettyAt ind l v)) v d := by
  induction hv with
  | null d => exact fun _ => readsWhen_of_succ fun fuel => (value_takes_null fuel).readsWhen
  | bool d b => exact fun _ => readsWhen_of_succ fun fuel => (value_takes_bool b fuel).readsWhen
  | int d lo hi => exact fun _ => readsWhen_of_succ fun fuel => value_reads_int lo hi d fuel
  | str d s => exact fun _ => readsWhen_of_succ fun fuel => (value_takes_str s fuel).readsWhen
  | @arr d xs items ih =>
    intro l
    cases xs with
    | nil =>
      have harr := value_reads_array (F := Ends) (G := Follows) blanks_nil blanks_nil
        (ends_spacedList_nil 0x5D (.inl rfl)) (d := d) [] (fun p hp => nomatch hp)
      simpa [encode_prettyAt_arr_nil] using harr
    | cons x xs =>
      -- 要素は一段深く字下げして書かれ、後に `,` か改行が続く
      have harr := value_reads_array (F := Follows) (G := Follows) (blanks_lineBreak hind (l + 1))
        (blanks_lineBreak hind l) (follows_spacedList (blanks_lineBreak hind l) (.inl rfl))
        ((x :: xs).map fun y => (Utf8.encode (prettyAt ind (l + 1) y), y))
        (fun p hp => by
          obtain ⟨y, hy, rfl⟩ := List.mem_map.mp hp
          exact ⟨opens_prettyAt (items y hy) ind (l + 1), ih y hy (l + 1)⟩)
      rw [encode_prettyAt_arr ind l (List.cons_ne_nil x xs)]
      simpa [Function.comp_def] using harr
  | @obj d fs sorted values ih =>
    intro l
    have hobj := prettyAt_reads_obj hind l (fun kv hkv => opens_prettyAt (values kv hkv) ind (l + 1))
      (fun kv hkv => ih kv hkv (l + 1))
    rwa [object_of_sorted sorted] at hobj

/-- 読み戻せる値の字下げした書き表しは、byte 列全体でその値。 -/
theorem readsWhole_pretty {d : Nat} {v : Json} (hv : v.Plain d) : ReadsWhole (Utf8.encode (pretty ind v)) v d :=
  readsWhole_of_readsWhen follows_nil (prettyAt_reads hind hv 0)

/-- 深さ 127 までの読み戻せる値は、字下げして書いて `Json.parse` で読むと元に戻る。 -/
theorem parse_pretty {v : Json} (hv : v.Plain 127) : parse (Utf8.encode (pretty ind v)) = .ok v :=
  parse_of_readsWhole (readsWhole_pretty hind hv) (by decide)

/-- 値が読み戻せる object は、名前が並んでいなくても、字下げした書き表し全体で組を書いた順に
入れた object。 -/
theorem readsWhole_pretty_obj {d : Nat} {fs : List (String × Json)} (hfs : ∀ kv ∈ fs, kv.2.Plain d) :
    ReadsWhole (Utf8.encode (pretty ind (.obj fs))) (Json.object fs) (d + 1) :=
  readsWhole_of_readsWhen follows_nil
    (prettyAt_reads_obj hind 0 (fun kv hkv => opens_prettyAt (hfs kv hkv) ind 1)
      (fun kv hkv => prettyAt_reads hind (hfs kv hkv) 1))

end

/-- 値が読み戻せる object は、名前が並んでいなくても、空白なしの書き表し全体で組を書いた順に
入れた object。 -/
theorem readsWhole_compact_obj {d : Nat} {fs : List (String × Json)} (hfs : ∀ kv ∈ fs, kv.2.Plain d) :
    ReadsWhole (Utf8.encode (Json.obj fs).compact) (Json.object fs) (d + 1) :=
  readsWhole_of_readsWhen ends_nil (value_reads_compact_obj fun kv hkv => value_reads (hfs kv hkv))

end HttpRouting.Json
