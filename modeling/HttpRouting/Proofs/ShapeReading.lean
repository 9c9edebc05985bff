import HttpRouting.Proofs.JsonRoundTrip
import HttpRouting.Json.Shape

/-!
# 形に沿って読み戻す

形（`Shape`）に沿った読み手 `Reader.shaped` が、値の書き表しを何として読むかを形ごとに言う。
`Shape.ReadsAs s v w n k` は、形 `s` が値 `v` の書き表し（`Json.compact`）を `w` として読むこと。
深さの残りが `n` より多く、燃料が書き表しの byte 数より `k` 多ければ読める。`k` は、書き表しの
byte を読まずに燃料を使う段（任意の値と省略可）の数である。

* 文字列・真偽値・名前だけの選択肢は、書いた値をそのまま返す。
* 任意の値（`.any`）は、読み戻せる値（`Json.Plain`）ならそのまま返す。
* 省略可（`.optional`）は、`null` を `null` のまま、`n` で始まらない書き表しを中の形で読む。
* 列と表は要素ごとに読む。表の名前は増える順に並んでいなければならない。
* 記録は、書いた組を名前で項目に当てて読み、書かなかった省略可の項目を既定値で埋める。
  項目ごとに、書いた値と読んだ値の組か `none` を並べたもの（`slots`）で言い表す。
  書いた組が `Shape.written slots`、読んだ正規形が `Shape.filled slots` である。

主な結果は `Shape.read_of_readsAs`：`ReadsAs s v w n k` が成り立ち、入れ子が深さの上限に収まれば、
`Shape.read` は書き表しから `w` を返す。
-/

namespace HttpRouting.Json

open Reader

namespace Shape

/-- 形 `s` は値 `v` の書き表しを `w` として読む。書き表しは要素の書き始めの形をしていて、
深さの残りが `n` より多く、燃料が byte 数より `k` 多ければ読める。 -/
structure ReadsAs (s : Shape) (v w : Json) (n k : Nat) : Prop where
  opens : Opens (Utf8.encode v.compact)
  reads : ∀ fuel, (Utf8.encode v.compact).length + k < fuel →
    Reads (shaped fuel s) (Utf8.encode v.compact) w n

variable {s : Shape} {v w : Json} {n k : Nat}

/-- 深さの残りと燃料は、多いぶんには困らない。 -/
theorem ReadsAs.mono (h : ReadsAs s v w n k) {n' k' : Nat} (hn : n ≤ n') (hk : k ≤ k') :
    ReadsAs s v w n' k' where
  opens := h.opens
  reads fuel hfuel c rest hroom := h.reads fuel (by omega) c rest (by omega)

/-- 燃料が一つもなければ何も読めないので、一つ使った後の燃料で一歩を開けば足りる。 -/
theorem ReadsAs.of_succ (hopens : Opens (Utf8.encode v.compact))
    (hreads : ∀ fuel, (Utf8.encode v.compact).length + k < fuel + 1 →
      Reads (shaped (fuel + 1) s) (Utf8.encode v.compact) w n) :
    ReadsAs s v w n k where
  opens := hopens
  reads fuel hfuel := by
    obtain ⟨fuel, rfl⟩ : ∃ f, fuel = f + 1 := ⟨fuel - 1, by omega⟩
    exact hreads fuel hfuel

theorem readsAs_text (t : String) (n k : Nat) : ReadsAs .text (.str t) (.str t) n k :=
  .of_succ (opens_compact (.str 0 t)) fun fuel _ => by
    rw [shaped, compact, encode_quote]
    exact Reads.positioned (Reads.blanks_bind (by decide) (Takes.quoted t).reads)

theorem readsAs_flag (b : Bool) (n k : Nat) : ReadsAs .flag (.bool b) (.bool b) n k :=
  .of_succ (opens_compact (.bool 0 b)) fun fuel _ => by
    rw [shaped]
    cases b with
    | true =>
      exact Reads.positioned
        (Reads.blanks_bind (by decide) (Takes.keyword 0x74 trueTail (Json.bool true)).reads)
    | false =>
      exact Reads.positioned
        (Reads.blanks_bind (by decide) (Takes.keyword 0x66 falseTail (Json.bool false)).reads)

/-- 任意の値の形は、読み戻せる値をそのまま読む。 -/
theorem readsAs_any (hv : v.Plain n) (k : Nat) : ReadsAs .any v v n (k + 1) :=
  .of_succ (opens_compact hv) fun fuel hfuel => by
    rw [shaped]
    exact value_reads hv fuel (by omega)

/-- 省略可の形は `null` を `null` として読む。 -/
theorem readsAs_null (s : Shape) (n k : Nat) : ReadsAs (.optional s) .null .null n k :=
  .of_succ (opens_compact (.null 0)) fun fuel _ => by
    rw [shaped]
    exact Reads.blanks_bind (by decide) (Takes.keyword 0x6E nullTail Json.null).reads

/-- 省略可の形は、`n` で始まらない書き表しを中の形で読む。 -/
theorem ReadsAs.optional (h : ReadsAs s v w n k) (hv : (Utf8.encode v.compact).head? ≠ some 0x6E) :
    ReadsAs (.optional s) v w n (k + 1) :=
  .of_succ h.opens fun fuel hfuel => by
    obtain ⟨b, t, hbt, hb, -⟩ := h.opens
    rw [shaped, hbt]
    refine Reads.blanks_bind hb ?_
    split
    · rename_i heq
      cases heq
      simp [hbt] at hv
    · exact hbt ▸ h.reads fuel (by omega)

/-- `null` でない読み戻せる値の書き表しは `n` で始まらない。 -/
theorem head_compact_ne_null (hv : v.Plain n) (hnull : v ≠ .null) :
    (Utf8.encode v.compact).head? ≠ some 0x6E := by
  cases hv with
  | null => exact absurd rfl hnull
  | bool d b => cases b <;> decide
  | int d lo hi =>
    rename_i i
    cases i with
    | ofNat m =>
      obtain ⟨b, t, hbt, hb⟩ := encode_repr_head m
      rw [encode_compact_ofNat, hbt]
      intro h
      cases h
      exact absurd hb (by decide)
    | negSucc m => simp [encode_compact_negSucc]
  | str d s => simp [compact, encode_quote]
  | arr => simp [encode_compact_arr]
  | obj => simp [encode_compact_obj]

/-- 省略可の任意の値の形は、読み戻せる値を `null` も含めてそのまま読む。 -/
theorem readsAs_optional_any (hv : v.Plain n) (k : Nat) : ReadsAs (.optional .any) v v n (k + 2) := by
  by_cases hnull : v = .null
  · subst hnull
    exact readsAs_null .any n (k + 2)
  · exact (readsAs_any hv k).optional (head_compact_ne_null hv hnull)

/-- 列の形は、要素ごとに読む。 -/
theorem readsAs_list {item : Shape} (ps : List (Json × Json)) (hps : ∀ p ∈ ps, ReadsAs item p.1 p.2 n k) :
    ReadsAs (.list item) (.arr (ps.map (·.1))) (.arr (ps.map (·.2))) (n + 1) k :=
  .of_succ (opens_of_head (encode_compact_arr _) (by decide) (by decide)) fun fuel hfuel => by
    rw [encode_compact_arr] at hfuel ⊢
    rw [shaped]
    refine Reads.positioned (Reads.blanks_bind (by decide) ?_)
    show Reads (nested (do eat; closing (listItems fuel item true []) endSeq)) _ _ _
    refine Reads.nested ((Takes.eat 0x5B).bind_reads ?_)
    -- 要素を `]` の前まで読み、`]` を確かめる
    intro c rest hroom _ hc
    have hloop := Stops.seqLoop (L := fun fuel => listItems fuel item) (r := fun fuel => shaped fuel item)
      (fun _ _ _ => rfl) (ps.map fun p => (Utf8.encode p.1.compact, p.2))
      (fun p hp => by
        obtain ⟨q, hq, rfl⟩ := List.mem_map.mp hp
        exact ⟨(hps q hq).opens, (hps q hq).reads⟩)
      true [] fuel c rest hroom (by simp [Function.comp_def] at hfuel ⊢; omega) (by simp [hc, Function.comp_def])
    simp only [List.reverse_nil, List.nil_append, List.map_map] at hloop
    exact hloop.closing fun c' hc' _ => Takes.endSeq c' rest hc'

/-- 表の形は、組ごとに値を読む。名前は増える順に並んでいなければならない。 -/
theorem readsAs_dict {item : Shape} (ps : List (String × Json × Json))
    (hsorted : Keyed.Sorted (ps.map fun p => (p.1, p.2.2))) (hps : ∀ p ∈ ps, ReadsAs item p.2.1 p.2.2 n k) :
    ReadsAs (.dict item) (.obj (ps.map fun p => (p.1, p.2.1))) (.obj (ps.map fun p => (p.1, p.2.2))) (n + 1) k :=
  .of_succ (opens_of_head (encode_compact_obj _) (by decide) (by decide)) fun fuel hfuel => by
    rw [encode_compact_obj] at hfuel ⊢
    rw [shaped]
    refine Reads.positioned (Reads.blanks_bind (by decide) ?_)
    show Reads (nested (do eat; closing (dictEntries fuel item true []) endMap)) _ _ _
    refine Reads.nested ((Takes.eat 0x7B).bind_reads ?_)
    -- 組を `}` の前まで読み、`}` を確かめる
    intro c rest hroom _ hc
    have hloop := Stops.mapLoop (L := fun fuel => dictEntries fuel item) (r := fun fuel => shaped fuel item)
      (fun _ _ _ => rfl) (ps.map fun p => (p.1, Utf8.encode p.2.1.compact, p.2.2))
      (fun p hp => by
        obtain ⟨q, hq, rfl⟩ := List.mem_map.mp hp
        exact (hps q hq).reads)
      true [] fuel c rest hroom (by simpa [Function.comp_def] using hsorted)
      (by simp [Function.comp_def] at hfuel ⊢; omega) (by simp [hc, Function.comp_def])
    simp only [List.nil_append, List.map_map] at hloop
    exact hloop.closing fun c' hc' _ => Takes.endMap c' rest hc'

/-- 選択肢の形は、名前の一つを書いた文字列をそのまま読む。 -/
theorem readsAs_choice {name t : String} {variants : List String} (ht : t ∈ variants) (n k : Nat) :
    ReadsAs (.choice name variants) (.str t) (.str t) n k :=
  .of_succ (opens_compact (.str 0 t)) fun fuel _ => by
    have hpick : pickVariant variants t = .ok (.str t) := by simp [pickVariant, ht]
    rw [shaped, compact, encode_quote]
    refine Takes.reads (Takes.blanks_bind (by decide) ?_)
    show Takes (positioned do eat; let v ← string; lift (pickVariant variants v)) _ _
    refine Takes.positioned fun c rest hc => ?_
    refine (Stops.eat hc).bind fun c₁ hc₁ _ => (Takes.string t c₁ rest hc₁).bind fun c₂ hc₂ _ => ?_
    rw [hpick]
    exact hc₂ ▸ Stops.pure c₂ (Json.str t)

/-! ## 記録 -/

/-- 記録の項目一つ。宣言（名前、形、必須か）と、書いた値と読んだ値の組。書かなかった項目は `none`。 -/
structure Slot where
  field : String × Shape × Bool
  entry : Option (Json × Json)

/-- 書いた組。書かなかった項目は現れない。 -/
def written (slots : List Slot) : List (String × Json) :=
  slots.filterMap fun e => e.entry.map fun p => (e.field.1, p.1)

/-- 読んだ正規形の組。書かなかった項目には既定値が入る。 -/
def filled (slots : List Slot) : List (String × Json) :=
  slots.map fun e => (e.field.1, (e.entry.map (·.2)).getD e.field.2.1.default)

@[simp] theorem written_nil : written [] = [] := rfl

@[simp] theorem written_cons_none (field : String × Shape × Bool) (slots : List Slot) :
    written (⟨field, none⟩ :: slots) = written slots := rfl

@[simp] theorem written_cons_some (field : String × Shape × Bool) (v w : Json) (slots : List Slot) :
    written (⟨field, some (v, w)⟩ :: slots) = (field.1, v) :: written slots := rfl

@[simp] theorem filled_nil : filled [] = [] := rfl

@[simp] theorem filled_cons (e : Slot) (slots : List Slot) :
    filled (e :: slots) = (e.field.1, (e.entry.map (·.2)).getD e.field.2.1.default) :: filled slots := rfl

/-- 読んだ値を番号で引いたものが各項目の読んだ値に一致し、必須の項目がどれも書いてあれば、
番号 `i` からの組み立ては項目の正規形を返す。 -/
theorem assemble_go_filled (got : List (Nat × Json)) (slots : List Slot) :
    ∀ i, (∀ j, got.lookup (i + j) = (slots[j]?.bind (·.entry)).map (·.2)) →
      (∀ e ∈ slots, e.field.2.2 = true → e.entry.isSome) →
      assemble.go got i (slots.map (·.field)) = .ok (filled slots) := by
  induction slots with
  | nil => intro i _ _; rfl
  | cons e slots ih =>
    intro i hgot hreq
    obtain ⟨⟨key, s, required⟩, entry⟩ := e
    have hhead : got.lookup i = entry.map (·.2) := by simpa using hgot 0
    have hrest : assemble.go got (i + 1) (slots.map (·.field)) = .ok (filled slots) :=
      ih (i + 1) (fun j => by simpa [Nat.add_assoc, Nat.add_comm 1 j] using hgot (j + 1))
        fun e he => hreq e (List.mem_cons_of_mem _ he)
    rw [List.map_cons, assemble.go, hhead, hrest]
    cases entry with
    | none =>
      -- 書かなかった項目は必須でないので、既定値が入る
      have hopt : required = false := by simpa using hreq _ List.mem_cons_self
      subst hopt
      rfl
    | some p => rfl

/-- 記録の組み立て。欠けた必須の項目がなければ、読んだ正規形の object になる。 -/
theorem assemble_filled {got : List (Nat × Json)} {slots : List Slot}
    (hgot : ∀ i, got.lookup i = (slots[i]?.bind (·.entry)).map (·.2))
    (hreq : ∀ e ∈ slots, e.field.2.2 = true → e.entry.isSome) :
    assemble (slots.map (·.field)) got = .ok (.obj (filled slots)) := by
  simp only [assemble, assemble_go_filled got slots 0 (by simpa using hgot) hreq]
  rfl

/-- 名前が重ならなければ、項目の名前の番号はその項目の位置である。 -/
theorem fieldIndex_of_nodup {pre post : List Slot} {e : Slot}
    (h : ((pre ++ e :: post).map (·.field.1)).Nodup) :
    fieldIndex ((pre ++ e :: post).map (·.field)) e.field.1 = some pre.length := by
  have hne : ∀ x ∈ pre, x.field.1 ≠ e.field.1 := by
    rw [List.map_append, List.nodup_append] at h
    exact fun x hx => h.2.2 _ (List.mem_map_of_mem hx) _ (by simp)
  have hpre : pre.findIdx? (fun x => decide (x.field.1 = e.field.1)) = none :=
    List.findIdx?_eq_none_iff.mpr fun x hx => by simpa using hne x hx
  simp only [fieldIndex, List.map_append, List.map_cons, List.findIdx?_append, List.findIdx?_map]
  simp [Function.comp_def, hpre, List.findIdx?_cons]

/-- 項目を一つ進めたときの、読んだ値の表。書いた項目なら、その番号で読んだ値が引ける。 -/
theorem lookup_step {got : List (Nat × Json)} {pre : List Slot}
    (hgot : ∀ i, got.lookup i = (pre[i]?.bind (·.entry)).map (·.2)) (e : Slot) :
    ∀ i, ((e.entry.map fun p => (pre.length, p.2)).toList ++ got).lookup i =
      ((pre ++ [e])[i]?.bind (·.entry)).map (·.2) := by
  intro i
  obtain ⟨field, entry⟩ := e
  rcases Nat.lt_trichotomy i pre.length with h | rfl | h
  · have hne : (i == pre.length) = false := by simpa using Nat.ne_of_lt h
    rw [List.getElem?_append_left h, ← hgot i]
    cases entry <;> simp [List.lookup_cons, hne]
  · have hnone : got.lookup pre.length = none := by simpa using hgot pre.length
    rw [List.getElem?_concat_length]
    cases entry <;> simp [hnone]
  · have hne : (i == pre.length) = false := by simpa using Nat.ne_of_gt h
    have hnone : got.lookup i = none := by simpa [List.getElem?_eq_none (Nat.le_of_lt h)] using hgot i
    rw [List.getElem?_eq_none (by simp; omega)]
    cases entry <;> simp [List.lookup_cons, hnone, hne]

/-- 記録の組を読む繰り返し。書いた項目を一つずつ名前で当てて読み、`}` の前まで来たら正規形を返す。
`pre` は読み終えた項目、`post` はまだの項目で、読んだ値の表 `got` は `pre` の読んだ値を番号で引く。 -/
theorem Stops.recordLoop {slots : List Slot} (hnames : (slots.map (·.field.1)).Nodup)
    (hreads : ∀ e ∈ slots, ∀ p ∈ e.entry, ReadsAs e.field.2.1 p.1 p.2 n k)
    (hreq : ∀ e ∈ slots, e.field.2.2 = true → e.entry.isSome) (post : List Slot) :
    ∀ pre first got fuel (c : Cursor) rest, pre ++ post = slots → n < c.room →
      (∀ i, got.lookup i = (pre[i]?.bind (·.entry)).map (·.2)) →
      (commaList first ((written post).map fun kv => memberBytes kv.1 (Utf8.encode kv.2.compact))).length +
        1 + k < fuel →
      c.rest = commaList first ((written post).map fun kv => memberBytes kv.1 (Utf8.encode kv.2.compact)) ++
        0x7D :: rest →
      Stops (recordEntries fuel (slots.map (·.field)) first got) c (.obj (filled slots)) (0x7D :: rest) := by
  induction post with
  | nil =>
    intro pre first got fuel c rest hslots _ hgot hfuel hc
    obtain ⟨fuel, rfl⟩ : ∃ f, fuel = f + 1 := ⟨fuel - 1, by omega⟩
    rw [List.append_nil] at hslots
    subst hslots
    simp only [written_nil, List.map_nil, commaList_nil, List.nil_append] at hc
    rw [recordEntries.eq_2]
    refine (Stops.hasKey_close first hc).bind fun c' hc' _ => ?_
    rw [if_neg Bool.false_ne_true, assemble_filled hgot hreq]
    simpa [hc', lift] using Stops.pure c' (Json.obj (filled pre))
  | cons e post ih =>
    intro pre first got fuel c rest hslots hroom hgot hfuel hc
    obtain ⟨field, entry⟩ := e
    have hnext := lookup_step hgot ⟨field, entry⟩
    have hslots' : (pre ++ [⟨field, entry⟩]) ++ post = slots := by simpa using hslots
    cases entry with
    | none =>
      -- 書かなかった項目は byte を読まずに飛ばす
      exact ih (pre ++ [⟨field, none⟩]) first got fuel c rest hslots' hroom (by simpa using hnext) hfuel hc
    | some p =>
      obtain ⟨v, w⟩ := p
      obtain ⟨fuel, rfl⟩ : ∃ f, fuel = f + 1 := ⟨fuel - 1, by omega⟩
      simp only [written_cons_some, List.map_cons] at hfuel hc
      have hlen := length_commaList_cons first (memberBytes field.1 (Utf8.encode v.compact))
        ((written post).map fun kv => memberBytes kv.1 (Utf8.encode kv.2.compact))
      have hmem := length_memberBytes field.1 (Utf8.encode v.compact)
      -- 名前は重ならないので、書いた名前はこの項目に当たり、まだ読んでいない
      have hidx : fieldIndex (slots.map (·.field)) field.1 = some pre.length := by
        subst hslots
        exact fieldIndex_of_nodup hnames
      have hfresh : got.lookup pre.length = none := by simpa using hgot pre.length
      have hshape : ((slots.map (·.field))[pre.length]?.map (·.2.1)).getD .any = field.2.1 := by
        subst hslots
        simp
      have hread : ReadsAs field.2.1 v w n k := hreads ⟨field, some (v, w)⟩ (by rw [← hslots]; simp) (v, w) rfl
      rw [recordEntries.eq_2]
      refine Stops.memberKey hc fun c₁ hc₁ hroom₁ => ?_
      rw [hidx]
      dsimp only
      rw [hfresh, if_neg (by simp), hshape]
      exact Stops.colonValue hc₁ (by omega) (hread.reads fuel (by omega)) fun c₂ hc₂ hroom₂ =>
        ih (pre ++ [⟨field, some (v, w)⟩]) false ((pre.length, w) :: got) fuel c₂ rest hslots'
          (by omega) (by simpa using hnext) (by omega) hc₂

/-- 記録の形は、書いた組を名前で項目に当てて読み、書かなかった項目を既定値で埋める。 -/
theorem readsAs_record (name : String) (slots : List Slot) (hnames : (slots.map (·.field.1)).Nodup)
    (hreads : ∀ e ∈ slots, ∀ p ∈ e.entry, ReadsAs e.field.2.1 p.1 p.2 n k)
    (hreq : ∀ e ∈ slots, e.field.2.2 = true → e.entry.isSome) :
    ReadsAs (.record name (slots.map (·.field))) (.obj (written slots)) (.obj (filled slots)) (n + 1) k :=
  .of_succ (opens_of_head (encode_compact_obj _) (by decide) (by decide)) fun fuel hfuel => by
    rw [encode_compact_obj] at hfuel ⊢
    rw [shaped]
    refine Reads.positioned (Reads.blanks_bind (by decide) ?_)
    show Reads (nested (do eat; closing (recordEntries fuel (slots.map (·.field)) true []) endMap)) _ _ _
    refine Reads.nested ((Takes.eat 0x7B).bind_reads ?_)
    -- 組を `}` の前まで読み、`}` を確かめる
    intro c rest hroom _ hc
    have hloop := Stops.recordLoop hnames hreads hreq slots [] true [] fuel c rest (List.nil_append _) hroom
      (by simp) (by simp at hfuel ⊢; omega) (by simp [hc])
    exact hloop.closing fun c' hc' _ => Takes.endMap c' rest hc'

/-! ## 読み通す -/

/-- 形 `s` が書き表しを `w` と読み、入れ子が深さの上限に収まれば、`Shape.read` は書き表しから
`w` を返す。 -/
theorem read_of_readsAs (h : ReadsAs s v w n k) (hn : n < 128)
    (hk : k ≤ (Utf8.encode v.compact).length + 1) : s.read (Utf8.encode v.compact) = .ok w := by
  have hread := h.reads (fuelFor (Utf8.encode v.compact)) (by simp only [fuelFor]; omega)
  obtain ⟨c, hc, hrest, -⟩ := hread (Cursor.start (Utf8.encode v.compact)) [] (by simp [Cursor.start, hn])
    ends_nil (by simp [Cursor.start])
  obtain ⟨c', hfin, -, -⟩ := Stops.finish hrest
  simp only [read, Reader.run, bind_apply, hc, hfin]
  rfl

end Shape

end HttpRouting.Json
