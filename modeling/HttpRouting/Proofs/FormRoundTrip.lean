import HttpRouting.Proofs.Utf8Decoding
import HttpRouting.Http.Request

/-!
# form の符号化の往復

`Form.serialize` で書いた query を `Form.parseString` で読むと、同じ組が同じ順に同じ数だけ戻る
（`Form.parseString_serialize`）。

## 一つの byte

名前と値は UTF-8 の byte ごとに書く（`Form.byteCode`）。書き方は三通りで、英数字と `* - . _` は
そのまま、空白は `+`、ほかは `%` と 16 進の二桁である（`Form.byteCode_cases`）。読み手は `+` を
空白に直して**から** percent-decode するが、リテラルの `+` は `%2B` と書くので壊れない。どの書き方
も `&` と `=` を含まないので、組の区切りと名前と値の区切りは書いたものの中に現れない。

## 要求の query

`Request.setQuery` は URI の query だけを置き換える。経路と query を持つ形（origin 形と absolute
形、`Uri.HasTarget`）では経路はそのままで、組が無ければ query も無くなり、`Request.queryPairs` は
置いた組を返す。asterisk 形と authority 形の URI は query を持てず、要求は変わらない。

* `Form.parseString_serialize` — 書いた組を読み戻すと同じ組。
* `set_query_round_trip` — `setQuery` の後の経路、query、組。
* `set_query_keeps_asterisk_request` — `*` の要求に組を置いても query は無いまま。
-/

namespace HttpRouting

namespace Form

/-! ## 区切りで切る -/

theorem splitOn_ne_nil (sep : UInt8) (bs : List UInt8) : splitOn sep bs ≠ [] := by
  cases bs with
  | nil => simp [splitOn]
  | cons b bs =>
    simp only [splitOn]
    split
    · simp
    · split <;> simp

/-- 区切りを含まない列を切ると、それ一つの断片になる。 -/
theorem splitOn_of_not_mem {sep : UInt8} {w : List UInt8} (h : sep ∉ w) : splitOn sep w = [w] := by
  induction w with
  | nil => rfl
  | cons b bs ih =>
    have hb : b ≠ sep := fun e => h (e ▸ List.mem_cons_self)
    have hbs : sep ∉ bs := fun e => h (List.mem_cons_of_mem _ e)
    simp [splitOn, hb, ih hbs]

/-- 区切りでつないだ列を切ると、それぞれを切った列をつないだもの。 -/
theorem splitOn_append_sep (sep : UInt8) (l₁ l₂ : List UInt8) :
    splitOn sep (l₁ ++ sep :: l₂) = splitOn sep l₁ ++ splitOn sep l₂ := by
  induction l₁ with
  | nil => simp [splitOn]
  | cons b bs ih =>
    by_cases hb : b = sep
    · simp [splitOn, hb, ih]
    · obtain ⟨w, ws, hw⟩ := List.exists_cons_of_ne_nil (splitOn_ne_nil sep bs)
      simp [splitOn, hb, ih, hw]

/-! ## percent-decode -/

@[simp] theorem plusToSpace_append (a b : List UInt8) :
    plusToSpace (a ++ b) = plusToSpace a ++ plusToSpace b := List.map_append

@[simp] theorem percentDecode_nil : percentDecode [] = [] := by
  simp [percentDecode]

/-- `%` でない byte は素通しされる。 -/
theorem percentDecode_cons_of_ne {b : UInt8} (h : b ≠ 0x25) (rest : List UInt8) :
    percentDecode (b :: rest) = b :: percentDecode rest := by
  match rest with
  | [] => simp [percentDecode]
  | [_] => simp [percentDecode]
  | _ :: _ :: _ => rw [percentDecode, if_neg (by simpa using h)]

/-- `%` と 16 進の二桁は、その値の byte になる。 -/
theorem percentDecode_escape {h l : UInt8} {x y : Nat} (hx : hexValue h = some x)
    (hy : hexValue l = some y) (rest : List UInt8) :
    percentDecode (0x25 :: h :: l :: rest) = UInt8.ofNat (16 * x + y) :: percentDecode rest := by
  rw [percentDecode, if_pos (by decide), hx, hy]

/-! ## 一つの byte の書き方 -/

/-- 16 進の一桁を書いた byte。 -/
def hexByte (n : Nat) : UInt8 := UInt8.ofNat (hexUpper n).toNat

/-- 16 進の一桁は ASCII で、読むと元の数になり、`+`、`&`、`=` ではない。 -/
theorem hexUpper_facts : ∀ n, n < 16 →
    (hexUpper n).toNat < 0x80 ∧ hexValue (hexByte n) = some n ∧ hexByte n ≠ 0x2B ∧
      hexByte n ≠ 0x26 ∧ hexByte n ≠ 0x3D
  | 0, _ | 1, _ | 2, _ | 3, _ | 4, _ | 5, _ | 6, _ | 7, _ | 8, _ | 9, _ | 10, _ | 11, _ | 12, _
  | 13, _ | 14, _ | 15, _ => by decide
  | _ + 16, h => absurd h (by omega)

/-- そのまま書く byte は ASCII で、`+`、`%`、`&`、`=`、空白のどれでもない。 -/
theorem isUnreserved_facts {b : UInt8} (h : isUnreserved b = true) :
    b.toNat < 0x80 ∧ b ≠ 0x2B ∧ b ≠ 0x25 ∧ b ≠ 0x26 ∧ b ≠ 0x3D ∧ b ≠ 0x20 := by
  simp only [isUnreserved, Bool.or_eq_true, Bool.and_eq_true, decide_eq_true_eq, beq_iff_eq,
    UInt8.le_iff_toNat_le] at h
  have hb : b.toNat < 0x80 := by
    rcases h with (((((⟨_, h⟩ | ⟨_, h⟩) | ⟨_, h⟩) | rfl) | rfl) | rfl) | rfl
    all_goals first | (simp at h; omega) | decide
  refine ⟨hb, ?_, ?_, ?_, ?_, ?_⟩ <;> rintro rfl <;> simp at h

/-- 一つの byte を書いた文字の UTF-8 の byte。 -/
def byteCode (b : UInt8) : List UInt8 := (encodeByte b).flatMap String.utf8EncodeChar

/-- 一つの byte の書き方は三通り。そのままの byte、空白の `+`、`%` と 16 進の二桁。 -/
theorem byteCode_cases (b : UInt8) :
    (isUnreserved b = true ∧ byteCode b = [b]) ∨ (b = 0x20 ∧ byteCode b = [0x2B]) ∨
      (isUnreserved b = false ∧ b ≠ 0x20 ∧
        byteCode b = [0x25, hexByte (b.toNat / 16), hexByte (b.toNat % 16)]) := by
  unfold byteCode encodeByte
  by_cases hu : isUnreserved b = true
  · have hlt := (isUnreserved_facts hu).1
    refine .inl ⟨hu, ?_⟩
    rw [if_pos hu, List.flatMap_singleton, utf8EncodeChar_ascii (by rwa [toNat_ofNat_of_ascii hlt]),
      toNat_ofNat_of_ascii hlt, UInt8.ofNat_toNat]
  · by_cases hs : b = 0x20
    · subst hs
      exact .inr (.inl ⟨rfl, by decide⟩)
    · have hb := b.toNat_lt
      have hhi := hexUpper_facts (b.toNat / 16) (by omega)
      have hlo := hexUpper_facts (b.toNat % 16) (by omega)
      refine .inr (.inr ⟨by simpa using hu, hs, ?_⟩)
      rw [if_neg hu, if_neg (by simpa using hs)]
      simp [utf8EncodeChar_ascii hhi.1, utf8EncodeChar_ascii hlo.1, hexByte,
        show String.utf8EncodeChar '%' = [0x25] from by decide]

/-- 書いた byte を `+` を空白に直して percent-decode すると、元の byte に戻る。 -/
theorem percentDecode_plusToSpace_byteCode (b : UInt8) (rest : List UInt8) :
    percentDecode (plusToSpace (byteCode b) ++ rest) = b :: percentDecode rest := by
  rcases byteCode_cases b with ⟨hu, hb⟩ | ⟨rfl, hb⟩ | ⟨_, _, hb⟩
  · obtain ⟨_, hplus, hpct, -⟩ := isUnreserved_facts hu
    rw [hb]
    simp only [plusToSpace, List.map_cons, List.map_nil, beq_iff_eq, hplus, if_false,
      List.cons_append, List.nil_append]
    exact percentDecode_cons_of_ne hpct rest
  · rw [hb]
    exact percentDecode_cons_of_ne (by decide) rest
  · have hv := b.toNat_lt
    have hhi := hexUpper_facts (b.toNat / 16) (by omega)
    have hlo := hexUpper_facts (b.toNat % 16) (by omega)
    rw [hb]
    simp only [plusToSpace, List.map_cons, List.map_nil, beq_iff_eq, hhi.2.2.1, hlo.2.2.1,
      if_false, List.cons_append, List.nil_append,
      show ((0x25 : UInt8) = 0x2B) = False from by decide]
    rw [percentDecode_escape hhi.2.1 hlo.2.1]
    -- 上下の桁から元の byte
    congr 1
    rw [← UInt8.toNat_inj, UInt8.toNat_ofNat']
    omega

theorem percentDecode_plusToSpace_flatMap (bs rest : List UInt8) :
    percentDecode (plusToSpace (bs.flatMap byteCode ++ rest)) = bs ++ percentDecode (plusToSpace rest) := by
  induction bs with
  | nil => rfl
  | cons b bs ih =>
    rw [List.flatMap_cons, List.append_assoc, plusToSpace_append, percentDecode_plusToSpace_byteCode,
      ih, List.cons_append]

/-- 書いた byte に `&` も `=` も現れない。 -/
theorem byteCode_no_separator (b : UInt8) : 0x26 ∉ byteCode b ∧ 0x3D ∉ byteCode b := by
  rcases byteCode_cases b with ⟨hu, hb⟩ | ⟨_, hb⟩ | ⟨_, _, hb⟩
  · obtain ⟨_, _, _, hamp, heq, _⟩ := isUnreserved_facts hu
    rw [hb]
    simp [Ne.symm hamp, Ne.symm heq]
  · rw [hb]
    decide
  · have hv := b.toNat_lt
    have hhi := hexUpper_facts (b.toNat / 16) (by omega)
    have hlo := hexUpper_facts (b.toNat % 16) (by omega)
    rw [hb]
    simp [Ne.symm hhi.2.2.2.1, Ne.symm hhi.2.2.2.2, Ne.symm hlo.2.2.2.1, Ne.symm hlo.2.2.2.2]

/-! ## 名前と値 -/

theorem encode_encodeComponent (s : String) :
    Utf8.encode (encodeComponent s) = (Utf8.encode s).flatMap byteCode := by
  rw [encodeComponent, Utf8.encode, String.toList_ofList, List.flatMap_assoc]
  rfl

/-- 書いた名前か値を読み戻すと元の文字列。 -/
theorem decodeComponent_encode (s : String) : decodeComponent ((Utf8.encode s).flatMap byteCode) = s := by
  have h := percentDecode_plusToSpace_flatMap (Utf8.encode s) []
  rw [List.append_nil] at h
  rw [decodeComponent, h]
  simp [plusToSpace]

/-- 一組を書いた byte。 -/
def pairCode (p : String × String) : List UInt8 :=
  (Utf8.encode p.1).flatMap byteCode ++ 0x3D :: (Utf8.encode p.2).flatMap byteCode

theorem amp_not_mem_pairCode (p : String × String) : 0x26 ∉ pairCode p := by
  simp only [pairCode, List.mem_append, List.mem_cons, List.mem_flatMap, not_or, not_exists, not_and]
  exact ⟨fun b _ => (byteCode_no_separator b).1, by decide, fun b _ => (byteCode_no_separator b).1⟩

/-- 一組を最初の `=` で分けて読むと、元の名前と値。 -/
theorem splitPair_pairCode (p : String × String) : splitPair (pairCode p) = p := by
  have hname : ∀ b ∈ (Utf8.encode p.1).flatMap byteCode, (b != 0x3D) = true := by
    intro b hb
    obtain ⟨a, _, hab⟩ := List.mem_flatMap.mp hb
    have hne : b ≠ 0x3D := fun e => (byteCode_no_separator a).2 (by rw [← e]; exact hab)
    simpa using hne
  have htake : ((pairCode p).takeWhile (· != 0x3D)) = (Utf8.encode p.1).flatMap byteCode := by
    rw [pairCode, List.takeWhile_append_of_pos hname]
    simp
  simp only [splitPair, htake, decodeComponent_encode]
  rw [pairCode, List.drop_length_add_append]
  simp [decodeComponent_encode]

/-- 書いた組の後に `&` と残りが続けば、その組を読んでから残りを読む。 -/
theorem parse_pairCode_append (p : String × String) (rest : List UInt8) :
    parse (pairCode p ++ 0x26 :: rest) = p :: parse rest := by
  have hne : (pairCode p).isEmpty = false := by simp [pairCode]
  rw [parse, splitOn_append_sep, splitOn_of_not_mem (amp_not_mem_pairCode p)]
  simp [hne, splitPair_pairCode, parse]

theorem parse_pairCode (p : String × String) : parse (pairCode p) = [p] := by
  have hne : (pairCode p).isEmpty = false := by simp [pairCode]
  rw [parse, splitOn_of_not_mem (amp_not_mem_pairCode p)]
  simp [hne, splitPair_pairCode]

/-! ## 組の列 -/

theorem encode_pair (k v : String) :
    Utf8.encode (encodeComponent k ++ "=" ++ encodeComponent v) = pairCode (k, v) := by
  rw [Utf8.encode_append, Utf8.encode_append, encode_encodeComponent, encode_encodeComponent,
    show Utf8.encode "=" = [0x3D] from rfl]
  simp [pairCode]

/-- 書いた組の列を読み戻すと、同じ組が同じ順に同じ数だけ戻る。 -/
theorem parse_serialize (ps : List (String × String)) : parse (Utf8.encode (serialize ps)) = ps := by
  induction ps with
  | nil => rfl
  | cons p ps ih =>
    obtain ⟨k, v⟩ := p
    cases ps with
    | nil =>
      simp only [serialize, List.map_cons, List.map_nil, String.intercalate_singleton]
      rw [encode_pair, parse_pairCode]
    | cons q qs =>
      obtain ⟨k', v'⟩ := q
      simp only [serialize, List.map_cons, String.intercalate_cons_cons] at ih ⊢
      rw [Utf8.encode_append, Utf8.encode_append, encode_pair]
      rw [show Utf8.encode "&" = [0x26] from rfl, List.append_assoc, List.singleton_append,
        parse_pairCode_append, ih]

theorem parseString_serialize (ps : List (String × String)) : parseString (serialize ps) = ps :=
  parse_serialize ps

/-- 書いた query が空になるのは組が無いときだけ。 -/
theorem serialize_eq_empty_iff (ps : List (String × String)) : serialize ps = "" ↔ ps = [] := by
  constructor
  · intro h
    rw [← parseString_serialize ps, h]
    rfl
  · rintro rfl
    rfl

end Form

namespace Uri

/-- 経路と query を持つ形（origin 形と absolute 形）。 -/
def HasTarget : Uri → Prop
  | .origin _ => True
  | .absolute .. => True
  | _ => False

variable {u : Uri}

theorem path_withQuery (h : u.HasTarget) (q : String) : (u.withQuery q).path = u.path := by
  cases u with
  | origin t => rfl
  | absolute s host t =>
    -- absolute 形の経路は空なら `/` と読むので、置き直した経路は空でない
    simp only [withQuery, path]
    split <;> simp_all
  | asterisk => exact absurd h id
  | authority host => exact absurd h id

theorem query_withQuery (h : u.HasTarget) (q : String) :
    (u.withQuery q).query = if q.isEmpty then none else some q := by
  cases u with
  | origin t => rfl
  | absolute s host t => rfl
  | asterisk => exact absurd h id
  | authority host => exact absurd h id

theorem withQuery_of_not_hasTarget (h : ¬u.HasTarget) (q : String) : u.withQuery q = u := by
  cases u with
  | origin t => exact absurd trivial h
  | absolute s host t => exact absurd trivial h
  | asterisk => rfl
  | authority host => rfl

end Uri

namespace Request

variable {r : Request}

theorem path_setQuery (h : r.uri.HasTarget) (ps : List (String × String)) :
    (r.setQuery ps).path = r.path :=
  Uri.path_withQuery h _

theorem query_setQuery_eq_none_iff (h : r.uri.HasTarget) (ps : List (String × String)) :
    (r.setQuery ps).query = none ↔ ps = [] := by
  show (r.uri.withQuery (Form.serialize ps)).query = none ↔ ps = []
  rw [Uri.query_withQuery h, ← Form.serialize_eq_empty_iff]
  split <;> simp_all

theorem queryPairs_setQuery (h : r.uri.HasTarget) (ps : List (String × String)) :
    (r.setQuery ps).queryPairs = ps := by
  rw [queryPairs, show (r.setQuery ps).query = (r.uri.withQuery (Form.serialize ps)).query from rfl,
    Uri.query_withQuery h]
  by_cases hps : ps = []
  · subst hps
    rfl
  · have hne : (Form.serialize ps).isEmpty = false := by
      simpa [String.isEmpty_iff] using mt (Form.serialize_eq_empty_iff ps).mp hps
    simp only [hne, Bool.false_eq_true, if_false]
    exact Form.parseString_serialize ps

theorem setQuery_of_not_hasTarget (h : ¬r.uri.HasTarget) (ps : List (String × String)) :
    r.setQuery ps = r := by
  show { r with uri := r.uri.withQuery (Form.serialize ps) } = r
  rw [Uri.withQuery_of_not_hasTarget h]

end Request

/-- 経路と query を持つ URI の要求では、`setQuery ps` の後も経路は変わらず、query が無いのは
`ps` が空のときだけで、query の組は `ps` そのもの（同じ組が同じ順に同じ数だけ）である。
asterisk 形と authority 形の URI の要求は query を持てず、`setQuery` で変わらない。 -/
theorem set_query_round_trip (r : Request) (ps : List (String × String)) :
    (r.uri.HasTarget →
      (r.setQuery ps).path = r.path ∧ ((r.setQuery ps).query = none ↔ ps = []) ∧
        (r.setQuery ps).queryPairs = ps) ∧
    (¬r.uri.HasTarget → r.setQuery ps = r) :=
  ⟨fun h => ⟨Request.path_setQuery h ps, Request.query_setQuery_eq_none_iff h ps,
    Request.queryPairs_setQuery h ps⟩, fun h => Request.setQuery_of_not_hasTarget h ps⟩

/-- `*` の要求に組 `a=b` を置いても、query は無いままで、組は読めない。 -/
theorem set_query_keeps_asterisk_request :
    ({ method := Method.get, uri := .asterisk : Request }.setQuery [("a", "b")]).query = none ∧
      ({ method := Method.get, uri := .asterisk : Request }.setQuery [("a", "b")]).queryPairs ≠
        [("a", "b")] :=
  ⟨rfl, by simp [Request.queryPairs, Request.setQuery, Request.query, Uri.withQuery, Uri.query]⟩

end HttpRouting
