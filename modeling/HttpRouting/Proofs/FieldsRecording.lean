import HttpRouting.Middleware.Fields
import HttpRouting.Proofs.Table

/-!
# 要求の項目を集める

`RequestFields.ofRequest` が要求から作る二つの表（header と query の組）を、名前で引いた値で
言い表す。どちらの表も、名前と値の組を前から一つずつ `pushUnique` で足して作る。その繰り返しに
ついては一度だけ言う。

* `Collects ps m` — 表 `m` は組の列 `ps` を集めたもの。名前の順に並び、名前 `k` を引くと
  `k` の値を重複を除いて最初に現れた順に並べた列、`k` の組がなければ `none` になる。
* `Collects.push`、`Collects.foldl` — 組を一つ足すと、足した組まで集めた表になる。
  列を足し終えれば、列全体を集めた表になる。
* `request_fields_collect_values` — header の表は記録する名前（無視する頭で始まらず、文字列として
  読める値を持つ名前）を読める値の列に写し、query の表は組の名前を値の列に写す。middleware は
  どちらかの表が空でないときだけ項目を添え、要求のほかの部分はそのまま次に渡す。
-/

namespace HttpRouting

/-- 組の列のうち、名前が `k` の組の値（現れた順）。 -/
def valuesAt (k : String) (ps : List (String × String)) : List String :=
  ps.filterMap fun p => if p.1 = k then some p.2 else none

@[simp] theorem valuesAt_nil (k : String) : valuesAt k [] = [] := rfl

theorem valuesAt_append_single (k k' v : String) (ps : List (String × String)) :
    valuesAt k (ps ++ [(k', v)]) = valuesAt k ps ++ if k' = k then [v] else [] := by
  by_cases h : k' = k <;> simp [valuesAt, h]

/-- 値の列に一つ足して重複を除くのは、重複を除いた列にまだ無い値を足すことである。 -/
theorem eraseDups_append_single (xs : List String) (v : String) :
    (xs ++ [v]).eraseDups = if xs.eraseDups.contains v then xs.eraseDups else xs.eraseDups ++ [v] := by
  rw [List.eraseDups_append]
  by_cases hv : v ∈ xs <;> simp [List.removeAll, List.eraseDups_cons, hv]

/-- 表 `m` は組の列 `ps` を集めたもの: 名前の順に並び、名前 `k` を引くと `k` の値を重複を除いて
最初に現れた順に並べた列、`k` の組がなければ名前ごとない。 -/
structure Collects (ps : List (String × String)) (m : List (String × List String)) : Prop where
  sorted : Keyed.Sorted m
  find : ∀ k, Keyed.find? k m = if valuesAt k ps = [] then none else some (valuesAt k ps).eraseDups

namespace Collects

variable {ps : List (String × String)} {m : List (String × List String)}

theorem nil : Collects [] [] :=
  ⟨List.Pairwise.nil, fun k => by simp [Keyed.find?]⟩

/-- 名前で引いた値の列（なければ空の列）は、その名前の値から重複を除いたもの。 -/
theorem getD_find (h : Collects ps m) (k : String) :
    (Keyed.find? k m).getD [] = (valuesAt k ps).eraseDups := by
  rw [h.find k]
  split
  · rename_i hnil
    rw [hnil]
    rfl
  · rfl

/-- 組を一つ足した表は、足した組まで集めた表。 -/
theorem push (h : Collects ps m) (k v : String) : Collects (ps ++ [(k, v)]) (pushUnique m k v) := by
  refine ⟨h.sorted.insert _ _, fun j => ?_⟩
  rw [pushUnique, Keyed.modify, Keyed.find?_insert, valuesAt_append_single]
  by_cases hj : j = k
  · -- 足した名前: 前の値の列に、まだ無ければ値を足す
    subst hj
    rw [h.getD_find, ← eraseDups_append_single]
    simp
  · simp only [hj, if_false, Ne.symm hj, List.append_nil]
    exact h.find j

/-- 組の列を前から足し終えた表は、列全体を集めた表。 -/
theorem foldl (h : Collects ps m) (qs : List (String × String)) :
    Collects (ps ++ qs) (qs.foldl (fun m p => pushUnique m p.1 p.2) m) := by
  induction qs generalizing ps m with
  | nil => simpa using h
  | cons q qs ih =>
    have h' := ih (h.push q.1 q.2)
    simpa using h'

end Collects

/-- 組の列を空の表から集める。 -/
theorem collects_foldl (qs : List (String × String)) :
    Collects qs (qs.foldl (fun m p => pushUnique m p.1 p.2) []) := by
  simpa using Collects.nil.foldl qs

/-- 集めた表が空なのは、組の列が空のとき。 -/
theorem Collects.eq_nil_iff {ps : List (String × String)} {m : List (String × List String)}
    (h : Collects ps m) : m = [] ↔ ps = [] := by
  constructor
  · rintro rfl
    cases ps with
    | nil => rfl
    | cons p rest =>
      -- 最初の組の名前は表にある
      have hk := h.find p.1
      simp [Keyed.find?, valuesAt] at hk
  · rintro rfl
    cases m with
    | nil => rfl
    | cons e rest => simpa [Keyed.find?, valuesAt] using h.find e.1

/-! ## header -/

namespace Request

/-- 名前 `n` の header の値のうち、文字列として読めるもの（現れた順）。 -/
def visibleValues (r : Request) (n : String) : List String :=
  r.headers.filterMap fun p => if p.1.name = n then p.2.text? else none

/-- 記録する header の名前: 無視する頭のどれでも始まらず、文字列として読める値が一つはある。 -/
def RecordsHeader (r : Request) (n : String) : Prop :=
  (∀ p ∈ ignoredHeaderPrefixes, n.startsWith p = false) ∧ r.visibleValues n ≠ []

instance (r : Request) (n : String) : Decidable (r.RecordsHeader n) :=
  inferInstanceAs (Decidable (_ ∧ _))

end Request

/-- 名前が無視する頭のどれかで始まるか。 -/
def ignoredName (n : String) : Bool := ignoredHeaderPrefixes.any (n.startsWith ·)

theorem ignoredName_eq_false_iff {n : String} :
    ignoredName n = false ↔ ∀ p ∈ ignoredHeaderPrefixes, n.startsWith p = false := by
  simp only [ignoredName, List.any_eq_false, Bool.not_eq_true]

/-- header の組を、記録するなら名前と値の文字列の組にする。 -/
def recordedPair (p : HeaderName × HeaderValue) : Option (String × String) :=
  if ignoredName p.1.name then none else p.2.text?.map (p.1.name, ·)

theorem valuesAt_cons (k k' v : String) (ps : List (String × String)) :
    valuesAt k ((k', v) :: ps) = if k' = k then v :: valuesAt k ps else valuesAt k ps := by
  by_cases h : k' = k <;> simp [valuesAt, h]

/-- 記録する組の値は、無視しない名前の読める値。 -/
theorem valuesAt_filterMap_recordedPair (n : String) (hs : Headers) :
    valuesAt n (hs.filterMap recordedPair) =
      if ignoredName n then [] else hs.filterMap fun p => if p.1.name = n then p.2.text? else none := by
  induction hs with
  | nil => split <;> rfl
  | cons p hs ih =>
    obtain ⟨m, v⟩ := p
    cases hig : ignoredName m.name with
    | true =>
      -- 無視する名前の組は足さない。名前が `n` なら `n` も無視する名前
      rw [List.filterMap_cons_none (by simp [recordedPair, hig]), ih]
      by_cases hm : m.name = n
      · subst hm
        simp [hig]
      · simp [hm]
    | false =>
      cases ht : v.text? with
      | none =>
        rw [List.filterMap_cons_none (by simp [recordedPair, hig, ht]), ih]
        by_cases hm : m.name = n <;> simp [hm, ht]
      | some s =>
        have hrec : recordedPair (m, v) = some (m.name, s) := by simp [recordedPair, hig, ht]
        rw [List.filterMap_cons_some hrec, valuesAt_cons, ih]
        by_cases hm : m.name = n
        · subst hm
          simp [hig, ht]
        · simp [hm]

theorem ofRequest_headers (r : Request) :
    (RequestFields.ofRequest r).headers =
      (r.headers.filterMap recordedPair).foldl (fun m p => pushUnique m p.1 p.2) [] := by
  rw [List.foldl_filterMap]
  show r.headers.foldl _ [] = _
  congr 1
  funext m p
  obtain ⟨n, v⟩ := p
  -- 無視する名前の組は、どちらの畳み込みでも表を変えない
  cases hig : ignoredName n.name with
  | true =>
    simp only [ignoredName] at hig
    simp [recordedPair, ignoredName, hig]
  | false =>
    simp only [ignoredName] at hig
    cases ht : v.text? <;> simp [recordedPair, ignoredName, hig, ht]

theorem collects_headers (r : Request) :
    Collects (r.headers.filterMap recordedPair) (RequestFields.ofRequest r).headers :=
  ofRequest_headers r ▸ collects_foldl _

/-- header の表を名前で引くと、記録する名前なら読める値の列から重複を除いたもの、そうでなければ
`none`。 -/
theorem find_ofRequest_headers (r : Request) (n : String) :
    Keyed.find? n (RequestFields.ofRequest r).headers =
      if r.RecordsHeader n then some (r.visibleValues n).eraseDups else none := by
  rw [(collects_headers r).find, valuesAt_filterMap_recordedPair]
  cases hig : ignoredName n with
  | true =>
    have hnot : ¬r.RecordsHeader n := fun h => by
      have h1 := ignoredName_eq_false_iff.mpr h.1
      simp [hig] at h1
    simp [hnot]
  | false =>
    by_cases hv : r.visibleValues n = []
    · have hnot : ¬r.RecordsHeader n := fun h => h.2 hv
      simp only [Request.visibleValues] at hv
      simp [hv, hnot]
    · have hrec : r.RecordsHeader n := ⟨ignoredName_eq_false_iff.mp hig, hv⟩
      simp only [Request.visibleValues] at hv hrec ⊢
      simp [hv, hrec]

/-! ## query の組 -/

theorem collects_parameters (r : Request) : Collects r.queryPairs (RequestFields.ofRequest r).parameters :=
  collects_foldl _

/-! ## middleware -/

/-- header の表が空でないのは、記録する名前があるとき。 -/
theorem ofRequest_headers_ne_nil_iff (r : Request) :
    (RequestFields.ofRequest r).headers ≠ [] ↔ ∃ n, r.RecordsHeader n := by
  constructor
  · intro hne
    obtain ⟨⟨n, vs⟩, rest, heq⟩ := List.exists_cons_of_ne_nil hne
    refine ⟨n, Decidable.byContradiction fun hn => ?_⟩
    have h := find_ofRequest_headers r n
    rw [heq, if_neg hn] at h
    simp [Keyed.find?] at h
  · rintro ⟨n, hn⟩ heq
    have h := find_ofRequest_headers r n
    rw [heq, if_pos hn] at h
    simp [Keyed.find?] at h

/-- middleware は、どちらかの表が空でないときだけ項目を添えて次に渡す。 -/
theorem middleware_eq (r : Request) (next : Handler) :
    RequestFields.middleware next r =
      next (if (RequestFields.ofRequest r).isEmpty then r
        else { r with fields := some (RequestFields.ofRequest r) }) :=
  rfl

/-- 項目が空なのは、記録する header の名前も query の組もないとき。 -/
theorem ofRequest_isEmpty_iff (r : Request) :
    (RequestFields.ofRequest r).isEmpty = true ↔ ¬((∃ n, r.RecordsHeader n) ∨ r.queryPairs ≠ []) := by
  have hp := (collects_parameters r).eq_nil_iff
  rw [← ofRequest_headers_ne_nil_iff]
  simp only [RequestFields.isEmpty, Bool.and_eq_true, List.isEmpty_iff, ne_eq, ← hp]
  constructor
  · rintro ⟨hh, hq⟩ (h | h)
    · exact h hh
    · exact h hq
  · intro h
    exact ⟨Decidable.byContradiction fun hh => h (.inl hh), Decidable.byContradiction fun hq => h (.inr hq)⟩

/-- **要求の項目。** header の表は名前の順に並び、記録する名前（無視する九つの頭のどれでも
始まらず、見える ASCII の値を一つは持つ名前）だけを、その値を重複を除いて最初に現れた順に並べた
列に写す。query の表は名前の順に並び、query の組の名前を、その値を同じように並べた列に写す
（組のない名前は表にない）。middleware は、記録する header か query の組があるときだけ項目を
添え、要求のほかの部分は変えずに次の処理に渡す。 -/
theorem request_fields_collect_values (r : Request) :
    Keyed.Sorted (RequestFields.ofRequest r).headers ∧
    (∀ n, Keyed.find? n (RequestFields.ofRequest r).headers =
      if r.RecordsHeader n then some (r.visibleValues n).eraseDups else none) ∧
    Keyed.Sorted (RequestFields.ofRequest r).parameters ∧
    (∀ k, Keyed.find? k (RequestFields.ofRequest r).parameters =
      if valuesAt k r.queryPairs = [] then none else some (valuesAt k r.queryPairs).eraseDups) ∧
    ∀ next : Handler,
      (((∃ n, r.RecordsHeader n) ∨ r.queryPairs ≠ []) →
        RequestFields.middleware next r = next { r with fields := some (RequestFields.ofRequest r) }) ∧
      (¬((∃ n, r.RecordsHeader n) ∨ r.queryPairs ≠ []) → RequestFields.middleware next r = next r) := by
  refine ⟨(collects_headers r).sorted, find_ofRequest_headers r, (collects_parameters r).sorted,
    (collects_parameters r).find, fun next => ⟨?_, ?_⟩⟩
  · intro hrec
    have hne : (RequestFields.ofRequest r).isEmpty = false :=
      Bool.eq_false_iff.mpr fun h => (ofRequest_isEmpty_iff r).mp h hrec
    rw [middleware_eq, hne, if_neg Bool.false_ne_true]
  · intro hnone
    rw [middleware_eq, if_pos ((ofRequest_isEmpty_iff r).mpr hnone)]

end HttpRouting
