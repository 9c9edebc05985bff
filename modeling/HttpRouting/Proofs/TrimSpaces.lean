import HttpRouting.Proofs.FormRoundTrip
import HttpRouting.Middleware.Trim

/-!
# 空白を削る middleware が渡す要求

`Trim.middleware` は、query の値と header の値の両端の空白を削った要求（`Trim.request`）を次の処理に
渡す。渡す要求は元の要求と次の点だけが違う。

* query の組は、元の組の値を削ったもの。名前、順、数は変わらない。削る値が無ければ URI は元のまま。
  削る値があれば組を書き直すが、書いた組は読み戻せるので（`Request.queryPairs_setQuery`）、名前と
  順と数は保たれる。組があるのは経路と query を持つ URI だけなので、書き直しはいつも効く。
* header の名前の並びは同じで、名前ごとの値も同じ数で同じ順に並ぶ。文字列として読める値
  （見える ASCII と tab）は両端を削った文字列になり、ほかの値は byte ごと同じ。削った文字列の
  文字は元の文字なので、削った値もまた文字列として読める。
* method、経路、本文、要求の項目は変わらない。

両端の空白を削った文字列は、両端の文字が空白でない（`Trimmed`）。そうした文字列はもう削っても
変わらないので、値を削るのは一度きりで、middleware を二重にかけても一度かけたのと同じである。

* `trimBlank_trimBlank` — 削った文字列を削っても同じ。
* `Trim.request_request` — 渡す要求をもう一度削っても同じ。
* `trim_spaces_passes_trimmed_request` — 渡す要求と元の要求の違いのすべて。
-/

namespace HttpRouting

/-! ## 両端の空白 -/

section DropWhile

variable {α : Type} {p : α → Bool}

/-- 先頭が条件を満たさない列からは何も捨てない。 -/
theorem dropWhile_of_head? {l : List α} (h : ∀ x ∈ l.head?, p x = false) : l.dropWhile p = l := by
  cases l with
  | nil => rfl
  | cons x xs => exact List.dropWhile_cons_of_neg (by simpa using h x rfl)

/-- 捨てた後の先頭は条件を満たさない。 -/
theorem head?_dropWhile (p : α → Bool) (l : List α) : ∀ x ∈ (l.dropWhile p).head?, p x = false := by
  intro x hx
  have h := List.head?_dropWhile_not p l
  rw [Option.mem_def.mp hx] at h
  exact h

/-- 何かが残れば、最後の要素は元の列の最後の要素。 -/
theorem getLast?_dropWhile {l : List α} (h : l.dropWhile p ≠ []) :
    (l.dropWhile p).getLast? = l.getLast? := by
  induction l with
  | nil => rfl
  | cons x xs ih =>
    by_cases hx : p x = true
    · rw [List.dropWhile_cons_of_pos hx] at h ⊢
      have hxs : xs ≠ [] := by rintro rfl; exact h rfl
      obtain ⟨y, ys, rfl⟩ := List.exists_cons_of_ne_nil hxs
      rw [ih h, List.getLast?_cons_cons]
    · rw [List.dropWhile_cons_of_neg hx]

end DropWhile

/-- 両端の文字が空白でない文字の列（空でもよい）。 -/
def Trimmed (l : List Char) : Prop :=
  (∀ c ∈ l.head?, isBlank c = false) ∧ ∀ c ∈ l.getLast?, isBlank c = false

theorem toList_trimBlank (s : String) :
    (trimBlank s).toList = ((s.toList.dropWhile isBlank).reverse.dropWhile isBlank).reverse :=
  String.toList_ofList

/-- 削った文字列の両端は空白でない。 -/
theorem trimmed_trimBlank (s : String) : Trimmed (trimBlank s).toList := by
  rw [toList_trimBlank]
  refine ⟨fun c hc => ?_, fun c hc => ?_⟩
  · -- 先頭は、前を削った列の先頭が後ろから残ったもの
    rw [List.head?_reverse] at hc
    have hne : (s.toList.dropWhile isBlank).reverse.dropWhile isBlank ≠ [] := by
      rintro h
      rw [h] at hc
      cases hc
    rw [getLast?_dropWhile hne, List.getLast?_reverse] at hc
    exact head?_dropWhile isBlank _ c hc
  · rw [List.getLast?_reverse] at hc
    exact head?_dropWhile isBlank _ c hc

/-- 両端が空白でない文字列は、削っても変わらない。 -/
theorem trimBlank_of_trimmed {s : String} (h : Trimmed s.toList) : trimBlank s = s := by
  have hfront : s.toList.dropWhile isBlank = s.toList := dropWhile_of_head? h.1
  have hback : s.toList.reverse.dropWhile isBlank = s.toList.reverse :=
    dropWhile_of_head? (by rw [List.head?_reverse]; exact h.2)
  rw [← String.toList_inj, toList_trimBlank, hfront, hback, List.reverse_reverse]

/-- 削った文字列を削っても同じ。 -/
@[simp] theorem trimBlank_trimBlank (s : String) : trimBlank (trimBlank s) = trimBlank s :=
  trimBlank_of_trimmed (trimmed_trimBlank s)

/-- 削った文字列の文字は、元の文字列の文字。 -/
theorem mem_of_mem_trimBlank {s : String} {c : Char} (h : c ∈ (trimBlank s).toList) : c ∈ s.toList := by
  rw [toList_trimBlank, List.mem_reverse] at h
  have h₁ := (List.dropWhile_sublist isBlank).subset h
  rw [List.mem_reverse] at h₁
  exact (List.dropWhile_sublist isBlank).subset h₁

/-! ## header の値 -/

namespace HeaderValue

variable {v : HeaderValue} {s : String}

/-- 文字列として読める値は、その文字列の UTF-8 の byte で、どの byte も見える ASCII か tab。 -/
theorem text?_eq_some (h : v.text? = some s) : Utf8.encode s = v.bytes ∧ v.bytes.all isVisibleByte := by
  unfold text? at h
  split at h
  · rename_i hvis
    cases h
    exact ⟨(encode_decodeLossy_of_visible hvis).1, hvis⟩
  · cases h

/-- 読める値の文字列から文字を抜いても（順は保って）、また読める値になる。 -/
theorem text?_of_subset (h : v.text? = some s) {t : String} (ht : ∀ c ∈ t.toList, c ∈ s.toList) :
    text? ⟨Utf8.encode t⟩ = some t := by
  obtain ⟨henc, hvis⟩ := text?_eq_some h
  -- 抜いた文字の byte は元の値の byte
  have hall : (Utf8.encode t).all isVisibleByte = true := by
    rw [List.all_eq_true]
    intro b hb
    obtain ⟨c, hc, hbc⟩ := List.mem_flatMap.mp hb
    have hbs : b ∈ v.bytes := henc ▸ List.mem_flatMap.mpr ⟨c, ht c hc, hbc⟩
    exact List.all_eq_true.mp hvis b hbs
  simp [text?, hall]

/-- 読める値の文字列から文字を抜いた文字列は、値として使える。 -/
theorem parse?_of_subset (h : v.text? = some s) {t : String} (ht : ∀ c ∈ t.toList, c ∈ s.toList) :
    parse? t = some ⟨Utf8.encode t⟩ := by
  have hvis : (Utf8.encode t).all isVisibleByte = true := (text?_eq_some (text?_of_subset h ht)).2
  have hval : (Utf8.encode t).all isValueByte = true :=
    List.all_eq_true.mpr fun b hb => isValueByte_of_isVisibleByte (List.all_eq_true.mp hvis b hb)
  simp [parse?, ofBytes?, hval]

end HeaderValue

namespace Trim

variable {v : HeaderValue} {s : String}

/-- 読める値は、削った文字列の値になる。 -/
theorem headerValue_of_text? (h : v.text? = some s) : headerValue v = ⟨Utf8.encode (trimBlank s)⟩ := by
  by_cases ht : trimBlank s = s
  · -- 削っても変わらない値は、その文字列の byte そのもの
    have hv : headerValue v = v := by simp [headerValue, h, ht]
    rw [hv, ht, (HeaderValue.text?_eq_some h).1]
  · -- 削った文字列の文字は元の文字なので、値として使える
    have hparse := HeaderValue.parse?_of_subset h fun _ hc => mem_of_mem_trimBlank hc
    simp [headerValue, h, ht, hparse]

/-- 読めない値は byte ごとそのまま。 -/
theorem headerValue_of_text?_none (h : v.text? = none) : headerValue v = v := by
  simp [headerValue, h]

/-- 削っても変わらない値は、そのまま。 -/
theorem headerValue_of_untrimmed (h : untrimmed v = false) : headerValue v = v := by
  cases ht : v.text? with
  | none => exact headerValue_of_text?_none ht
  | some s =>
    have hs : trimBlank s = s := by simpa [untrimmed, ht] using h
    simp [headerValue, ht, hs]

/-- 削った値もまた読める値で、その文字列は削った文字列。 -/
theorem text?_headerValue (h : v.text? = some s) : (headerValue v).text? = some (trimBlank s) := by
  rw [headerValue_of_text? h]
  exact HeaderValue.text?_of_subset h fun _ hc => mem_of_mem_trimBlank hc

/-- 値を削るのは一度きり。 -/
@[simp] theorem headerValue_headerValue (v : HeaderValue) : headerValue (headerValue v) = headerValue v := by
  cases h : v.text? with
  | none => rw [headerValue_of_text?_none h, headerValue_of_text?_none h]
  | some s => rw [headerValue_of_text? (text?_headerValue h), trimBlank_trimBlank, headerValue_of_text? h]

/-! ## 要求 -/

/-- 組を順に後ろに足すと、足した組がその順に並ぶ。 -/
theorem foldl_append (hs acc : Headers) :
    hs.foldl (fun (acc : Headers) (n, v) => acc.append n v) acc = acc ++ hs := by
  induction hs generalizing acc with
  | nil => simp
  | cons x xs ih =>
    obtain ⟨n, v⟩ := x
    rw [List.foldl_cons, ih]
    simp [Headers.append]

/-- header の並びを作り直すことは、並びの順のまま値を削ることと同じ。削ると変わる値が無ければ、
どの値も削ってもそのまま。 -/
theorem headers_eq_map (r : Request) :
    headers r = { r with headers := r.headers.map fun (n, v) => (n, headerValue v) } := by
  unfold headers
  split
  · rename_i h
    have hall : ∀ n v, (n, v) ∈ r.headers → untrimmed v = false := by simpa using h
    have hmap : (r.headers.map fun (n, v) => (n, headerValue v)) = r.headers := by
      refine (List.map_congr_left fun x hx => ?_).trans (List.map_id _)
      obtain ⟨n, v⟩ := x
      simp [headerValue_of_untrimmed (hall n v hx)]
    rw [hmap]
  · -- 空にした並びに足し直すと、取り出した順に並ぶ
    exact congrArg (fun hs => { r with headers := hs }) ((foldl_append _ []).trans (List.nil_append _))

/-- middleware が次の処理に渡す要求。query を削ってから header を削る。 -/
def request (r : Request) : Request := headers (query r)

theorem middleware_apply (next : Handler) (r : Request) : middleware next r = next (request r) := rfl

/-- 渡す要求は、query を削った要求の header の値を、並びの順のまま削ったもの。 -/
theorem request_eq (r : Request) :
    request r = { query r with headers := (query r).headers.map fun (n, v) => (n, headerValue v) } :=
  headers_eq_map (query r)

variable {r : Request}

/-- 削る値が無ければ、query を削っても要求は変わらない。 -/
theorem query_of_trimmed (h : (r.queryPairs.all fun (_, v) => trimBlank v == v) = true) :
    query r = r := by
  simp only [query, h, if_true]

/-- 組があるのは、経路と query を持つ URI の要求だけ。 -/
theorem hasTarget_of_queryPairs_ne_nil (h : r.queryPairs ≠ []) : r.uri.HasTarget := by
  cases hu : r.uri with
  | origin t => trivial
  | absolute s host t => trivial
  | asterisk => exact h (by simp [Request.queryPairs, Request.query, hu, Uri.query])
  | authority host => exact h (by simp [Request.queryPairs, Request.query, hu, Uri.query])

/-- 削る値があれば、要求は経路と query を持ち、query は削った組で書き直される。 -/
theorem query_of_untrimmed (h : ¬(r.queryPairs.all fun (_, v) => trimBlank v == v) = true) :
    r.uri.HasTarget ∧ query r = r.setQuery (r.queryPairs.map fun (k, v) => (k, trimBlank v)) := by
  refine ⟨hasTarget_of_queryPairs_ne_nil ?_, by simp only [query, h, Bool.false_eq_true, ↓reduceIte]⟩
  rintro hnil
  rw [hnil] at h
  exact h rfl

/-- query を削った後の組は、元の組の値を削ったもの。 -/
theorem queryPairs_query (r : Request) :
    (query r).queryPairs = r.queryPairs.map fun (k, v) => (k, trimBlank v) := by
  by_cases h : (r.queryPairs.all fun (_, v) => trimBlank v == v) = true
  · rw [query_of_trimmed h]
    -- どの値も削っても変わらない
    refine (List.map_congr_left fun p hp => ?_).trans (List.map_id _) |>.symm
    obtain ⟨k, v⟩ := p
    have hv := List.all_eq_true.mp h (k, v) hp
    simp only [beq_iff_eq] at hv
    simp [hv]
  · obtain ⟨htarget, hq⟩ := query_of_untrimmed h
    rw [hq, Request.queryPairs_setQuery htarget]

theorem path_query (r : Request) : (query r).path = r.path := by
  by_cases h : (r.queryPairs.all fun (_, v) => trimBlank v == v) = true
  · rw [query_of_trimmed h]
  · obtain ⟨htarget, hq⟩ := query_of_untrimmed h
    rw [hq, Request.path_setQuery htarget]

/-- query を削っても、method、header、本文、項目は変わらない。 -/
theorem query_frame (r : Request) :
    (query r).method = r.method ∧ (query r).headers = r.headers ∧ (query r).body = r.body ∧
      (query r).fields = r.fields := by
  by_cases h : (r.queryPairs.all fun (_, v) => trimBlank v == v) = true
  · rw [query_of_trimmed h]
    exact ⟨rfl, rfl, rfl, rfl⟩
  · rw [(query_of_untrimmed h).2]
    exact ⟨rfl, rfl, rfl, rfl⟩

/-- 削った組の値はもう削っても変わらないので、query を二度削っても一度と同じ。 -/
theorem query_query (r : Request) : query (query r) = query r := by
  refine query_of_trimmed ?_
  rw [queryPairs_query, List.all_eq_true]
  intro p hp
  obtain ⟨⟨k, v⟩, _, rfl⟩ := List.mem_map.mp hp
  simp

/-- header を削ることと query を削ることは入れ替えられる。 -/
theorem query_headers (r : Request) : query (headers r) = headers (query r) := by
  -- header を削っても query の組は変わらないので、二つの `query` は同じ枝を通る
  have hq : (headers r).queryPairs = r.queryPairs := by rw [headers_eq_map]; rfl
  by_cases h : (r.queryPairs.all fun (_, v) => trimBlank v == v) = true
  · rw [query_of_trimmed (hq ▸ h), query_of_trimmed h]
  · rw [(query_of_untrimmed (hq ▸ h)).2, (query_of_untrimmed h).2, hq, headers_eq_map, headers_eq_map]
    rfl

@[simp] theorem headers_headers (r : Request) : headers (headers r) = headers r := by
  simp [headers_eq_map, List.map_map, Function.comp_def]

/-- 渡す要求をもう一度削っても同じ。 -/
theorem request_request (r : Request) : request (request r) = request r := by
  rw [request, request, query_headers, headers_headers, query_query]

/-- middleware を二重にかけても、一度かけたのと同じ。 -/
theorem middleware_middleware (next : Handler) : middleware (middleware next) = middleware next := by
  funext r
  rw [middleware_apply, middleware_apply, middleware_apply, request_request]

/-- 名前ごとの値は、同じ数で同じ順に並び、それぞれ削った値になる。 -/
theorem getAll_headers (r : Request) (n : HeaderName) :
    (headers r).headers.getAll n = (r.headers.getAll n).map headerValue := by
  simp [headers_eq_map, Headers.getAll, List.filter_map, Function.comp_def]

end Trim

/-- 空白を削る middleware は、次の処理に `Trim.request r` を渡す。その query の組は元の組の値を
削ったもの（名前、順、数は同じ）で、削る値が無ければ URI は元のまま。header の名前の並びは同じで、
名前ごとの値は同じ数で同じ順に並ぶ。文字列として読める値は削った文字列の値になり、ほかの値は byte
ごと同じ。method、経路、本文、要求の項目は変わらない。middleware を二重にかけても一度と同じ。 -/
theorem trim_spaces_passes_trimmed_request (r : Request) :
    (∀ next : Handler, Trim.middleware next r = next (Trim.request r)) ∧
    (Trim.request r).queryPairs = r.queryPairs.map (fun (k, v) => (k, trimBlank v)) ∧
    ((r.queryPairs.all fun (_, v) => trimBlank v == v) = true → (Trim.request r).uri = r.uri) ∧
    (Trim.request r).headers.map (·.1) = r.headers.map (·.1) ∧
    (∀ n, (Trim.request r).headers.getAll n = (r.headers.getAll n).map Trim.headerValue) ∧
    (∀ v s, v.text? = some s →
      Trim.headerValue v = ⟨Utf8.encode (trimBlank s)⟩ ∧ (Trim.headerValue v).text? = some (trimBlank s)) ∧
    (∀ v, v.text? = none → Trim.headerValue v = v) ∧
    (Trim.request r).method = r.method ∧ (Trim.request r).path = r.path ∧
    (Trim.request r).body = r.body ∧ (Trim.request r).fields = r.fields ∧
    (∀ next : Handler, Trim.middleware (Trim.middleware next) = Trim.middleware next) := by
  obtain ⟨hmethod, hheaders, hbody, hfields⟩ := Trim.query_frame r
  -- header を削るのは header の値だけを書く
  have hreq := Trim.request_eq r
  have hnames : (Trim.request r).headers.map (·.1) = r.headers.map (·.1) := by
    simp [hreq, hheaders, List.map_map, Function.comp_def]
  have hgetAll : ∀ n, (Trim.request r).headers.getAll n = (r.headers.getAll n).map Trim.headerValue := by
    intro n
    rw [Trim.request, Trim.getAll_headers, hheaders]
  refine ⟨fun next => Trim.middleware_apply next r, ?_, fun h => ?_, hnames, hgetAll,
    fun _ _ h => ⟨Trim.headerValue_of_text? h, Trim.text?_headerValue h⟩,
    fun _ h => Trim.headerValue_of_text?_none h, ?_, ?_, ?_, ?_, Trim.middleware_middleware⟩
  · rw [hreq]
    exact Trim.queryPairs_query r
  · rw [hreq]
    show (Trim.query r).uri = r.uri
    rw [Trim.query_of_trimmed h]
  · rw [hreq]
    exact hmethod
  · rw [hreq]
    exact Trim.path_query r
  · rw [hreq]
    exact hbody
  · rw [hreq]
    exact hfields

end HttpRouting
