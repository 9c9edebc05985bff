import Mathlib.Data.List.Nodup
import HttpRouting.Proofs.WriteLog
import HttpRouting.Proofs.Preflight

/-!
# 登録の順

(鍵, 枠) が重ならない登録の列は、どの順に行っても（順に行っても、thread ごとに始めてどう組み
合わせても）、表の処理、鍵、枠、一覧、文書が同じになる（`registration_order_independent`）。

順が残るのは、鍵ごとの追加の header 名の列だけである。名前は登録の順に足され、大文字小文字だけが
違う名前は先に来たものが残る。二つの順の列は、大文字小文字を無視すれば同じ名前からなるが、並びと
残る書き方は違いうる（`preflight_allow_headers_follow_order`）。そのため、組み立てた server の応答は、
method の枠も method を問わない枠もない鍵への OPTIONS（preflight）の `access-control-allow-headers`
のほかは同じで、一つの鍵に登録する router の追加の header 名が同じ（か空）なら、すべて同じになる。

* 表：表は書き込みの列を行ったもの（`WrittenFrom`）で、並べ替えても処理は (鍵, 枠) に一つだけの
  書き込みのもの（`TableWrite.lastHandler?_perm`）、鍵と枠と method の並びは同じ要素を名前の順に
  並べたもの（`Table.paths_eq_of_mem_iff` など）。
* 文書：文書の枠の操作は、その経路と method に合わせた一つだけの説明（`Document.operation_mergeAll`）
  で、名前の順に並び空の組の無い文書は、枠の操作で決まる（`Document.ext_of_operation`）。
-/

namespace HttpRouting

open OpenApi

variable {T : Type}

/-! ## 並べ替え -/

section

variable {α : Type} {l l' : List α}

/-- 条件を満たす要素がどれも同じなら、並べ替えても条件で選んだ列は同じ。 -/
theorem filter_eq_of_perm (h : l.Perm l') {p : α → Bool}
    (hp : ∀ x ∈ l, ∀ y ∈ l, p x = true → p y = true → x = y) : l.filter p = l'.filter p := by
  have hsame : ∀ x ∈ l.filter p, ∀ y ∈ l.filter p, x = y := by
    intro x hx y hy
    rw [List.mem_filter] at hx hy
    exact hp x hx.1 y hy.1 hx.2 hy.2
  exact (h.filter p).eq_of_pairwise (fun a b ha hb _ _ => hsame a ha b ((h.filter p).mem_iff.mpr hb))
    (List.pairwise_of_forall fun _ _ => trivial) (List.pairwise_of_forall fun _ _ => trivial)

/-- 条件を満たす要素がどれも同じなら、並べ替えても後ろから探して見つかるものは同じ。 -/
theorem find?_reverse_eq_of_perm (h : l.Perm l') {p : α → Bool}
    (hp : ∀ x ∈ l, ∀ y ∈ l, p x = true → p y = true → x = y) : l.reverse.find? p = l'.reverse.find? p := by
  rw [← List.head?_filter, ← List.head?_filter, List.filter_reverse, List.filter_reverse,
    filter_eq_of_perm h hp]

/-- 空の列か `L` だけを並べてつないだものは、並べ替えても同じ。 -/
theorem flatten_eq_of_perm {L : List α} {ls ls' : List (List α)} (h : ls.Perm ls')
    (hL : ∀ x ∈ ls, x = [] ∨ x = L) : ls.flatten = ls'.flatten := by
  induction h with
  | nil => rfl
  | cons x _ ih =>
    rw [List.flatten_cons, List.flatten_cons, ih fun y hy => hL y (List.mem_cons_of_mem _ hy)]
  | swap x y rest =>
    -- 隣り合う二つはどちらも `[]` か `L` なので、入れ替えてつないでも同じ
    have hx := hL x (by simp)
    have hy := hL y (by simp)
    simp only [List.flatten_cons, ← List.append_assoc]
    rcases hx with rfl | rfl <;> rcases hy with rfl | rfl <;> simp
  | trans h₁ _ ih₁ ih₂ => exact (ih₁ hL).trans (ih₂ fun y hy => hL y (h₁.mem_iff.mpr hy))

end

/-! ## 表の並び -/

namespace Table

variable {t t' : Table}

/-- 鍵が名前の順に狭義に並ぶ二つの表は、鍵の集まりが同じなら鍵の並びも同じ。 -/
theorem paths_eq_of_mem_iff (ht : t.Valid) (ht' : t'.Valid) (h : ∀ q, q ∈ t.paths ↔ q ∈ t'.paths) :
    t.paths = t'.paths :=
  ((List.perm_ext_iff_of_nodup ht.sorted.nodup ht'.sorted.nodup).mpr h).eq_of_pairwise
    (fun _ _ _ _ hab hba => absurd hba (String.lt_asymm hab)) ht.sorted ht'.sorted

/-- 枠に処理があるかが同じ二つの表では、経路の枠の名前の並びは同じ。 -/
theorem slotNames_eq (ht : t.Valid) (ht' : t'.Valid) {q : String}
    (h : ∀ s, (t.handler? q s).isSome = (t'.handler? q s).isSome) :
    (t.slots q).map Slot.name = (t'.slots q).map Slot.name := by
  have hperm : (t.slots q).Perm (t'.slots q) :=
    (List.perm_ext_iff_of_nodup (ht.nodup_slots q) (ht'.nodup_slots q)).mpr fun s => by
      rw [mem_slots_iff, mem_slots_iff, h s]
  -- 名前の並びはどちらも名前の順で、同じ名前を並べ替えたもの
  exact (hperm.map Slot.name).eq_of_pairwise (fun _ _ _ _ hab hba => String.le_antisymm hab hba)
    (List.pairwise_map.mpr (pairwise_slots t q)) (List.pairwise_map.mpr (pairwise_slots t' q))

/-- 専用の枠に処理があるかが同じ二つの表では、経路の method の並びは同じ。 -/
theorem methods_eq (ht : t.Valid) (ht' : t'.Valid) {q : String}
    (h : ∀ m, (t.handler? q (.exact m)).isSome = (t'.handler? q (.exact m)).isSome) :
    t.methods q = t'.methods q := by
  have hnodup : ∀ {u : Table}, u.Valid → (u.methods q).Nodup := fun hu =>
    (hu.pairwise_methods q).imp fun hab => ne_of_apply_ne Method.name (String.ne_of_lt hab)
  have hperm : (t.methods q).Perm (t'.methods q) :=
    (List.perm_ext_iff_of_nodup (hnodup ht) (hnodup ht')).mpr fun m => by
      rw [mem_methods_iff, mem_methods_iff, h m]
  exact hperm.eq_of_pairwise (fun _ _ _ _ hab hba => absurd hba (String.lt_asymm hab))
    (ht.pairwise_methods q) (ht'.pairwise_methods q)

/-- 鍵の並びと、枠に処理があるかが同じ二つの表は、一覧が同じ。 -/
theorem listing_eq_of_views (ht : t.Valid) (ht' : t'.Valid) (hpaths : t.paths = t'.paths)
    (h : ∀ q s, (t.handler? q s).isSome = (t'.handler? q s).isSome) : t.listing = t'.listing := by
  rw [listing_eq ht.sorted.nodup, listing_eq ht'.sorted.nodup, hpaths]
  exact List.map_congr_left fun q _ => by rw [slotNames_eq ht ht' (h q)]

/-- 鍵の並びが同じ二つの表は、どの経路にも同じ鍵で答える。 -/
theorem resolve_congr (hpaths : t.paths = t'.paths) (path : String) : t.resolve path = t'.resolve path := by
  have he : (t.entry? path).isSome = (t'.entry? path).isSome := by
    rw [Bool.eq_iff_iff, ← mem_paths_iff, ← mem_paths_iff, hpaths]
  unfold resolve
  rw [he, hpaths]

/-- 答える鍵に処理があれば、その処理が答える。 -/
theorem dispatch_of_handler {req : Request} {k : String} {h : Handler} (hroute : t.resolve req.path = some k)
    (hx : ((t.handler? k (.exact req.method)).orElse fun _ => t.handler? k .any) = some h) :
    t.dispatch req = h req := by
  unfold dispatch
  rw [hroute]
  dsimp only
  rw [hx]

/-- 鍵の並び、処理、method の並びが同じ二つの表は、同じ要求に同じように答える。違いうるのは、
処理のない鍵への OPTIONS に答える preflight の、追加の header 名だけ。 -/
theorem dispatch_congr (hpaths : t.paths = t'.paths) (hh : ∀ q s, t.handler? q s = t'.handler? q s)
    (hm : ∀ q, t.methods q = t'.methods q) (req : Request) :
    t.dispatch req = t'.dispatch req ∨
      ∃ k, t.dispatch req = pure (preflight req (t.methods k) (t.allowedHeaders k)) ∧
        t'.dispatch req = pure (preflight req (t.methods k) (t'.allowedHeaders k)) := by
  have hr := resolve_congr hpaths req.path
  cases hk : t.resolve req.path with
  | none =>
    rw [hk] at hr
    exact .inl (by simp [dispatch, hk, ← hr])
  | some k =>
    rw [hk] at hr
    cases hx : (t.handler? k (.exact req.method)).orElse fun _ => t.handler? k .any with
    | some h =>
      have hx' : ((t'.handler? k (.exact req.method)).orElse fun _ => t'.handler? k .any) = some h := by
        rw [← hh, ← hh]
        exact hx
      exact .inl ((dispatch_of_handler hk hx).trans (dispatch_of_handler hr.symm hx').symm)
    | none =>
      -- 処理がなければ、OPTIONS なら preflight、ほかは 405
      have hexact : t.handler? k (.exact req.method) = none := by
        cases he : t.handler? k (.exact req.method) <;> simp_all
      have hany : t.handler? k .any = none := by simpa [hexact] using hx
      have hd := dispatch_of_no_handler hk hexact hany
      have hd' := dispatch_of_no_handler hr.symm (by rw [← hh]; exact hexact) (by rw [← hh]; exact hany)
      by_cases ho : req.method = Method.options
      · rw [if_pos ho] at hd hd'
        exact .inr ⟨k, hd, by rw [hd', ← hm]⟩
      · rw [if_neg ho] at hd hd'
        exact .inl (by rw [hd, hd', hm])

end Table

/-! ## 表の書き込みの並べ替え -/

namespace TableWrite

/-- 書き込みが足す追加の header 名。 -/
def headers : TableWrite → List String
  | .addHandler .. => []
  | .addEndpoint _ _ _ hs => hs

/-- 書き込みの (鍵, 枠)。 -/
def target (w : TableWrite) : String × Slot := (w.path, w.slot)

theorem allowedHeaders_apply (w : TableWrite) (t : Table) (q : String) :
    (w.apply t).allowedHeaders q =
      if q = w.path then addHeaderNames (t.allowedHeaders q) w.headers else t.allowedHeaders q := by
  cases w with
  | addHandler p s h =>
    rw [apply_handler, Table.allowedHeaders_addHandler]
    split <;> rfl
  | addEndpoint p s h hs => exact Table.allowedHeaders_addEndpoint t p q s h hs

/-- 書き込みの列の後の鍵 `q` の追加の header 名は、前の表の名前に、`q` への書き込みの名前を順に
足したもの。 -/
theorem allowedHeaders_run (ws : List TableWrite) (t : Table) (q : String) :
    (run ws t).allowedHeaders q =
      addHeaderNames (t.allowedHeaders q) ((ws.filter (·.path = q)).flatMap headers) := by
  induction ws generalizing t with
  | nil => rfl
  | cons w ws ih =>
    rw [run_cons, ih, allowedHeaders_apply, List.filter_cons]
    by_cases hq : q = w.path
    · rw [if_pos hq, if_pos (by simp [hq]), List.flatMap_cons, addHeaderNames_append]
    · rw [if_neg hq, if_neg (by simpa [eq_comm] using hq)]

variable {ws ws' : List TableWrite}

/-- (鍵, 枠) が重ならない書き込みの列は、並べ替えても、どの (鍵, 枠) の処理も同じ。 -/
theorem lastHandler?_perm (h : ws.Perm ws') (hnd : (ws.map target).Nodup) (p : String) (s : Slot) :
    lastHandler? ws p s = lastHandler? ws' p s := by
  unfold lastHandler?
  rw [find?_reverse_eq_of_perm h]
  -- 条件を満たす書き込みは (鍵, 枠) が同じなので、一つしかない
  intro x hx y hy hpx hpy
  refine List.inj_on_of_nodup_map hnd hx hy ?_
  simp only [Bool.and_eq_true, beq_iff_eq] at hpx hpy
  simp [target, hpx, hpy]

/-- 形の約束を満たす表に、(鍵, 枠) が重ならない書き込みの列を並べ替えて行っても、処理、鍵の並び、
method の並び、一覧は同じ。 -/
theorem run_perm_views (h : ws.Perm ws') (hnd : (ws.map target).Nodup) {t : Table} (ht : t.Valid) :
    (∀ q s, (run ws t).handler? q s = (run ws' t).handler? q s) ∧ (run ws t).paths = (run ws' t).paths ∧
      (∀ q, (run ws t).methods q = (run ws' t).methods q) ∧ (run ws t).listing = (run ws' t).listing := by
  have hh : ∀ q s, (run ws t).handler? q s = (run ws' t).handler? q s := fun q s => by
    rw [handler?_run, handler?_run, lastHandler?_perm h hnd]
  have hpaths : (run ws t).paths = (run ws' t).paths :=
    Table.paths_eq_of_mem_iff (ht.run ws) (ht.run ws') fun q => by
      rw [mem_paths_run, mem_paths_run]
      exact or_congr_left ⟨fun ⟨w, hw, hq⟩ => ⟨w, h.mem_iff.mp hw, hq⟩, fun ⟨w, hw, hq⟩ => ⟨w, h.mem_iff.mpr hw, hq⟩⟩
  refine ⟨hh, hpaths, fun q => Table.methods_eq (ht.run ws) (ht.run ws') fun m => by rw [hh],
    Table.listing_eq_of_views (ht.run ws) (ht.run ws') hpaths fun q s => by rw [hh]⟩

/-- 並べ替えても、鍵ごとの追加の header 名は、大文字小文字を無視すれば同じ名前からなる。 -/
theorem exists_same_allowedHeaders_run (h : ws.Perm ws') (t : Table) (q x : String) :
    (∃ y ∈ (run ws t).allowedHeaders q, sameIgnoringCase x y) ↔
      ∃ y ∈ (run ws' t).allowedHeaders q, sameIgnoringCase x y := by
  rw [allowedHeaders_run, allowedHeaders_run, exists_same_mem_addHeaderNames_iff,
    exists_same_mem_addHeaderNames_iff]
  have hp := ((h.filter fun w => decide (w.path = q)).flatMap_right headers).append_left (t.allowedHeaders q)
  exact exists_congr fun y => and_congr_left fun _ => hp.mem_iff

/-- 同じ鍵への書き込みの追加の header 名がどれも同じ（か空）なら、並べ替えても鍵ごとの追加の
header 名は同じ。 -/
theorem allowedHeaders_run_perm (h : ws.Perm ws')
    (hsame : ∀ w ∈ ws, ∀ w' ∈ ws, w.path = w'.path → w.headers = [] ∨ w'.headers = [] ∨ w.headers = w'.headers)
    (t : Table) (q : String) : (run ws t).allowedHeaders q = (run ws' t).allowedHeaders q := by
  rw [allowedHeaders_run, allowedHeaders_run, List.flatMap_def, List.flatMap_def]
  congr 1
  -- `q` への書き込みの名前は、どれも空か、空でない一つの並び `L`
  by_cases hne : ∃ w ∈ ws.filter (·.path = q), w.headers ≠ []
  · obtain ⟨w₀, hw₀, hne₀⟩ := hne
    refine flatten_eq_of_perm (L := w₀.headers) ((h.filter _).map headers) fun x hx => ?_
    obtain ⟨w, hw, rfl⟩ := List.mem_map.mp hx
    rw [List.mem_filter, decide_eq_true_eq] at hw hw₀
    rcases hsame w hw.1 w₀ hw₀.1 (hw.2.trans hw₀.2.symm) with h | h | h
    · exact .inl h
    · exact absurd h hne₀
    · exact .inr h
  · refine flatten_eq_of_perm (L := []) ((h.filter _).map headers) fun x hx => ?_
    obtain ⟨w, hw, rfl⟩ := List.mem_map.mp hx
    exact .inl (Classical.not_not.mp fun e => hne ⟨w, hw, e⟩)

end TableWrite

/-! ## 文書の書き込みの並べ替え -/

namespace OpenApi.PathItem

/-- 枠のある五つの method の操作が同じ組は、同じ組。 -/
theorem ext_operation {a b : PathItem}
    (h : ∀ m ∈ [Method.get, Method.post, Method.put, Method.patch, Method.delete], a.operation m = b.operation m) :
    a = b := by
  have hget : a.get = b.get := h Method.get (by simp)
  have hpost : a.post = b.post := h Method.post (by simp)
  have hput : a.put = b.put := h Method.put (by simp)
  have hpatch : a.patch = b.patch := h Method.patch (by simp)
  have hdelete : a.delete = b.delete := h Method.delete (by simp)
  cases a
  cases b
  simp_all

/-- 空でない組には、枠のある method のどれかに操作がある。 -/
theorem exists_operation_of_not_isEmpty {item : PathItem} (h : item.isEmpty = false) :
    ∃ m ∈ [Method.get, Method.post, Method.put, Method.patch, Method.delete], (item.operation m).isSome := by
  obtain ⟨g, po, pu, pa, de⟩ := item
  simp only [isEmpty, Bool.and_eq_false_iff, Option.isNone_eq_false_iff, or_assoc] at h
  rcases h with h | h | h | h | h
  · exact ⟨Method.get, by simp, h⟩
  · exact ⟨Method.post, by simp, h⟩
  · exact ⟨Method.put, by simp, h⟩
  · exact ⟨Method.patch, by simp, h⟩
  · exact ⟨Method.delete, by simp, h⟩

end OpenApi.PathItem

namespace OpenApi.Document

variable {d d' : Document}

/-- 空の組の無い文書で経路 `q` に組があれば、枠のある method のどれかに操作がある。 -/
theorem exists_operation_of_find? (hne : ∀ q item, (q, item) ∈ d.paths → item.isEmpty = false) {q : String}
    {item : PathItem} (hf : Keyed.find? q d.paths = some item) :
    ∃ m ∈ [Method.get, Method.post, Method.put, Method.patch, Method.delete],
      ((Keyed.find? q d.paths).bind (·.operation m)).isSome := by
  obtain ⟨m, hm, h⟩ := PathItem.exists_operation_of_not_isEmpty (hne q item (Keyed.mem_of_find? hf))
  exact ⟨m, hm, by rw [hf, Option.bind_some]; exact h⟩

/-- 名前の順に並び空の組の無い二つの文書は、経路の外が同じで、どの経路の枠のある method の操作も
同じなら、同じ文書。 -/
theorem ext_of_operation (hs : Keyed.Sorted d.paths) (hs' : Keyed.Sorted d'.paths)
    (hne : ∀ q item, (q, item) ∈ d.paths → item.isEmpty = false)
    (hne' : ∀ q item, (q, item) ∈ d'.paths → item.isEmpty = false) (hrest : d' = { d with paths := d'.paths })
    (h : ∀ q, ∀ m ∈ [Method.get, Method.post, Method.put, Method.patch, Method.delete],
      (Keyed.find? q d.paths).bind (·.operation m) = (Keyed.find? q d'.paths).bind (·.operation m)) :
    d = d' := by
  have hpaths : d.paths = d'.paths := by
    refine Keyed.Sorted.ext hs hs' fun q => ?_
    cases hf : Keyed.find? q d.paths with
    | none =>
      -- `d'` に組があれば、その組のどこかの枠の操作が `d` に無いことになる
      cases hf' : Keyed.find? q d'.paths with
      | none => rfl
      | some b =>
        obtain ⟨m, hm, hb⟩ := exists_operation_of_find? hne' hf'
        rw [← h q m hm, hf, Option.bind_none] at hb
        cases hb
    | some a =>
      cases hf' : Keyed.find? q d'.paths with
      | none =>
        obtain ⟨m, hm, ha⟩ := exists_operation_of_find? hne hf
        rw [h q m hm, hf', Option.bind_none] at ha
        cases ha
      | some b =>
        refine congrArg some (PathItem.ext_operation fun m hm => ?_)
        have := h q m hm
        rwa [hf, hf', Option.bind_some, Option.bind_some] at this
  rw [hrest, ← hpaths]

/-- 書き込みの列で、経路 `q` と method `m` に最後に合わせた説明。 -/
def lastWrite? (ds : List (String × Method × Operation)) (q : String) (m : Method) : Option Operation :=
  (ds.reverse.find? fun x => decide (x.1 = q ∧ x.2.1 = m)).map (·.2.2)

/-- 後から合わせたものが先に引かれる。 -/
theorem lastWrite?_cons (x : String × Method × Operation) (ds : List (String × Method × Operation))
    (q : String) (m : Method) :
    lastWrite? (x :: ds) q m = (lastWrite? ds q m).or (if q = x.1 ∧ m = x.2.1 then some x.2.2 else none) := by
  unfold lastWrite?
  rw [List.reverse_cons, List.find?_append]
  cases ds.reverse.find? (fun x => decide (x.1 = q ∧ x.2.1 = m)) with
  | some y => rfl
  | none =>
    by_cases hx : q = x.1 ∧ m = x.2.1
    · simp [hx]
    · have : ¬(x.1 = q ∧ x.2.1 = m) := fun e => hx ⟨e.1.symm, e.2.symm⟩
      simp [hx, this]

variable {ds ds' : List (String × Method × Operation)}

theorem sorted_mergeAll (hs : Keyed.Sorted d.paths) (ds : List (String × Method × Operation)) :
    Keyed.Sorted (d.mergeAll ds).paths := by
  induction ds generalizing d with
  | nil => exact hs
  | cons x ds ih => exact ih (sorted_merge hs)

/-- 説明を合わせても、空の組は生まれない。 -/
theorem nonempty_mergeAll (hne : ∀ q item, (q, item) ∈ d.paths → item.isEmpty = false)
    (ds : List (String × Method × Operation)) :
    ∀ q item, (q, item) ∈ (d.mergeAll ds).paths → item.isEmpty = false := by
  induction ds generalizing d with
  | nil => exact hne
  | cons x ds ih =>
    refine ih fun q item hq => ?_
    rcases mem_merge hq with hq | ⟨-, hset⟩
    · exact hne q item hq
    · exact PathItem.isEmpty_set hset

/-- 説明を合わせて変わるのは経路だけ。 -/
theorem mergeAll_eq_with_paths (ds : List (String × Method × Operation)) :
    d.mergeAll ds = { d with paths := (d.mergeAll ds).paths } := by
  induction ds generalizing d with
  | nil => rfl
  | cons x ds ih =>
    rw [mergeAll_cons, ih]
    rcases merge_cases d x.1 x.2.1 x.2.2 with ⟨_, -, hd'⟩ | ⟨-, -, hd'⟩ | ⟨-, hd'⟩ <;> rw [hd']

/-- 名前の順に並んだ文書に説明を合わせていった後の、枠のある method の操作は、その経路と method に
最後に合わせた説明、無ければ前の文書の操作。 -/
theorem operation_mergeAll (hs : Keyed.Sorted d.paths) (ds : List (String × Method × Operation)) (q : String)
    {m : Method} (hm : m ∈ [Method.get, Method.post, Method.put, Method.patch, Method.delete]) :
    (Keyed.find? q (d.mergeAll ds).paths).bind (·.operation m) =
      (lastWrite? ds q m).or ((Keyed.find? q d.paths).bind (·.operation m)) := by
  induction ds generalizing d with
  | nil => rfl
  | cons x ds ih =>
    rw [mergeAll_cons, ih (sorted_merge hs), operation_merge hs.nodup hm, lastWrite?_cons, Option.or_assoc]
    split <;> simp

/-- (経路, method) が重ならない説明の列は、並べ替えても、どの経路と method に最後に合わせた説明も
同じ。 -/
theorem lastWrite?_perm (h : ds.Perm ds') (hnd : (ds.map fun x => (x.1, x.2.1)).Nodup) (q : String)
    (m : Method) : lastWrite? ds q m = lastWrite? ds' q m := by
  unfold lastWrite?
  rw [find?_reverse_eq_of_perm h]
  intro x hx y hy hpx hpy
  refine List.inj_on_of_nodup_map hnd hx hy ?_
  simp only [decide_eq_true_eq] at hpx hpy
  rw [hpx.1, hpx.2, hpy.1, hpy.2]

/-- 名前の順に並び空の組の無い文書に、(経路, method) が重ならない説明の列を並べ替えて合わせても、
同じ文書になる。 -/
theorem mergeAll_perm (hs : Keyed.Sorted d.paths) (hne : ∀ q item, (q, item) ∈ d.paths → item.isEmpty = false)
    (h : ds.Perm ds') (hnd : (ds.map fun x => (x.1, x.2.1)).Nodup) : d.mergeAll ds = d.mergeAll ds' := by
  refine ext_of_operation (sorted_mergeAll hs ds) (sorted_mergeAll hs ds') (nonempty_mergeAll hne ds)
    (nonempty_mergeAll hne ds') ?_ fun q m hm => ?_
  · rw [mergeAll_eq_with_paths ds', mergeAll_eq_with_paths ds]
  · rw [operation_mergeAll hs ds q hm, operation_mergeAll hs ds' q hm, lastWrite?_perm h hnd]

end OpenApi.Document

/-! ## 書き込みの列から決まるもの -/

section

variable {α β : Type}

/-- `f` が値を返せば `g` も同じ値を返すなら、`f` で拾った列は `g` で拾った列の部分列。 -/
theorem filterMap_sublist_filterMap {f g : α → Option β} (hfg : ∀ a b, f a = some b → g a = some b)
    (l : List α) : (l.filterMap f).Sublist (l.filterMap g) := by
  induction l with
  | nil => exact List.Sublist.slnil
  | cons a l ih =>
    rw [List.filterMap_cons, List.filterMap_cons]
    cases hf : f a with
    | none =>
      cases g a with
      | none => exact ih
      | some c => exact ih.cons c
    | some b =>
      rw [hfg a b hf]
      exact ih.cons_cons b

end

namespace Call

/-- 文書に説明を合わせる登録は、その経路の method の専用の枠に書く。 -/
theorem target?_of_docWrite? {c : Call T} {x : String × Method × Operation} (h : c.docWrite? = some x) :
    c.target? = some (x.1, .exact x.2.1) := by
  cases c with
  | endpoint r sub m hd doc =>
    rcases doc with _ | (reason | op)
    · cases h
    · cases h
    · cases h
      rfl
  | handle r sub hd => cases h
  | build ifs address timeouts => cases h

/-- (鍵, 枠) が重ならない登録の列では、説明を合わせる (経路, method) も重ならない。 -/
theorem nodup_docWrite?_keys {calls : List (Call T)} (hdistinct : (calls.filterMap target?).Nodup) :
    ((calls.filterMap docWrite?).map fun x => (x.1, x.2.1)).Nodup := by
  refine List.Nodup.of_map (fun k : String × Method => (k.1, Slot.exact k.2)) ?_
  rw [List.map_map, List.map_filterMap]
  exact hdistinct.sublist (filterMap_sublist_filterMap (fun c k hk => by
    obtain ⟨x, hx, rfl⟩ := Option.map_eq_some_iff.mp hk
    exact target?_of_docWrite? hx) calls)

end Call

namespace WrittenFrom

variable {reg₀ reg reg' : Registry} {calls : List (Call T)}

/-- 形の約束を満たす表と、名前の順に並び空の組の無い文書の登録簿から、(鍵, 枠) が重ならない登録の
列の書き込みを何かの順に行った二つの登録簿は、処理、鍵の並び、method の並び、一覧、文書が同じで、
鍵ごとの追加の header 名は、大文字小文字を無視すれば同じ名前からなる。 -/
theorem same_views (h : WrittenFrom reg₀ calls reg) (h' : WrittenFrom reg₀ calls reg')
    (hdistinct : (calls.filterMap Call.target?).Nodup) (ht₀ : reg₀.table.Valid)
    (hs₀ : Keyed.Sorted reg₀.document.paths)
    (hne₀ : ∀ q item, (q, item) ∈ reg₀.document.paths → item.isEmpty = false) :
    (∀ q s, reg.table.handler? q s = reg'.table.handler? q s) ∧ reg.table.paths = reg'.table.paths ∧
      (∀ q, reg.table.methods q = reg'.table.methods q) ∧ reg.table.listing = reg'.table.listing ∧
      reg.document = reg'.document ∧
      ∀ q x, (∃ y ∈ reg.table.allowedHeaders q, sameIgnoringCase x y) ↔
        ∃ y ∈ reg'.table.allowedHeaders q, sameIgnoringCase x y := by
  obtain ⟨ws, hws, ht⟩ := h.table
  obtain ⟨ws', hws', ht'⟩ := h'.table
  obtain ⟨ds, hds, hd⟩ := h.document
  obtain ⟨ds', hds', hd'⟩ := h'.document
  -- 表の書き込みの (鍵, 枠) は、登録の (鍵, 枠) を並べ替えたもの
  have hnd : (ws.map TableWrite.target).Nodup := by
    refine (hws.map _).nodup_iff.mpr ?_
    rw [List.map_filterMap]
    exact hdistinct
  have hdnd : (ds.map fun x => (x.1, x.2.1)).Nodup :=
    (hds.map _).nodup_iff.mpr (Call.nodup_docWrite?_keys hdistinct)
  obtain ⟨hh, hpaths, hm, hlist⟩ := TableWrite.run_perm_views (hws.trans hws'.symm) hnd ht₀
  refine ⟨by rw [ht, ht']; exact hh, by rw [ht, ht']; exact hpaths, by rw [ht, ht']; exact hm,
    by rw [ht, ht']; exact hlist, ?_, fun q x => ?_⟩
  · rw [hd, hd']
    exact Document.mergeAll_perm hs₀ hne₀ (hds.trans hds'.symm) hdnd
  · rw [ht, ht']
    exact TableWrite.exists_same_allowedHeaders_run (hws.trans hws'.symm) _ q x

/-- 同じ鍵への登録の追加の header 名がどれも同じ（か空）なら、二つの登録簿の鍵ごとの追加の header
名は同じ。 -/
theorem allowedHeaders_eq (h : WrittenFrom reg₀ calls reg) (h' : WrittenFrom reg₀ calls reg')
    (hsame : ∀ w ∈ calls.filterMap Call.tableWrite?, ∀ w' ∈ calls.filterMap Call.tableWrite?,
      w.path = w'.path → w.headers = [] ∨ w'.headers = [] ∨ w.headers = w'.headers) (q : String) :
    reg.table.allowedHeaders q = reg'.table.allowedHeaders q := by
  obtain ⟨ws, hws, ht⟩ := h.table
  obtain ⟨ws', hws', ht'⟩ := h'.table
  rw [ht, ht']
  exact TableWrite.allowedHeaders_run_perm (hws.trans hws'.symm)
    (fun w hw w' hw' => hsame w (hws.mem_iff.mp hw) w' (hws.mem_iff.mp hw')) _ q

end WrittenFrom

/-- 鍵の並び、処理、method の並び、目録、期限が同じ二つの server は、同じ要求に同じように答える。
違いうるのは、処理のない鍵への OPTIONS に答える preflight の、追加の header 名だけ。 -/
theorem Server.handle_congr {s s' : Server} (hpaths : s.table.paths = s'.table.paths)
    (hh : ∀ q sl, s.table.handler? q sl = s'.table.handler? q sl) (hm : ∀ q, s.table.methods q = s'.table.methods q)
    (hcat : s.catalog = s'.catalog) (htime : s.timeouts = s'.timeouts) (req : Request) :
    s'.handle req = s.handle req ∨
      ∃ k, s.handle req = preflight req (s.table.methods k) (s.table.allowedHeaders k) ∧
        s'.handle req = preflight req (s.table.methods k) (s'.table.allowedHeaders k) := by
  rcases Table.dispatch_congr hpaths hh hm req with hd | ⟨k, hd, hd'⟩
  · left
    unfold Server.handle
    rw [hd, hcat, htime]
  · right
    refine ⟨k, ?_, ?_⟩ <;> unfold Server.handle
    · rw [hd]
      simp [ReaderT.run, pure, ReaderT.pure, Timed.pure]
    · rw [hd']
      simp [ReaderT.run, pure, ReaderT.pure, Timed.pure]

namespace Registry

variable {reg reg' : Registry} {ifs : List (String × Nat)} {address : String} {timeouts : Option Timeouts}
  {s s' : Server} {regb regb' : Registry}

/-- 処理、鍵の並び、method の並び、一覧、文書が同じ二つの登録簿から組み立てた server は、同じ要求に
同じように答える。違いうるのは、処理のない鍵への OPTIONS に答える preflight の、追加の header 名だけ。 -/
theorem handle_congr_of_build (hh : ∀ q sl, reg.table.handler? q sl = reg'.table.handler? q sl)
    (hpaths : reg.table.paths = reg'.table.paths) (hm : ∀ q, reg.table.methods q = reg'.table.methods q)
    (hlist : reg.table.listing = reg'.table.listing) (hdoc : reg.document = reg'.document)
    (hb : reg.build ifs address timeouts = .ok (s, regb)) (hb' : reg'.build ifs address timeouts = .ok (s', regb'))
    (req : Request) :
    s'.handle req = s.handle req ∨
      ∃ k, s.handle req = preflight req (s.table.methods k) (s.table.allowedHeaders k) ∧
        s'.handle req = preflight req (s.table.methods k) (s'.table.allowedHeaders k) := by
  -- 組み立てた server は登録簿の表と目録を持つ
  obtain ⟨-, -, hst, hsc, hsto⟩ := build_eq_ok hb
  obtain ⟨-, -, hst', hsc', hsto'⟩ := build_eq_ok hb'
  refine Server.handle_congr (by rw [hst, hst', hpaths]) (fun q sl => by rw [hst, hst', hh])
    (fun q => by rw [hst, hst', hm]) ?_ (by rw [hsto, hsto']) req
  rw [hsc, hsc', catalog, catalog, hlist, hdoc]

/-- 追加の header 名も同じなら、組み立てた二つの server はどの要求にも同じ応答を返す。 -/
theorem handle_eq_of_build (hh : ∀ q sl, reg.table.handler? q sl = reg'.table.handler? q sl)
    (hpaths : reg.table.paths = reg'.table.paths) (hm : ∀ q, reg.table.methods q = reg'.table.methods q)
    (hlist : reg.table.listing = reg'.table.listing) (hdoc : reg.document = reg'.document)
    (hheaders : ∀ q, reg.table.allowedHeaders q = reg'.table.allowedHeaders q)
    (hb : reg.build ifs address timeouts = .ok (s, regb)) (hb' : reg'.build ifs address timeouts = .ok (s', regb'))
    (req : Request) : s'.handle req = s.handle req := by
  rcases handle_congr_of_build hh hpaths hm hlist hdoc hb hb' req with he | ⟨k, hs, hs'⟩
  · exact he
  · obtain ⟨-, -, hst, -, -⟩ := build_eq_ok hb
    obtain ⟨-, -, hst', -, -⟩ := build_eq_ok hb'
    rw [hs, hs', hst, hst', hheaders]

end Registry

/-! ## 登録の順 -/

/-- 根 `c₀` の木に、(鍵, 枠) が重ならない経路の登録（説明が無いか作れた `endpoint` と、`handle`）の
列 `calls` と、その並べ替え `calls'` を、それぞれ行い終えた登録簿 `reg` と `reg'` を考える（順に
行っても、thread ごとに始めてどう組み合わせてもよい）。

* 二つの登録簿は、表の処理、鍵の並び、method の並び、一覧、文書が同じ。
* 鍵ごとの追加の header 名は、どちらも大文字小文字を無視して重ならず、大文字小文字を無視すれば同じ
  名前からなる。
* 組み立てた二つの server は、処理のない鍵への OPTIONS に preflight で答えるときのほかは、どの要求
  にも同じ応答を返す。preflight でも、違いうるのは追加の header 名の列だけ。
* 同じ鍵への登録の追加の header 名がどれも同じ（か空）なら、追加の header 名も同じで、どの要求にも
  同じ応答を返す。 -/
theorem registration_order_independent {c₀ : RouterConfig T} {doc : OpenApi.Config} {r₀ : Router T}
    {reg₀ : Registry} (hroot : Router.root c₀ doc = .ok (r₀, reg₀)) {calls calls' : List (Call T)}
    (hperm : calls.Perm calls') (hreg : ∀ c ∈ calls, c.registers = true)
    (hdistinct : (calls.filterMap Call.target?).Nodup) {reg reg' : Registry}
    (h : Performed reg₀ calls reg) (h' : Performed reg₀ calls' reg') :
    (∀ q s, reg.table.handler? q s = reg'.table.handler? q s) ∧ reg.table.paths = reg'.table.paths ∧
    (∀ q, reg.table.methods q = reg'.table.methods q) ∧ reg.table.listing = reg'.table.listing ∧
    reg.document = reg'.document ∧
    (∀ q, (reg.table.allowedHeaders q).Pairwise CaseDistinct ∧
      ∀ x, (∃ y ∈ reg.table.allowedHeaders q, sameIgnoringCase x y) ↔
        ∃ y ∈ reg'.table.allowedHeaders q, sameIgnoringCase x y) ∧
    (∀ ifs address timeouts s s' regb regb', reg.build ifs address timeouts = .ok (s, regb) →
      reg'.build ifs address timeouts = .ok (s', regb') → ∀ req,
        s'.handle req = s.handle req ∨
          ∃ k, s.handle req = preflight req (s.table.methods k) (s.table.allowedHeaders k) ∧
            s'.handle req = preflight req (s.table.methods k) (s'.table.allowedHeaders k)) ∧
    ((∀ w ∈ calls.filterMap Call.tableWrite?, ∀ w' ∈ calls.filterMap Call.tableWrite?,
        w.path = w'.path → w.headers = [] ∨ w'.headers = [] ∨ w.headers = w'.headers) →
      (∀ q, reg.table.allowedHeaders q = reg'.table.allowedHeaders q) ∧
      ∀ ifs address timeouts s s' regb regb', reg.build ifs address timeouts = .ok (s, regb) →
        reg'.build ifs address timeouts = .ok (s', regb') → ∀ req, s'.handle req = s.handle req) := by
  have hreg₀ := Router.root_registry hroot
  have hf₀ : reg₀.frozen = false := by rw [hreg₀]
  have hw := h.writtenFrom hreg hf₀
  have hw' := (h'.writtenFrom (fun c hc => hreg c (hperm.mem_iff.mpr hc)) hf₀).perm hperm.symm
  -- 根の登録簿は、表も文書の経路も空
  obtain ⟨hh, hpaths, hm, hlist, hdoc, hnames⟩ := hw.same_views hw' hdistinct
    (by rw [hreg₀]; exact Table.valid_nil) (by rw [hreg₀]; exact List.Pairwise.nil)
    (by rw [hreg₀]; intro q item hq; cases hq)
  have hpairwise : ∀ q, (reg.table.allowedHeaders q).Pairwise CaseDistinct := by
    intro q
    obtain ⟨ws, -, ht⟩ := hw.table
    rw [ht, TableWrite.allowedHeaders_run, hreg₀]
    exact pairwise_addHeaderNames List.Pairwise.nil _
  refine ⟨hh, hpaths, hm, hlist, hdoc, fun q => ⟨hpairwise q, hnames q⟩,
    fun _ _ _ _ _ _ _ hb hb' => Registry.handle_congr_of_build hh hpaths hm hlist hdoc hb hb', fun hsame => ?_⟩
  have hheaders := hw.allowedHeaders_eq hw' hsame
  exact ⟨hheaders, fun _ _ _ _ _ _ _ hb hb' => Registry.handle_eq_of_build hh hpaths hm hlist hdoc hheaders hb hb'⟩

/-! ## 例 -/

/-- preflight が許す header 名を、文字の列のまま小文字にして比べる形に書いたもの。具体的な名前の
列は、こちらの形で速く計算できる。 -/
theorem allowedHeaders_eq_eraseDupsBy_toList (extra : List String) :
    allowedHeaders extra = ",".intercalate ((defaultAllowedHeaders ++ extra).eraseDupsBy
      fun a b => a.toList.map Char.toLower == b.toList.map Char.toLower) := by
  rw [allowedHeaders, addHeaderNames_eq_eraseDupsBy pairwise_defaultAllowedHeaders, sameIgnoringCase_eq_toList]

/-- 接頭辞を足さず、追加の header 名 `names` を許す、根の下位の router。 -/
def allowingRouter (names : List String) : Router Handler := slashRouter.subrouter { allowedHeaders := names }

/-- `/x` に、`X-Two` を許す router から POST を、`X-One` を許す router から GET を登録する。 -/
def xCalls : List (Call Handler) :=
  [.endpoint (allowingRouter ["X-Two"]) "/x" Method.post okHandler none,
    .endpoint (allowingRouter ["X-One"]) "/x" Method.get okHandler none]

/-- `/x` への OPTIONS の要求。 -/
def xPreflight : Request := { method := Method.options, uri := .origin { path := "/x" } }

/-- 二つの登録を逆の順に行うと、`/x` への preflight の `access-control-allow-headers` で `X-One` と
`X-Two` の並びが入れ替わる。 -/
theorem preflight_allow_headers_follow_order :
    xCalls.Perm xCalls.reverse ∧ (∀ c ∈ xCalls, c.registers = true) ∧ (xCalls.filterMap Call.target?).Nodup ∧
      ∃ s s' reg reg', (Call.run xCalls slashRegistry).build [] ":0" none = .ok (s, reg) ∧
        (Call.run xCalls.reverse slashRegistry).build [] ":0" none = .ok (s', reg') ∧
        (s.handle xPreflight).headers.getAll ⟨"access-control-allow-headers"⟩ =
          [⟨Utf8.encode ("Content-Type,Cache-Control,Authorization,X-Amz-Date,X-Api-Key," ++
            "X-Amz-Security-Token,X-Requested-With,X-Two,X-One")⟩] ∧
        (s'.handle xPreflight).headers.getAll ⟨"access-control-allow-headers"⟩ =
          [⟨Utf8.encode ("Content-Type,Cache-Control,Authorization,X-Amz-Date,X-Api-Key," ++
            "X-Amz-Security-Token,X-Requested-With,X-One,X-Two")⟩] := by
  have hb := Registry.build_of_open (Call.run xCalls slashRegistry) [] ":0" none listen_any (by decide)
  have hb' := Registry.build_of_open (Call.run xCalls.reverse slashRegistry) [] ":0" none listen_any (by decide)
  -- 表の `/x` の追加の header 名は、登録の順
  have hA : (Call.run xCalls slashRegistry).table.allowedHeaders "/x" = ["X-Two", "X-One"] := by
    decide +kernel
  have hA' : (Call.run xCalls.reverse slashRegistry).table.allowedHeaders "/x" = ["X-One", "X-Two"] := by
    decide +kernel
  have hopt : xPreflight.method = Method.options := rfl
  have hroute : (Call.run xCalls slashRegistry).table.resolve xPreflight.path = some "/x" := by decide +kernel
  have hroute' : (Call.run xCalls.reverse slashRegistry).table.resolve xPreflight.path = some "/x" := by
    decide +kernel
  refine ⟨List.reverse_perm _ |>.symm, by decide, by decide +kernel, _, _, _, _, hb, hb', ?_, ?_⟩
  · rw [Server.getAll_allowHeaders_of_no_handler hopt hroute rfl rfl]
    show (HeaderValue.parse? (allowedHeaders ((Call.run xCalls slashRegistry).table.allowedHeaders "/x"))).toList = _
    rw [hA, allowedHeaders_eq_eraseDupsBy_toList]
    decide +kernel
  · rw [Server.getAll_allowHeaders_of_no_handler hopt hroute' rfl rfl]
    show (HeaderValue.parse? (allowedHeaders
      ((Call.run xCalls.reverse slashRegistry).table.allowedHeaders "/x"))).toList = _
    rw [hA', allowedHeaders_eq_eraseDupsBy_toList]
    decide +kernel

/-- 二つの登録をどちらの順に行っても、一覧と文書は同じで、鍵は `/x` だけ、その GET と POST には
処理がある。 -/
theorem reversed_x_calls_list_same_routes :
    Router.root { pathPrefix := "/", conversion := some id } (OpenApi.Config.new "svc" "test service" "0.0.1") =
        .ok (slashRouter, slashRegistry) ∧
      xCalls.Perm xCalls.reverse ∧ (∀ c ∈ xCalls, c.registers = true) ∧ (xCalls.filterMap Call.target?).Nodup ∧
      (Call.run xCalls slashRegistry).table.listing = (Call.run xCalls.reverse slashRegistry).table.listing ∧
      (Call.run xCalls slashRegistry).document = (Call.run xCalls.reverse slashRegistry).document ∧
      (Call.run xCalls.reverse slashRegistry).table.paths = ["/x"] ∧
      ((Call.run xCalls.reverse slashRegistry).table.handler? "/x" (.exact Method.get)).isSome ∧
      ((Call.run xCalls.reverse slashRegistry).table.handler? "/x" (.exact Method.post)).isSome := by
  have hperm : xCalls.Perm xCalls.reverse := (List.reverse_perm _).symm
  have hreg : ∀ c ∈ xCalls, c.registers = true := by decide
  have hdistinct : (xCalls.filterMap Call.target?).Nodup := by decide +kernel
  obtain ⟨-, -, -, hlist, hdoc, -⟩ :=
    registration_order_independent root_slash hperm hreg hdistinct .sequential .sequential
  exact ⟨root_slash, hperm, hreg, hdistinct, hlist, hdoc, by decide +kernel, by decide +kernel, by decide +kernel⟩

end HttpRouting
