import HttpRouting.Proofs.Documentation
import HttpRouting.Proofs.HeaderNames

/-!
# 経路の登録の三つの出口

`Router.endpoint` は次の三つのどれかで返る（`endpoint_three_exits`）。

* 登録簿が凍結していれば、説明が何であっても `frozen` の誤りで返る。
* 説明を作れなければ、`documentation` の誤りで返る。
* ほかは成功し、変わるのは三つだけ（`Registry.EndpointWrites`）：鍵 `p` の method `m` の枠の処理、
  `p` の追加の header 名（大文字小文字を無視してまだ無い名前を足す）、説明があって method に文書の
  枠があるときの、文書の `p` の組の `m` の枠。

誤りで返った呼び出しは登録簿を変えない（`Call.apply`）。文書の枠のない method に説明を付けると、
`Document.merge` は `p` の組を空の組から作りかけて、置けないので取り除く。木の文書には空の組が
無い（`DocumentInv.nonempty`）ので、文書はそのまま残る（`Document.merge_of_no_slot`）。
-/

namespace HttpRouting

open OpenApi

variable {T : Type}

namespace Keyed

variable {α : Type}

/-- 無い名前を取り除いても変わらない。 -/
theorem erase_of_find?_eq_none {k : String} {m : List (String × α)} (h : find? k m = none) :
    erase k m = m := by
  induction m with
  | nil => rfl
  | cons p rest ih =>
    obtain ⟨j, v⟩ := p
    simp only [find?] at h
    split at h
    · cases h
    · rename_i hj
      simp only [erase, hj, if_false, ih h]

end Keyed

namespace OpenApi.PathItem

variable {m : Method}

/-- 文書に枠のない method は、どの組にも置けない。 -/
theorem set_eq_none (item : PathItem) (op : Operation)
    (hm : m ∉ [Method.get, Method.post, Method.put, Method.patch, Method.delete]) : item.set m op = none := by
  have hget : m.name ≠ "GET" := fun e => hm (by rw [(Method.ext_name e : m = Method.get)]; simp)
  have hpost : m.name ≠ "POST" := fun e => hm (by rw [(Method.ext_name e : m = Method.post)]; simp)
  have hput : m.name ≠ "PUT" := fun e => hm (by rw [(Method.ext_name e : m = Method.put)]; simp)
  have hpatch : m.name ≠ "PATCH" := fun e => hm (by rw [(Method.ext_name e : m = Method.patch)]; simp)
  have hdelete : m.name ≠ "DELETE" := fun e => hm (by rw [(Method.ext_name e : m = Method.delete)]; simp)
  unfold set
  split <;> simp_all

end OpenApi.PathItem

namespace OpenApi.Document

variable {d : Document} {p : String} {m : Method} {op : Operation}

/-- 枠のない method の説明を合わせても、空の組の無い文書は変わらない。 -/
theorem merge_of_no_slot (hne : ∀ q item, (q, item) ∈ d.paths → item.isEmpty = false)
    (hm : m ∉ [Method.get, Method.post, Method.put, Method.patch, Method.delete]) : (d.merge p m op).1 = d := by
  rcases merge_cases d p m op with ⟨item', hset, -⟩ | ⟨-, hempty, hd'⟩ | ⟨-, hd'⟩
  · rw [PathItem.set_eq_none _ _ hm] at hset
    cases hset
  · -- 取り除くのは引いた組が空のときで、空の組は文書に無いので、`p` は文書に無かった
    have hnone : Keyed.find? p d.paths = none := by
      cases hf : Keyed.find? p d.paths with
      | none => rfl
      | some item =>
        rw [hf, Option.getD_some] at hempty
        rw [hne p item (Keyed.mem_of_find? hf)] at hempty
        cases hempty
    rw [hd', Keyed.erase_of_find?_eq_none hnone]
  · exact hd'

/-- 枠のある method の説明を合わせると、`p` の組は、前の組（無ければ空の組）の `m` の枠だけを
置き換えた組になる。 -/
theorem merge_of_slot (hm : m ∈ [Method.get, Method.post, Method.put, Method.patch, Method.delete]) :
    ∃ item, (d.merge p m op).1 = { d with paths := Keyed.insert p item d.paths } ∧
      ∀ m', item.operation m' = if m' = m then some op else ((Keyed.find? p d.paths).getD {}).operation m' := by
  obtain ⟨item, hset⟩ :=
    Option.isSome_iff_exists.mp (PathItem.set_isSome ((Keyed.find? p d.paths).getD {}) op hm)
  exact ⟨item, by simp [merge, hset], PathItem.operation_set hset⟩

end OpenApi.Document

/-! ## 成功した登録が変えるもの -/

/-- 登録簿 `reg` から `reg'` への、鍵 `p` の method `m` の枠への登録の書き込み。処理 `h` を置き、
追加の header 名 `headers` を足し、説明 `op?` があれば文書に合わせる。ほかは何も変えない。 -/
structure Registry.EndpointWrites (reg reg' : Registry) (p : String) (m : Method) (h : Handler)
    (headers : List String) (op? : Option Operation) : Prop where
  frozen : reg'.frozen = reg.frozen
  /-- 処理が変わるのは `p` の `m` の枠だけで、そこには `h` が入る。 -/
  handler : ∀ q s, reg'.table.handler? q s = if q = p ∧ s = .exact m then some h else reg.table.handler? q s
  /-- 鍵は `p` が加わるだけ。 -/
  paths : ∀ q, q ∈ reg'.table.paths ↔ q = p ∨ q ∈ reg.table.paths
  /-- 追加の header 名は `p` のものだけが変わり、大文字小文字を無視してまだ無い名前が足される。 -/
  allowedHeaders : ∀ q, reg'.table.allowedHeaders q =
    if q = p then addHeaderNames (reg.table.allowedHeaders q) headers else reg.table.allowedHeaders q
  /-- 説明が無いか、method に文書の枠が無ければ、文書は変わらない。 -/
  document_same : (op? = none ∨ m ∉ [Method.get, Method.post, Method.put, Method.patch, Method.delete]) →
    reg'.document = reg.document
  /-- 説明があって method に枠があれば、文書の `p` の組の `m` の枠がその説明になり、ほかは前のまま。 -/
  document_set : ∀ op, op? = some op → m ∈ [Method.get, Method.post, Method.put, Method.patch, Method.delete] →
    ∃ item, reg'.document = { reg.document with paths := Keyed.insert p item reg.document.paths } ∧
      ∀ m', item.operation m' =
        if m' = m then some op else ((Keyed.find? p reg.document.paths).getD {}).operation m'

namespace Registry

variable {reg : Registry} {p : String} {m : Method} {h : Handler} {headers : List String}
  {op? : Option Operation}

/-- 表に登録を足し、文書を条件どおりに変えた登録簿は、登録の書き込みになっている。 -/
theorem endpointWrites_addEndpoint {D : Document}
    (hsame : (op? = none ∨ m ∉ [Method.get, Method.post, Method.put, Method.patch, Method.delete]) →
      D = reg.document)
    (hset : ∀ op, op? = some op → m ∈ [Method.get, Method.post, Method.put, Method.patch, Method.delete] →
      ∃ item, D = { reg.document with paths := Keyed.insert p item reg.document.paths } ∧
        ∀ m', item.operation m' =
          if m' = m then some op else ((Keyed.find? p reg.document.paths).getD {}).operation m') :
    reg.EndpointWrites { reg with table := reg.table.addEndpoint p (.exact m) h headers, document := D }
      p m h headers op? where
  frozen := rfl
  handler _ _ := Table.handler?_addEndpoint _ _ _ _ _ _ _
  paths _ := Table.mem_paths_addEndpoint
  allowedHeaders _ := Table.allowedHeaders_addEndpoint _ _ _ _ _ _
  document_same := hsame
  document_set := hset

end Registry

/-! ## 三つの出口 -/

namespace Router

variable (r : Router T) (reg : Registry) (sub : String) (m : Method) (h : T)

/-- 説明の無い登録は、文書を変えない書き込みで成功する。 -/
theorem endpoint_writes_of_none (hf : reg.frozen = false) :
    ∃ reg', r.endpoint reg sub m h none = .ok reg' ∧
      reg.EndpointWrites reg' (Path.join r.pathPrefix sub) m (r.wrap m (Path.join r.pathPrefix sub) h)
        r.allowedHeaders none :=
  ⟨_, endpoint_of_open r reg sub m h hf,
    Registry.endpointWrites_addEndpoint (fun _ => rfl) fun _ hop => by cases hop⟩

/-- 説明のある登録は、文書に空の組が無ければ、既定の引数を後ろに足した説明を文書に合わせる書き込みで
成功する。 -/
theorem endpoint_writes_of_documented (op : Operation) (hf : reg.frozen = false)
    (hne : ∀ q item, (q, item) ∈ reg.document.paths → item.isEmpty = false) :
    ∃ reg', r.endpoint reg sub m h (some (.ok op)) = .ok reg' ∧
      reg.EndpointWrites reg' (Path.join r.pathPrefix sub) m (r.wrap m (Path.join r.pathPrefix sub) h)
        r.allowedHeaders (some { op with parameters := op.parameters ++ r.defaultParameters }) := by
  refine ⟨_, endpoint_documented r reg sub m h op hf, Registry.endpointWrites_addEndpoint ?_ ?_⟩
  · -- 説明はあるので、method に枠が無い場合だけが残る
    rintro (hop | hm)
    · cases hop
    · exact Document.merge_of_no_slot hne hm
  · rintro op' hop hm
    cases hop
    exact Document.merge_of_slot hm

end Router

/-- 経路の登録は三つの出口のどれかで返る。木のどの状態（どの thread の組み合わせからでも）でも、
router `r` に下位の経路 `sub` で method `m` の処理 `h` を登録すると、鍵 `p` を `r` の接頭辞に `sub` を
つないだものとして、

* 凍結していれば、説明が何であっても `frozen m p` の誤りで返り、登録簿は変わらない。
* 凍結しておらず説明を作れなければ、`documentation m p e` の誤りで返り、登録簿は変わらない。
* 凍結しておらず説明が無いか作れれば成功し、`p` の `m` の枠に包んだ処理を置き、`p` の追加の
  header 名に `r` の名前のうちまだ無いものを足し、説明があって method に文書の枠があるときだけ、
  文書の `p` の `m` の枠を、説明の引数の後ろに `r` の既定の引数を足したものにする。ほかは何も
  変わらない。 -/
theorem endpoint_three_exits {w : World T} (hw : Reachable w) (r : Router T) (sub : String) (m : Method)
    (h : T) :
    (w.registry.frozen = true → ∀ doc,
      r.endpoint w.registry sub m h doc = .error (.frozen m.name (Path.join r.pathPrefix sub)) ∧
        (Call.endpoint r sub m h doc).apply w.registry = w.registry) ∧
    (w.registry.frozen = false → ∀ e,
      r.endpoint w.registry sub m h (some (.error e)) =
          .error (.documentation m.name (Path.join r.pathPrefix sub) e) ∧
        (Call.endpoint r sub m h (some (.error e))).apply w.registry = w.registry) ∧
    (w.registry.frozen = false →
      ∃ reg', r.endpoint w.registry sub m h none = .ok reg' ∧
        w.registry.EndpointWrites reg' (Path.join r.pathPrefix sub) m (r.wrap m (Path.join r.pathPrefix sub) h)
          r.allowedHeaders none) ∧
    (w.registry.frozen = false → ∀ op,
      ∃ reg', r.endpoint w.registry sub m h (some (.ok op)) = .ok reg' ∧
        w.registry.EndpointWrites reg' (Path.join r.pathPrefix sub) m (r.wrap m (Path.join r.pathPrefix sub) h)
          r.allowedHeaders (some { op with parameters := op.parameters ++ r.defaultParameters })) := by
  refine ⟨fun hf doc => ?_, fun hf e => ?_, r.endpoint_writes_of_none w.registry sub m h,
    fun hf op => r.endpoint_writes_of_documented w.registry sub m h op hf (DocumentInv.reachable hw).nonempty⟩
  · have herr := Router.endpoint_of_frozen r w.registry sub m h doc hf
    exact ⟨herr, by simp [Call.apply, Call.perform, herr, Except.map]⟩
  · have herr := Router.endpoint_undocumentable r w.registry sub m h e hf
    exact ⟨herr, by simp [Call.apply, Call.perform, herr, Except.map]⟩

/-- 根の木で、HEAD（文書に枠が無い）を説明付きで `/users` に登録すると、処理は置かれ、文書は
変わらない。 -/
theorem head_endpoint_keeps_document :
    Reachable (World.init slashRegistry ([] : List (Call Handler))) ∧
      ∃ reg', slashRouter.endpoint slashRegistry "users" Method.head okHandler (some (.ok {})) = .ok reg' ∧
        reg'.document = slashRegistry.document ∧
        (reg'.table.handler? "/users" (.exact Method.head)).isSome := by
  have hw : Reachable (World.init slashRegistry ([] : List (Call Handler))) := .init root_slash []
  obtain ⟨-, -, -, hok⟩ := endpoint_three_exits hw slashRouter "users" Method.head okHandler
  obtain ⟨reg', hreg', hwrites⟩ := hok rfl {}
  refine ⟨hw, reg', hreg', hwrites.document_same (.inr (by decide)), ?_⟩
  rw [hwrites.handler]
  decide

end HttpRouting
