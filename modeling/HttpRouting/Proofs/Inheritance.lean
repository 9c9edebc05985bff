import HttpRouting.Proofs.Mounts

/-!
# 子の router が受け継ぐもの

子の router は親の設定を写し、自分の設定を後ろに足す（`Router.subrouter`）。根から
`subrouter` を繰り返してできる鎖 N₀ → N₁ → … → Nₖ の上で、Nₖ が持つものは鎖の設定だけで
決まる（`Router.Inherits`）。

* middleware は、空白を削るもの、要求の項目を記録するもの、その後に鎖の設定の middleware を
  根から順につないだもの。業務の middleware も鎖の設定を根から順につないだもの。
* 変換と統計の hook は、鎖の中でそれを設定した最も近い（最も後ろの）router のもの
  （`nearest`）。根は変換を必ず持つので、変換はいつも決まる。

処理の包み方（`Router.wrap`）は、並びの最初のものが一番外側になる合成（`composeAll`）で書ける。
したがって Nₖ に登録した経路の処理は `S (H₁ (… Hₙ (C (G₁ (… Gⱼ h)))))` である
（`endpoint_handler_along_chain`）。鎖の外の router（兄弟やその子、後から作った子）は値として
別物なので、Nₖ の包み方に何も足さない。

## 証明の形

`Router.Inherits.subrouter` が一歩（子を一つ作る）で不変条件が保たれることを言い、
`Router.Inherits.foldl_subrouter` が残りの鎖についての帰納法でそれを鎖全体に広げる。
-/

namespace HttpRouting

variable {T : Type}

/-! ## 合成と最も近い設定 -/

/-- 関数の並びを、最初のものが一番外側になるように合成する。 -/
def composeAll {α : Type} (fs : List (α → α)) : α → α := fs.foldr (· ∘ ·) id

@[simp] theorem composeAll_nil {α : Type} (x : α) : composeAll [] x = x := rfl

@[simp] theorem composeAll_cons {α : Type} (f : α → α) (fs : List (α → α)) (x : α) :
    composeAll (f :: fs) x = f (composeAll fs x) := rfl

/-- 関数を右から順に当てる畳み込みは、並びの合成である。 -/
theorem foldr_apply_eq_composeAll {α : Type} (fs : List (α → α)) (x : α) :
    fs.foldr (fun f acc => f acc) x = composeAll fs x := by
  induction fs with
  | nil => rfl
  | cons f fs ih => rw [List.foldr_cons, ih, composeAll_cons]

theorem Middleware.apply_eq_composeAll (h : Handler) (ms : List Middleware) :
    Middleware.apply h ms = composeAll ms h :=
  foldr_apply_eq_composeAll ms h

/-- 鎖の設定のうち、`f` を設定した最も後ろのものの値。 -/
def nearest {α : Type} (f : RouterConfig T → Option α) (chain : List (RouterConfig T)) : Option α :=
  chain.reverse.findSome? f

@[simp] theorem nearest_singleton {α : Type} (f : RouterConfig T → Option α) (c : RouterConfig T) :
    nearest f [c] = f c := by
  cases hc : f c <;> simp [nearest, hc]

/-- 鎖の末尾に足した設定が `f` を設定していればそれ、していなければ前の鎖の値。 -/
theorem nearest_append_singleton {α : Type} (f : RouterConfig T → Option α)
    (chain : List (RouterConfig T)) (c : RouterConfig T) :
    nearest f (chain ++ [c]) = (f c).or (nearest f chain) := by
  cases hc : f c <;> simp [nearest, hc]

/-! ## 鎖の不変条件 -/

/-- router が鎖 `chain` の設定から受け継いだものを持つ。 -/
structure Router.Inherits (r : Router T) (chain : List (RouterConfig T)) : Prop where
  middleware : r.middleware =
    [Trim.middleware, RequestFields.middleware] ++ chain.flatMap RouterConfig.middleware
  generic : r.generic = chain.flatMap RouterConfig.generic
  conversion : nearest RouterConfig.conversion chain = some r.conversion
  stats : r.stats = nearest RouterConfig.stats chain

namespace Router

/-- 根の router は自分の設定だけを受け継ぐ。 -/
theorem root_inherits {c : RouterConfig T} {doc : OpenApi.Config} {r : Router T} {reg : Registry}
    (h : Router.root c doc = .ok (r, reg)) : r.Inherits [c] := by
  unfold Router.root at h
  cases hv : doc.validate with
  | error e => simp [hv, bind, Except.bind] at h
  | ok u =>
    cases hc : c.conversion with
    | none => simp [hv, hc, bind, Except.bind, throw, throwThe, MonadExceptOf.throw] at h
    | some f =>
      by_cases hp : c.pathPrefix.isEmpty = true
      · simp [hv, hc, hp, bind, Except.bind, throw, throwThe, MonadExceptOf.throw, pure,
          Except.pure] at h
      · simp only [hv, hc, hp, bind, Except.bind, pure, Except.pure, Bool.false_eq_true, if_false,
          Except.ok.injEq, Prod.mk.injEq] at h
        obtain ⟨rfl, -⟩ := h
        exact ⟨by simp, by simp, by simp [hc], by simp⟩

/-- 子を一つ作ると、鎖の末尾にその設定が足される。 -/
theorem Inherits.subrouter {r : Router T} {chain : List (RouterConfig T)} (h : r.Inherits chain)
    (c : RouterConfig T) : (r.subrouter c).Inherits (chain ++ [c]) where
  middleware := by simp [Router.subrouter, h.middleware]
  generic := by simp [Router.subrouter, h.generic]
  conversion := by
    rw [nearest_append_singleton, h.conversion]
    cases hc : c.conversion <;> simp [Router.subrouter, hc]
  stats := by
    rw [nearest_append_singleton, ← h.stats]
    cases hc : c.stats <;> simp [Router.subrouter, hc]

/-- `subrouter` を繰り返すと、鎖の末尾にその設定が順に足される。 -/
theorem Inherits.foldl_subrouter {r : Router T} {chain : List (RouterConfig T)}
    (h : r.Inherits chain) (cs : List (RouterConfig T)) :
    (cs.foldl Router.subrouter r).Inherits (chain ++ cs) := by
  induction cs generalizing r chain with
  | nil => simpa using h
  | cons c cs ih =>
    rw [List.foldl_cons, ← List.singleton_append, ← List.append_assoc]
    exact ih (h.subrouter c)

/-- 鎖を受け継いだ router の包み方。業務の middleware、最も近い変換、middleware の順に内から
包み、最も近い統計の hook があれば method と鍵とともにそれを外に当てる。 -/
theorem Inherits.wrap {r : Router T} {chain : List (RouterConfig T)} (h : r.Inherits chain)
    (m : Method) (key : String) (x : T) :
    r.wrap m key x =
      (nearest RouterConfig.stats chain).elim
        (composeAll ([Trim.middleware, RequestFields.middleware] ++
          chain.flatMap RouterConfig.middleware)
          (r.conversion (composeAll (chain.flatMap RouterConfig.generic) x)))
        fun s => s (composeAll ([Trim.middleware, RequestFields.middleware] ++
          chain.flatMap RouterConfig.middleware)
          (r.conversion (composeAll (chain.flatMap RouterConfig.generic) x))) m key := by
  unfold Router.wrap
  rw [Middleware.apply_eq_composeAll, foldr_apply_eq_composeAll, h.middleware, h.generic, ← h.stats]
  cases r.stats <;> rfl

/-- 成功した経路の登録は、凍結していない登録簿の表の専用の枠に包んだ処理を置く。 -/
theorem endpoint_eq_ok {r : Router T} {reg reg' : Registry} {sub : String} {m : Method} {x : T}
    {d : Option Documentation} (hok : r.endpoint reg sub m x d = .ok reg') :
    reg.frozen = false ∧
      reg'.table = reg.table.addEndpoint (Path.join r.pathPrefix sub) (.exact m)
        (r.wrap m (Path.join r.pathPrefix sub) x) r.allowedHeaders := by
  cases hf : reg.frozen
  case true => rw [endpoint_of_frozen r reg sub m x d hf] at hok; cases hok
  case false =>
    refine ⟨rfl, ?_⟩
    rcases d with _ | ⟨reason⟩ | ⟨op⟩
    · rw [endpoint_of_open r reg sub m x hf] at hok
      cases hok
      rfl
    · rw [endpoint_undocumentable r reg sub m x reason hf] at hok
      cases hok
    · rw [endpoint_documented r reg sub m x op hf] at hok
      cases hok
      rfl

end Router

/-! ## 登録した処理 -/

/-- 根 N₀ から設定 `cs` の子を順に作った router Nₖ に経路を登録すると、表の専用の枠に置かれる
処理は `S (H₁ (… Hₙ (C (G₁ (… Gⱼ h)))))` である。H は空白を削るもの、要求の項目を記録するもの、
鎖の middleware を根から順に、G は鎖の業務の middleware を根から順に並べたもの。C は鎖の中で
変換を設定した最も近い router の変換、S は統計の hook を設定した最も近い router の hook を
method と鍵に当てたもの（なければ何もしない）。 -/
theorem endpoint_handler_along_chain {c₀ : RouterConfig T} {doc : OpenApi.Config} {r₀ : Router T}
    {reg₀ : Registry} (hroot : Router.root c₀ doc = .ok (r₀, reg₀)) (cs : List (RouterConfig T))
    {reg reg' : Registry} {sub : String} {m : Method} {x : T} {d : Option Documentation}
    (hok : (cs.foldl Router.subrouter r₀).endpoint reg sub m x d = .ok reg') :
    ∃ conv, nearest RouterConfig.conversion (c₀ :: cs) = some conv ∧
      reg'.table.handler? (Path.join (cs.foldl Router.subrouter r₀).pathPrefix sub) (.exact m) =
        some ((nearest RouterConfig.stats (c₀ :: cs)).elim
          (composeAll ([Trim.middleware, RequestFields.middleware] ++
            (c₀ :: cs).flatMap RouterConfig.middleware)
            (conv (composeAll ((c₀ :: cs).flatMap RouterConfig.generic) x)))
          fun s => s (composeAll ([Trim.middleware, RequestFields.middleware] ++
            (c₀ :: cs).flatMap RouterConfig.middleware)
            (conv (composeAll ((c₀ :: cs).flatMap RouterConfig.generic) x)))
            m (Path.join (cs.foldl Router.subrouter r₀).pathPrefix sub)) := by
  have hchain : (cs.foldl Router.subrouter r₀).Inherits (c₀ :: cs) :=
    (Router.root_inherits hroot).foldl_subrouter cs
  obtain ⟨-, htable⟩ := Router.endpoint_eq_ok hok
  refine ⟨_, hchain.conversion, ?_⟩
  rw [htable, Table.handler?_addEndpoint, if_pos ⟨rfl, rfl⟩, hchain.wrap]

/-- 要求に名前 `name` の印を付けてから次に渡す middleware。 -/
def tagMiddleware (name : String) : Middleware :=
  Middleware.around fun req next => next { req with headers := req.headers.append ⟨"x-chain"⟩ ⟨Utf8.encode name⟩ }

/-- 根の下に `api`（middleware `a`）、その下に `v1`（middleware `b`、統計の hook）を作った鎖。 -/
def apiChain : List (RouterConfig Handler) :=
  [{ pathPrefix := "api", middleware := [tagMiddleware "a"] },
   { pathPrefix := "v1", middleware := [tagMiddleware "b"], stats := some StatsHook.trace }]

/-- `apiChain` の末端に GET `/users` を登録した登録簿。 -/
def apiRegistry : Registry :=
  Call.run [.endpoint (apiChain.foldl Router.subrouter slashRouter) "users" Method.get okHandler none]
    slashRegistry

/-- 二段の鎖の末端に登録した処理は、根の二つ、`a`、`b` の順に包まれ、最後に `v1` の統計の hook が
当たる。 -/
theorem endpoint_handler_along_api_chain :
    Router.root { pathPrefix := "/", conversion := some id }
        (OpenApi.Config.new "svc" "test service" "0.0.1") = .ok (slashRouter, slashRegistry) ∧
      (apiChain.foldl Router.subrouter slashRouter).endpoint slashRegistry "users" Method.get okHandler
        none = .ok apiRegistry ∧
      ∃ conv, nearest RouterConfig.conversion
          ({ pathPrefix := "/", conversion := some id } :: apiChain) = some conv ∧
        apiRegistry.table.handler? "/api/v1/users" (.exact Method.get) =
          some (StatsHook.trace (composeAll [Trim.middleware, RequestFields.middleware,
            tagMiddleware "a", tagMiddleware "b"] (conv okHandler)) Method.get "/api/v1/users") := by
  have hok : (apiChain.foldl Router.subrouter slashRouter).endpoint slashRegistry "users" Method.get
      okHandler none = .ok apiRegistry := rfl
  obtain ⟨conv, hconv, hh⟩ := endpoint_handler_along_chain root_slash apiChain hok
  exact ⟨root_slash, hok, conv, hconv, hh⟩

end HttpRouting
