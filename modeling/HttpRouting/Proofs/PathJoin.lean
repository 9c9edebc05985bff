import HttpRouting.Proofs.Inheritance

/-!
# 鍵をつなぐ法則

`Path.join` は、接頭辞と下位の経路を `/` で切った断片を左から順に積む。積んだ列に残る断片は、
空でも `.` でも `..` でもなく `/` を含まない（`Path.IsSegment`）。そうした断片を `/` でつないだ鍵を
もう一度切って積むと、同じ断片の列に戻る（`Path.foldl_push_split_render`）。`..` が取り除くのは
いつも積んだ列の最後の断片で、それがどの文字列から来たかによらず、空の列では何もしない。

したがって、つないだ鍵にさらにつなぐのは、下位の経路を `/` でつないでから一度につなぐのと同じで
ある（`Path.join_join`）。

* `Path.split_append_slash` — `/` でつないだ列を切ると、それぞれを切った列をつないだもの。
* `Path.join_join` — `join (join a b) c = join a (b ++ "/" ++ c)`。
* `Router.pathPrefix_foldl_subrouter` — 子を作る鎖の先の router の接頭辞は、鎖の設定の接頭辞を
  `/` でつないで一度につないだもの。
* `join_composes_as_fold` — 根の接頭辞 q₀ から設定の接頭辞 q₁ … qₙ の鎖をたどった router の
  接頭辞は `join q₀ (q₁ ++ "/" ++ … ++ "/" ++ qₙ)` で、そこに登録した経路の鍵は、さらに下位の経路を
  `/` でつないだもの。
-/

namespace HttpRouting

namespace Path

/-! ## 区切りで切る -/

theorem split_ne_nil (cs : List Char) : split cs ≠ [] := by
  cases cs with
  | nil => simp [split]
  | cons c cs =>
    simp only [split]
    split
    · simp
    · split <;> simp

/-- `/` を含まない列を切ると、それ一つの断片になる。 -/
theorem split_of_not_slash {w : List Char} (h : '/' ∉ w) : split w = [w] := by
  induction w with
  | nil => rfl
  | cons c cs ih =>
    have hc : c ≠ '/' := fun e => h (e ▸ List.mem_cons_self)
    have hcs : '/' ∉ cs := fun e => h (List.mem_cons_of_mem _ e)
    simp [split, hc, ih hcs]

/-- `/` を含まない列を前に足すと、最初の断片の前に足される。 -/
theorem split_append_of_not_slash {w rest v : List Char} {vs : List (List Char)} (h : '/' ∉ w)
    (hr : split rest = v :: vs) : split (w ++ rest) = (w ++ v) :: vs := by
  induction w with
  | nil => exact hr
  | cons c cs ih =>
    have hc : c ≠ '/' := fun e => h (e ▸ List.mem_cons_self)
    have hcs : '/' ∉ cs := fun e => h (List.mem_cons_of_mem _ e)
    simp [split, hc, ih hcs]

/-- `/` でつないだ列を切ると、それぞれを切った列をつないだもの。 -/
theorem split_append_slash (l₁ l₂ : List Char) : split (l₁ ++ '/' :: l₂) = split l₁ ++ split l₂ := by
  induction l₁ with
  | nil => simp [split]
  | cons c cs ih =>
    by_cases hc : c = '/'
    · simp [split, hc, ih]
    · obtain ⟨w, ws, hw⟩ := List.exists_cons_of_ne_nil (split_ne_nil cs)
      simp [split, hc, ih, hw]

/-- 断片ごとに前に `/` を置いて並べた列を切ると、空の断片の後にその断片が並ぶ。 -/
theorem split_flatMap {segs : List (List Char)} (h : ∀ w ∈ segs, '/' ∉ w) :
    split (segs.flatMap ('/' :: ·)) = [] :: segs := by
  induction segs with
  | nil => rfl
  | cons w ws ih =>
    have hrest := ih fun v hv => h v (List.mem_cons_of_mem _ hv)
    simp [split, split_append_of_not_slash (h w List.mem_cons_self) hrest]

/-! ## 積んだ列に残る断片 -/

/-- 積んだ列に残る断片：空でも `.` でも `..` でもなく、`/` を含まない。 -/
def IsSegment (w : List Char) : Prop := w ≠ [] ∧ w ≠ ['.'] ∧ w ≠ ['.', '.'] ∧ '/' ∉ w

@[simp] theorem push_nil (stack : List (List Char)) : push stack [] = stack := by
  simp [push]

theorem push_of_isSegment {stack : List (List Char)} {w : List Char} (h : IsSegment w) :
    push stack w = w :: stack := by
  simp [push, h.1, h.2.1, h.2.2.1]

/-- 残る断片だけを積むと、順に前に足される。 -/
theorem foldl_push_of_isSegment {segs : List (List Char)} (h : ∀ w ∈ segs, IsSegment w)
    (stack : List (List Char)) : segs.foldl push stack = segs.reverse ++ stack := by
  induction segs generalizing stack with
  | nil => rfl
  | cons w ws ih =>
    rw [List.foldl_cons, push_of_isSegment (h w List.mem_cons_self),
      ih (fun v hv => h v (List.mem_cons_of_mem _ hv))]
    simp

/-- 残る断片の列に `/` を含まない断片を積んでも、残る断片の列である。 -/
theorem isSegment_push {stack : List (List Char)} {seg : List Char} (h : ∀ w ∈ stack, IsSegment w)
    (hseg : '/' ∉ seg) : ∀ w ∈ push stack seg, IsSegment w := by
  unfold push
  split
  · exact h
  · split
    · exact fun w hw => h w (List.mem_of_mem_drop hw)
    · rename_i h₁ h₂
      intro w hw
      rcases List.mem_cons.mp hw with rfl | hw
      · exact ⟨fun e => h₁ (.inl e), fun e => h₁ (.inr e), h₂, hseg⟩
      · exact h w hw

theorem isSegment_segments (pre sub : String) : ∀ w ∈ segments pre sub, IsSegment w := by
  -- 切った断片はどれも `/` を含まないので、積むたびに残る断片の列が保たれる
  have hfold : ∀ (ws stack : List (List Char)), (∀ w ∈ stack, IsSegment w) → (∀ w ∈ ws, '/' ∉ w) →
      ∀ w ∈ ws.foldl push stack, IsSegment w := by
    intro ws
    induction ws with
    | nil => exact fun _ h _ => h
    | cons w ws ih =>
      intro stack hstack hws
      exact ih _ (isSegment_push hstack (hws w List.mem_cons_self))
        fun v hv => hws v (List.mem_cons_of_mem _ hv)
  intro w hw
  refine hfold _ [] (by simp) ?_ w (List.mem_reverse.mp hw)
  intro v hv
  rcases List.mem_append.mp hv with hv | hv
  · exact not_slash_mem_of_mem_split hv
  · exact not_slash_mem_of_mem_split hv

/-- 残る断片の列を鍵にしてから切って積むと、その断片の列に戻る。 -/
theorem foldl_push_split_render {segs : List (List Char)} (h : ∀ w ∈ segs, IsSegment w)
    (stack : List (List Char)) :
    (split (render segs).toList).foldl push stack = segs.reverse ++ stack := by
  cases segs with
  | nil => rfl
  | cons w ws =>
    have hslash : ∀ v ∈ w :: ws, '/' ∉ v := fun v hv => (h v hv).2.2.2
    simp only [render, String.toList_ofList]
    rw [split_flatMap hslash, List.foldl_cons, push_nil, foldl_push_of_isSegment h]

/-! ## つなぐ法則 -/

theorem foldl_push_split (pre sub : String) :
    (split pre.toList ++ split sub.toList).foldl push [] = (segments pre sub).reverse := by
  rw [segments, List.reverse_reverse]

/-- つないだ鍵にさらにつなぐと、前の断片の上に下位の経路の断片を積む。 -/
theorem segments_join (a b c : String) :
    segments (join a b) c = ((split c.toList).foldl push (segments a b).reverse).reverse := by
  show ((split (join a b).toList ++ split c.toList).foldl push []).reverse = _
  rw [List.foldl_append, join, foldl_push_split_render (isSegment_segments a b), List.append_nil]

/-- 下位の経路を `/` でつなぐと、前の二つの断片の上に三つ目の断片を積む。 -/
theorem segments_append_slash (a b c : String) :
    segments a (b ++ "/" ++ c) = ((split c.toList).foldl push (segments a b).reverse).reverse := by
  have hbc : (b ++ "/" ++ c).toList = b.toList ++ '/' :: c.toList := by simp
  show ((split a.toList ++ split (b ++ "/" ++ c).toList).foldl push []).reverse = _
  rw [hbc, split_append_slash, ← List.append_assoc, List.foldl_append, foldl_push_split]

/-- つないだ鍵にさらにつなぐのは、下位の経路を `/` でつないでから一度につなぐのと同じ。 -/
theorem join_join (a b c : String) : join (join a b) c = join a (b ++ "/" ++ c) :=
  congrArg render ((segments_join a b c).trans (segments_append_slash a b c).symm)

/-- 下位の経路の先頭の `/` は鍵を変えない。 -/
theorem join_slash_append (a b : String) : join a ("/" ++ b) = join a b := by
  have hb : ("/" ++ b).toList = [] ++ '/' :: b.toList := by simp
  show render ((split a.toList ++ split ("/" ++ b).toList).foldl push []).reverse =
    render ((split a.toList ++ split b.toList).foldl push []).reverse
  rw [hb, split_append_slash]
  simp [split, List.foldl_append]

/-- 下位の経路を `/` でつないだ列に一つ足してつなぐのは、つないだ鍵にそれをつなぐのと同じ。 -/
theorem join_intercalate_append_singleton (a : String) (qs : List String) (q : String) :
    join a ("/".intercalate (qs ++ [q])) = join (join a ("/".intercalate qs)) q := by
  rw [join_join]
  cases qs with
  | nil => simp [join_slash_append]
  | cons x xs =>
    rw [String.intercalate_append_of_ne_nil (List.cons_ne_nil x xs) (List.cons_ne_nil q []),
      String.intercalate_singleton]

end Path

namespace Router

variable {T : Type}

/-- 根の router を作れたなら、変換は設定にあり、router は設定の値をそのまま持つ。接頭辞は設定の
接頭辞を鍵の形にしたもの。 -/
theorem root_eq_ok {c : RouterConfig T} {doc : OpenApi.Config} {r : Router T} {reg : Registry}
    (h : Router.root c doc = .ok (r, reg)) :
    ∃ f, c.conversion = some f ∧
      r = { pathPrefix := Path.join c.pathPrefix ""
            generic := c.generic
            middleware := [Trim.middleware, RequestFields.middleware] ++ c.middleware
            defaultParameters := c.defaultParameters
            allowedHeaders := c.allowedHeaders
            conversion := f
            stats := c.stats } := by
  unfold Router.root at h
  cases hv : doc.validate with
  | error e => simp [hv, bind, Except.bind] at h
  | ok u =>
    cases hc : c.conversion with
    | none => simp [hv, hc, bind, Except.bind, throw, throwThe, MonadExceptOf.throw] at h
    | some f =>
      by_cases hp : c.pathPrefix.isEmpty = true
      · simp [hv, hc, hp, bind, Except.bind, throw, throwThe, MonadExceptOf.throw, pure,
          Except.pure] at h
      · simp only [hv, hc, hp, bind, Except.bind, pure, Except.pure, Bool.false_eq_true, if_false,
          Except.ok.injEq, Prod.mk.injEq] at h
        exact ⟨f, rfl, h.1.symm⟩

/-- 子を作る鎖の先の router の接頭辞は、鎖の設定の接頭辞を `/` でつないで一度につないだもの。 -/
theorem pathPrefix_foldl_subrouter {r : Router T} {q₀ : String} {done : List String}
    (h : r.pathPrefix = Path.join q₀ ("/".intercalate done)) (cs : List (RouterConfig T)) :
    (cs.foldl Router.subrouter r).pathPrefix =
      Path.join q₀ ("/".intercalate (done ++ cs.map (·.pathPrefix))) := by
  induction cs generalizing r done with
  | nil => simpa using h
  | cons c cs ih =>
    have hc : (r.subrouter c).pathPrefix = Path.join q₀ ("/".intercalate (done ++ [c.pathPrefix])) := by
      rw [Path.join_intercalate_append_singleton, ← h]
      rfl
    rw [List.foldl_cons, ih hc, List.map_cons, List.append_assoc, List.singleton_append]

end Router

variable {T : Type}

/-- 接頭辞 `/api/` と `v1//` の二段の鎖。 -/
def apiV1Chain : List (RouterConfig Handler) := [{ pathPrefix := "/api/" }, { pathPrefix := "v1//" }]

/-- 鍵をつなぐのは左からの畳み込みで、`join (join a b) c = join a (b ++ "/" ++ c)`。したがって、根の
設定の接頭辞 q₀ から設定の接頭辞 q₁ … qₙ の鎖をたどった router の接頭辞は
`join q₀ (q₁ ++ "/" ++ … ++ "/" ++ qₙ)` で、そこで経路の登録に成功すると、その鍵
`join q₀ (q₁ ++ "/" ++ … ++ "/" ++ qₙ ++ "/" ++ 下位の経路)` の専用の枠に処理が置かれる。 -/
theorem join_composes_as_fold {c₀ : RouterConfig T} {doc : OpenApi.Config} {r₀ : Router T}
    {reg₀ : Registry} (hroot : Router.root c₀ doc = .ok (r₀, reg₀)) :
    (∀ a b c : String, Path.join (Path.join a b) c = Path.join a (b ++ "/" ++ c)) ∧
    ∀ cs : List (RouterConfig T),
      (cs.foldl Router.subrouter r₀).pathPrefix =
        Path.join c₀.pathPrefix ("/".intercalate (cs.map (·.pathPrefix))) ∧
      ∀ (reg reg' : Registry) (sub : String) (m : Method) (x : T) (d : Option Documentation),
        (cs.foldl Router.subrouter r₀).endpoint reg sub m x d = .ok reg' →
          Path.join (cs.foldl Router.subrouter r₀).pathPrefix sub =
              Path.join c₀.pathPrefix ("/".intercalate (cs.map (·.pathPrefix) ++ [sub])) ∧
            (reg'.table.handler? (Path.join c₀.pathPrefix ("/".intercalate (cs.map (·.pathPrefix) ++ [sub])))
              (.exact m)).isSome := by
  obtain ⟨f, -, hr⟩ := Router.root_eq_ok hroot
  have hroot_key : r₀.pathPrefix = Path.join c₀.pathPrefix ("/".intercalate []) := by rw [hr]; rfl
  refine ⟨Path.join_join, fun cs => ?_⟩
  have hchain := Router.pathPrefix_foldl_subrouter hroot_key cs
  rw [List.nil_append] at hchain
  -- 登録の鍵は鎖の先の接頭辞に下位の経路をつないだもので、それもまた一度につないだ形になる
  have hkey : ∀ sub, Path.join (cs.foldl Router.subrouter r₀).pathPrefix sub =
      Path.join c₀.pathPrefix ("/".intercalate (cs.map (·.pathPrefix) ++ [sub])) := by
    intro sub
    rw [hchain, Path.join_intercalate_append_singleton]
  refine ⟨hchain, fun reg reg' sub m x d hok => ⟨hkey sub, ?_⟩⟩
  obtain ⟨-, htable⟩ := Router.endpoint_eq_ok hok
  rw [← hkey sub, htable, Table.handler?_addEndpoint, if_pos ⟨rfl, rfl⟩]
  rfl

/-- 接頭辞 `/` の根から `/api/`、`v1//` の鎖をたどった router は接頭辞 `/api/v1` を持ち、`users/` に
GET を登録すると鍵 `/api/v1/users` に処理が置かれる。 -/
theorem join_composes_along_api_v1 :
    Router.root { pathPrefix := "/", conversion := some id }
        (OpenApi.Config.new "svc" "test service" "0.0.1") = .ok (slashRouter, slashRegistry) ∧
      (apiV1Chain.foldl Router.subrouter slashRouter).pathPrefix = "/api/v1" ∧
      ∃ reg', (apiV1Chain.foldl Router.subrouter slashRouter).endpoint slashRegistry "users/" Method.get
          okHandler none = .ok reg' ∧
        (reg'.table.handler? "/api/v1/users" (.exact Method.get)).isSome := by
  have h := (join_composes_as_fold root_slash).2 apiV1Chain
  have hjoin : Path.join "/" ("/".intercalate (apiV1Chain.map (·.pathPrefix) ++ ["users/"])) =
      "/api/v1/users" := by decide
  have hkey := (h.2 slashRegistry _ "users/" Method.get okHandler none rfl).2
  rw [hjoin] at hkey
  exact ⟨root_slash, h.1.trans (by decide), _, rfl, hkey⟩

end HttpRouting
