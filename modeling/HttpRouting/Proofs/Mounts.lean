import HttpRouting.Proofs.Routing

/-!
# mount になる鍵

鍵が mount として働くかは、鍵の最後の文字が `/` かどうかだけで決まり、どの呼び出しで登録したか
にはよらない。

`Path.join` の断片は空でなく `/` を含まないので、結果が `/` で終わるのは断片が一つも残らないとき、
すなわち鍵が `/` のときだけである（`Path.join_endsInSlash_iff`）。`Path.joinMount` の結果が `/` で
終わるのは、それが `/` であるか、下位の経路が `/` で終わるときである。

したがって、登録された鍵に無い経路に答える mount は、`Router.handle` に `/` で終わる下位の経路を
与えて登録した鍵か、根の鍵 `/` である（`route_of_unregistered_path`）。根の鍵 `/` は、接頭辞が `/`
の router に下位の経路 `""` や `/` で `Router.endpoint` を呼んでもできる。この鍵はすべての経路の
頭になるので、経路の登録だけで作った木でも、`/` を登録していれば登録していない経路に 404 を返さない。
-/

namespace HttpRouting

namespace Path

/-- 断片は `/` を含まない。 -/
theorem not_slash_mem_of_mem_split {cs w : List Char} (hw : w ∈ split cs) : '/' ∉ w := by
  induction cs generalizing w with
  | nil => simp_all [split]
  | cons c cs ih =>
    simp only [split] at hw
    split at hw
    · rcases List.mem_cons.mp hw with rfl | hw
      · simp
      · exact ih hw
    · rename_i hc
      split at hw
      · rename_i w' ws hsplit
        rcases List.mem_cons.mp hw with rfl | hw
        · simp only [List.mem_cons, not_or]
          exact ⟨Ne.symm hc, ih (hsplit ▸ List.mem_cons_self)⟩
        · exact ih (hsplit ▸ List.mem_cons_of_mem _ hw)
      · rw [List.mem_singleton] at hw
        subst hw
        simp [Ne.symm hc]

/-- 積んだ断片がどれも空でなく `/` を含まない。 -/
def Clean (stack : List (List Char)) : Prop := ∀ w ∈ stack, w ≠ [] ∧ '/' ∉ w

theorem Clean.push {stack : List (List Char)} {seg : List Char} (h : Clean stack)
    (hseg : '/' ∉ seg) : Clean (push stack seg) := by
  unfold Path.push
  split
  · exact h
  · split
    · exact fun w hw => h w (List.mem_of_mem_drop hw)
    · rename_i hne _
      intro w hw
      rcases List.mem_cons.mp hw with rfl | hw
      · exact ⟨fun e => hne (.inl e), hseg⟩
      · exact h w hw

theorem clean_segments (pre sub : String) : Clean (segments pre sub) := by
  unfold segments
  suffices ∀ (ws : List (List Char)) (stack : List (List Char)), Clean stack → (∀ w ∈ ws, '/' ∉ w) →
      Clean (ws.foldl Path.push stack) by
    intro w hw
    refine this _ [] (by simp [Clean]) ?_ w (List.mem_reverse.mp hw)
    intro w hw
    rcases List.mem_append.mp hw with hw | hw
    · exact not_slash_mem_of_mem_split hw
    · exact not_slash_mem_of_mem_split hw
  intro ws
  induction ws with
  | nil => exact fun _ h _ => h
  | cons w ws ih =>
    intro stack hstack hws
    exact ih _ (hstack.push (hws w List.mem_cons_self)) fun v hv => hws v (List.mem_cons_of_mem _ hv)

/-- 断片を並べた鍵の最後の文字は、最後の断片の最後の文字で、`/` ではない。 -/
theorem getLast?_flatMap_ne_slash {segs : List (List Char)} (h : Clean segs) (hne : segs ≠ []) :
    (segs.flatMap ('/' :: ·)).getLast? ≠ some '/' := by
  induction segs with
  | nil => exact absurd rfl hne
  | cons w ws ih =>
    cases ws with
    | nil =>
      obtain ⟨hw, hslash⟩ := h w List.mem_cons_self
      have hlast : ('/' :: w).getLast? = w.getLast? := by
        cases w with
        | nil => exact absurd rfl hw
        | cons c cs => simp [List.getLast?_cons]
      simp only [List.flatMap_cons, List.flatMap_nil, List.append_nil, hlast]
      intro e
      exact hslash (List.mem_of_getLast? e)
    | cons w' ws =>
      have ih := ih (fun v hv => h v (List.mem_cons_of_mem _ hv)) (List.cons_ne_nil w' ws)
      rw [List.flatMap_cons, List.getLast?_append]
      cases hl : ((w' :: ws).flatMap ('/' :: ·)).getLast? with
      | none => simp at hl
      | some x => rw [hl] at ih; simpa using ih

/-- `join` の結果が `/` で終わるのは、それが `/` のときだけである。 -/
theorem join_endsInSlash_iff (pre sub : String) :
    (join pre sub).toList.getLast? = some '/' ↔ join pre sub = "/" := by
  unfold join
  cases hs : segments pre sub with
  | nil => simp [render]
  | cons w ws =>
    have hlast := getLast?_flatMap_ne_slash (hs ▸ clean_segments pre sub) (List.cons_ne_nil w ws)
    simp only [render, String.toList_ofList]
    refine ⟨fun h => absurd h hlast, fun h => absurd ?_ hlast⟩
    rw [← String.toList_ofList (l := (w :: ws).flatMap ('/' :: ·)), h]
    rfl

/-- `joinMount` の結果が `/` で終わるなら、それは `/` か、下位の経路が `/` で終わる。 -/
theorem joinMount_endsInSlash {pre sub : String}
    (h : (joinMount pre sub).toList.getLast? = some '/') :
    joinMount pre sub = "/" ∨ sub.toList.getLast? = some '/' := by
  unfold joinMount at h ⊢
  dsimp only at h ⊢
  split
  · exact .inr ‹_ ∧ _›.1
  · rename_i hcond
    split at h
    · exact absurd ‹_› hcond
    · exact .inl ((join_endsInSlash_iff pre sub).mp h)

end Path

variable {T : Type}

/-- `Router.handle` の呼び出しか。 -/
def Call.isHandle : Call T → Bool
  | .handle .. => true
  | _ => false

/-- 空の表から始めた列の後で `/` で終わる鍵は、`/` か、凍結の前に `/` で終わる下位の経路で
`Router.handle` に登録した鍵である。 -/
theorem endsInSlash_key_of_run {reg : Registry} (h0 : reg.table = []) {calls : List (Call T)}
    {k : String} (hk : k ∈ (Call.run calls reg).table.paths) (hs : k.toList.getLast? = some '/') :
    k = "/" ∨ ∃ pre post q sub h, calls = pre ++ .handle q sub h :: post ∧
      (Call.run pre reg).frozen = false ∧ Path.joinMount q.pathPrefix sub = k ∧
      sub.toList.getLast? = some '/' := by
  rcases Call.mem_paths_run hk with hk | ⟨pre, c, post, rfl, hf, hc⟩
  · simp [h0, Table.paths] at hk
  · cases c with
    | endpoint q sub m h doc =>
      -- 経路の登録の鍵は `join` の結果なので、`/` で終わるなら `/` である。
      simp only [Call.key?, Option.some.injEq] at hc
      subst hc
      exact .inl ((Path.join_endsInSlash_iff _ _).mp hs)
    | handle q sub h =>
      simp only [Call.key?, Option.some.injEq] at hc
      subst hc
      rcases Path.joinMount_endsInSlash hs with h' | h'
      · exact .inl h'
      · exact .inr ⟨pre, post, q, sub, h, rfl, hf, rfl, h'⟩
    | build => simp [Call.key?] at hc

/-- 登録していない経路 `p` に答える鍵は `/` で終わり、`/` そのものか、`Router.handle` に `/` で
終わる下位の経路を与えて登録した mount である。経路の登録だけで作った木では、登録していない
経路に答える鍵がない（404 になる）のは、`/` が鍵でないか `p` が `/` で始まらないときで、そのとき
に限る。 -/
theorem route_of_unregistered_path {c : RouterConfig T} {doc : OpenApi.Config} {r : Router T}
    {reg : Registry} (hroot : Router.root c doc = .ok (r, reg)) (calls : List (Call T)) {p : String}
    (hp : p ∉ (Call.run calls reg).table.paths) :
    (∀ k, Route (Call.run calls reg).table.paths p (some k) →
      k.toList.getLast? = some '/' ∧
        (k = "/" ∨ ∃ pre post q sub h, calls = pre ++ .handle q sub h :: post ∧
          (Call.run pre reg).frozen = false ∧ Path.joinMount q.pathPrefix sub = k ∧
          sub.toList.getLast? = some '/')) ∧
    ((∀ c ∈ calls, c.isHandle = false) →
      (Route (Call.run calls reg).table.paths p none ↔
        ¬ ("/" ∈ (Call.run calls reg).table.paths ∧ BytePrefix "/" p))) := by
  have h0 : reg.table = [] := by rw [Router.root_registry hroot]
  refine ⟨fun k hk => ?_, fun hcalls => ⟨?_, fun hno => .none hp fun k hk hs hpre => ?_⟩⟩
  · cases hk with
    | exact hp' => exact absurd hp' hp
    | mount _ hk hs _ _ => exact ⟨hs, endsInSlash_key_of_run h0 hk hs⟩
  · rintro (_ | ⟨_, hk, hs, hpre, _⟩ | ⟨_, hnone⟩) ⟨hroot, hslash⟩
    exact hnone "/" hroot (by decide) hslash
  · -- 経路の登録だけなら、`/` で終わる鍵は `/` しかない。
    rcases endsInSlash_key_of_run h0 hk hs with rfl | ⟨pre, post, q, sub, h, rfl, -⟩
    · exact hno ⟨hk, hpre⟩
    · have := hcalls (.handle q sub h) (by simp)
      simp [Call.isHandle] at this

/-! ## 根の鍵 `/` -/

/-- 何もせず 200 を返す処理。 -/
def okHandler : Handler := fun _ => pure (Response.ofStatus Status.ok)

/-- 接頭辞 `/` の根の router。処理の型は `Handler` で、変換はそのまま。 -/
def slashRouter : Router Handler :=
  { pathPrefix := Path.join "/" ""
    middleware := [Trim.middleware, RequestFields.middleware]
    conversion := id }

/-- `slashRouter` と一緒に作る登録簿。 -/
def slashRegistry : Registry :=
  { document := OpenApi.Document.ofConfig (OpenApi.Config.new "svc" "test service" "0.0.1") }

theorem root_slash :
    Router.root { pathPrefix := "/", conversion := some id }
      (OpenApi.Config.new "svc" "test service" "0.0.1") = .ok (slashRouter, slashRegistry) := rfl

/-- 根に下位の経路 `""` で GET を一つ登録しただけの木。 -/
def rootEndpointCalls : List (Call Handler) := [.endpoint slashRouter "" Method.get okHandler none]

/-- 経路の登録だけの木でも、鍵 `/` を登録すれば、登録していない `/users` にはその鍵が答える。 -/
theorem route_of_unregistered_path_under_root_endpoint :
    Router.root { pathPrefix := "/", conversion := some id }
        (OpenApi.Config.new "svc" "test service" "0.0.1") = .ok (slashRouter, slashRegistry) ∧
      "/users" ∉ (Call.run rootEndpointCalls slashRegistry).table.paths ∧
      ((∀ k, Route (Call.run rootEndpointCalls slashRegistry).table.paths "/users" (some k) →
        k.toList.getLast? = some '/' ∧
          (k = "/" ∨ ∃ pre post q sub h, rootEndpointCalls = pre ++ .handle q sub h :: post ∧
            (Call.run pre slashRegistry).frozen = false ∧ Path.joinMount q.pathPrefix sub = k ∧
            sub.toList.getLast? = some '/')) ∧
      ((∀ c ∈ rootEndpointCalls, c.isHandle = false) →
        (Route (Call.run rootEndpointCalls slashRegistry).table.paths "/users" none ↔
          ¬ ("/" ∈ (Call.run rootEndpointCalls slashRegistry).table.paths ∧
            BytePrefix "/" "/users")))) :=
  have hp : "/users" ∉ (Call.run rootEndpointCalls slashRegistry).table.paths := by decide
  ⟨root_slash, hp, route_of_unregistered_path root_slash rootEndpointCalls hp⟩

/-- 根に経路を一つ登録しただけの木で、登録していない `/users` に答える鍵は、経路の登録が書いた
`/` で、その GET の枠には登録した処理がある。木には `Router.handle` の呼び出しがないので、登録
していない経路に 404 を返すはずのところで、登録した処理が答える。 -/
theorem root_endpoint_answers_unregistered_path :
    (∀ c ∈ rootEndpointCalls, c.isHandle = false) ∧
      (Call.run rootEndpointCalls slashRegistry).table.paths = ["/"] ∧
      ((Call.run rootEndpointCalls slashRegistry).table.handler? "/" (.exact Method.get)).isSome ∧
      (Call.run rootEndpointCalls slashRegistry).table.resolve "/users" = some "/" := by
  have hpaths : (Call.run rootEndpointCalls slashRegistry).table.paths = ["/"] := by decide
  refine ⟨by decide, hpaths, by decide, Table.resolve_eq_iff.mpr ?_⟩
  refine .mount (by decide) (by decide) (by decide)
    ⟨"users".toByteArray, by rw [← String.toByteArray_append]; rfl⟩ fun k hk _ _ => ?_
  rw [hpaths, List.mem_singleton] at hk
  subst hk
  exact Nat.le_refl _

end HttpRouting
