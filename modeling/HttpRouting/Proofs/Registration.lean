import HttpRouting.Server.Basic
import HttpRouting.Proofs.Table

/-!
# 呼び出しを順に行う

router の木への呼び出しを一つずつ順に行ったときの登録簿を考える。呼び出しは経路の登録
（`Router.endpoint`）、method を問わない枠への登録（`Router.handle`）、server の組み立て
（`Registry.build`）の三つである。子の router を作る呼び出しは登録簿に触れないので、ここでは
呼び出しの相手の router として現れるだけになる。失敗した呼び出しは登録簿を変えない。

* `Call.perform`、`Call.apply`、`Call.run` — 呼び出しの結果、その後の登録簿、列の後の登録簿。
* `Router.endpoint_of_open` などの等式 — 凍結の有無と説明の結果で場合を分けた、登録簿の変化。
* `Call.run_of_frozen` — 凍結した登録簿は、どの呼び出しの列でも変わらない。
* `Call.mem_paths_run` — 列の後の表の鍵は、前からある鍵か、列の中で凍結の前に行った登録の鍵。
-/

namespace HttpRouting

open OpenApi

variable {T : Type}

/-! ## 一つの呼び出し -/

namespace Router

variable (r : Router T) (reg : Registry) (sub : String) (m : Method) (h : T)

theorem endpoint_of_frozen (doc : Option Documentation) (hf : reg.frozen = true) :
    r.endpoint reg sub m h doc = .error (.frozen m.name (Path.join r.pathPrefix sub)) := by
  simp [endpoint, hf, bind, Except.bind, throw, throwThe, MonadExceptOf.throw]

theorem endpoint_of_open (hf : reg.frozen = false) :
    r.endpoint reg sub m h none =
      .ok { reg with
        table := reg.table.addEndpoint (Path.join r.pathPrefix sub) (.exact m)
          (r.wrap m (Path.join r.pathPrefix sub) h) r.allowedHeaders } := by
  simp [endpoint, hf, bind, Except.bind, pure, Except.pure]

theorem endpoint_documented (op : Operation) (hf : reg.frozen = false) :
    r.endpoint reg sub m h (some (.ok op)) =
      .ok { reg with
        table := reg.table.addEndpoint (Path.join r.pathPrefix sub) (.exact m)
          (r.wrap m (Path.join r.pathPrefix sub) h) r.allowedHeaders
        document := (reg.document.merge (Path.join r.pathPrefix sub) m
          { op with parameters := op.parameters ++ r.defaultParameters }).1 } := by
  simp [endpoint, hf, bind, Except.bind, pure, Except.pure]

theorem endpoint_undocumentable (reason : String) (hf : reg.frozen = false) :
    r.endpoint reg sub m h (some (.error reason)) =
      .error (.documentation m.name (Path.join r.pathPrefix sub) reason) := by
  simp [endpoint, hf, bind, Except.bind, throw, throwThe, MonadExceptOf.throw]

theorem handle_of_frozen (h : Handler) (hf : reg.frozen = true) :
    r.handle reg sub h = .error (.frozen Slot.any.name (Path.joinMount r.pathPrefix sub)) := by
  simp [handle, hf]

theorem handle_of_open (h : Handler) (hf : reg.frozen = false) :
    r.handle reg sub h =
      .ok { reg with table := reg.table.addHandler (Path.joinMount r.pathPrefix sub) .any h } := by
  simp [handle, hf]

/-- 根の router を作るときの登録簿は、表が空で凍結していない。 -/
theorem root_registry {c : RouterConfig T} {doc : OpenApi.Config} {r : Router T}
    {reg : Registry} (h : Router.root c doc = .ok (r, reg)) :
    reg = { document := OpenApi.Document.ofConfig doc } := by
  unfold Router.root at h
  cases hv : doc.validate with
  | error e => simp [hv, bind, Except.bind] at h
  | ok u =>
    cases hc : c.conversion with
    | none => simp [hv, hc, bind, Except.bind, throw, throwThe, MonadExceptOf.throw] at h
    | some f =>
      by_cases hp : c.pathPrefix.isEmpty = true
      · simp [hv, hc, hp, bind, Except.bind, throw, throwThe, MonadExceptOf.throw, pure,
          Except.pure] at h
      · simp [hv, hc, hp, bind, Except.bind, pure, Except.pure] at h
        exact h.2.symm

end Router

namespace Registry

variable (reg : Registry) (interfaces : List (String × Nat)) (address : String)
  (timeouts : Option Timeouts)

theorem build_of_invalid (ha : ListenAddress.parse? interfaces address = none) :
    reg.build interfaces address timeouts = .error (.invalidAddress address) := by
  simp [build, ha, bind, Except.bind, throw, throwThe, MonadExceptOf.throw]

theorem build_of_frozen {a : ListenAddress} (ha : ListenAddress.parse? interfaces address = some a)
    (hf : reg.frozen = true) :
    reg.build interfaces address timeouts = .error .alreadyBuilt := by
  simp [build, ha, hf, bind, Except.bind, throw, throwThe, MonadExceptOf.throw, pure, Except.pure]

theorem build_of_open {a : ListenAddress} (ha : ListenAddress.parse? interfaces address = some a)
    (hf : reg.frozen = false) :
    reg.build interfaces address timeouts =
      .ok (⟨a, reg.table, reg.catalog, (timeouts.getD {}).normalized⟩, { reg with frozen := true }) := by
  simp [build, ha, hf, bind, Except.bind, pure, Except.pure]
  rfl

omit reg interfaces address timeouts in
/-- 組み立てに成功するのは凍結していなかったときで、server は登録簿の表と目録を写して持ち、
登録簿は凍結する。 -/
theorem build_eq_ok {reg reg' : Registry} {s : Server} {interfaces : List (String × Nat)}
    {address : String} {timeouts : Option Timeouts}
    (hb : reg.build interfaces address timeouts = .ok (s, reg')) :
    reg.frozen = false ∧ reg' = { reg with frozen := true } ∧ s.table = reg.table ∧
      s.catalog = reg.catalog ∧ s.timeouts = (timeouts.getD {}).normalized := by
  cases ha : ListenAddress.parse? interfaces address with
  | none => rw [build_of_invalid _ _ _ _ ha] at hb; cases hb
  | some a =>
    cases hf : reg.frozen
    case true => rw [build_of_frozen _ _ _ _ ha hf] at hb; cases hb
    case false =>
      rw [build_of_open _ _ _ _ ha hf] at hb
      cases hb
      exact ⟨rfl, rfl, rfl, rfl, rfl⟩

end Registry

/-! ## 呼び出しの列 -/

/-- router の木への一つの呼び出し。 -/
inductive Call (T : Type) where
  /-- 経路の登録。 -/
  | endpoint (r : Router T) (sub : String) (m : Method) (h : T) (doc : Option Documentation)
  /-- method を問わない枠への登録。 -/
  | handle (r : Router T) (sub : String) (h : Handler)
  /-- server の組み立て。 -/
  | build (interfaces : List (String × Nat)) (address : String) (timeouts : Option Timeouts)

namespace Call

/-- 呼び出しを行う。組み立てなら作った server も返す。 -/
def perform : Call T → Registry → Except Error (Option Server × Registry)
  | .endpoint r sub m h doc, reg => (r.endpoint reg sub m h doc).map ((none, ·))
  | .handle r sub h, reg => (r.handle reg sub h).map ((none, ·))
  | .build ifs a t, reg => (reg.build ifs a t).map fun (s, reg') => (some s, reg')

/-- 呼び出しの後の登録簿。失敗すれば変わらない。 -/
def apply (c : Call T) (reg : Registry) : Registry :=
  match c.perform reg with
  | .ok (_, reg') => reg'
  | .error _ => reg

/-- 呼び出しを順に行った後の登録簿。 -/
def run : List (Call T) → Registry → Registry
  | [], reg => reg
  | c :: cs, reg => run cs (c.apply reg)

/-- 登録の呼び出しが表に書く鍵。組み立ては鍵を書かない。 -/
def key? : Call T → Option String
  | .endpoint r sub _ _ _ => some (Path.join r.pathPrefix sub)
  | .handle r sub _ => some (Path.joinMount r.pathPrefix sub)
  | .build .. => none

@[simp] theorem run_nil (reg : Registry) : run ([] : List (Call T)) reg = reg := rfl

@[simp] theorem run_cons (c : Call T) (cs : List (Call T)) (reg : Registry) :
    run (c :: cs) reg = run cs (c.apply reg) := rfl

theorem run_append (cs ds : List (Call T)) (reg : Registry) :
    run (cs ++ ds) reg = run ds (run cs reg) := by
  induction cs generalizing reg with
  | nil => rfl
  | cons c cs ih => exact ih (c.apply reg)

/-- 凍結した登録簿には、どの呼び出しも失敗する。 -/
theorem perform_of_frozen (c : Call T) {reg : Registry} (hf : reg.frozen = true) :
    ∃ e, c.perform reg = .error e := by
  cases c with
  | endpoint r sub m h doc => exact ⟨_, by rw [perform, Router.endpoint_of_frozen _ _ _ _ _ _ hf]; rfl⟩
  | handle r sub h => exact ⟨_, by rw [perform, Router.handle_of_frozen _ _ _ _ hf]; rfl⟩
  | build ifs a t =>
    cases ha : ListenAddress.parse? ifs a with
    | none => exact ⟨_, by rw [perform, Registry.build_of_invalid _ _ _ _ ha]; rfl⟩
    | some addr => exact ⟨_, by rw [perform, Registry.build_of_frozen _ _ _ _ ha hf]; rfl⟩

theorem apply_of_frozen (c : Call T) {reg : Registry} (hf : reg.frozen = true) :
    c.apply reg = reg := by
  obtain ⟨e, he⟩ := c.perform_of_frozen hf
  simp [apply, he]

/-- 凍結した登録簿は、どの呼び出しの列でも変わらない。 -/
theorem run_of_frozen (cs : List (Call T)) {reg : Registry} (hf : reg.frozen = true) :
    run cs reg = reg := by
  induction cs with
  | nil => rfl
  | cons c cs ih => rw [run_cons, c.apply_of_frozen hf, ih]

/-- 凍結していない登録簿に成功した登録は、その鍵を書く。ほかの鍵は前のまま。 -/
theorem mem_paths_apply {c : Call T} {reg : Registry} {k : String}
    (hk : k ∈ (c.apply reg).table.paths) :
    k ∈ reg.table.paths ∨ (reg.frozen = false ∧ c.key? = some k) := by
  cases hf : reg.frozen
  case true => rw [c.apply_of_frozen hf] at hk; exact .inl hk
  case false =>
    cases c with
    | endpoint r sub m h doc =>
      rcases doc with _ | ⟨reason⟩ | ⟨op⟩
      · simp only [apply, perform, Router.endpoint_of_open _ _ _ _ _ hf, Except.map] at hk
        rcases Table.mem_paths_addEndpoint.mp hk with rfl | hk
        · exact .inr ⟨rfl, rfl⟩
        · exact .inl hk
      · simp only [apply, perform, Router.endpoint_undocumentable _ _ _ _ _ _ hf, Except.map] at hk
        exact .inl hk
      · simp only [apply, perform, Router.endpoint_documented _ _ _ _ _ _ hf, Except.map] at hk
        rcases Table.mem_paths_addEndpoint.mp hk with rfl | hk
        · exact .inr ⟨rfl, rfl⟩
        · exact .inl hk
    | handle r sub h =>
      simp only [apply, perform, Router.handle_of_open _ _ _ _ hf, Except.map] at hk
      rcases Table.mem_paths_addHandler.mp hk with rfl | hk
      · exact .inr ⟨rfl, rfl⟩
      · exact .inl hk
    | build ifs a t =>
      cases ha : ListenAddress.parse? ifs a with
      | none => simp_all [apply, perform, Registry.build_of_invalid _ _ _ _ ha, Except.map]
      | some addr => simp_all [apply, perform, Registry.build_of_open _ _ _ _ ha hf, Except.map]

/-- 列の後の表の鍵は、前からある鍵か、列の中で凍結の前に行った登録の鍵である。 -/
theorem mem_paths_run {cs : List (Call T)} {reg : Registry} {k : String}
    (hk : k ∈ (run cs reg).table.paths) :
    k ∈ reg.table.paths ∨
      ∃ pre c post, cs = pre ++ c :: post ∧ (run pre reg).frozen = false ∧ c.key? = some k := by
  induction cs generalizing reg with
  | nil => exact .inl hk
  | cons c cs ih =>
    rcases ih hk with hk | ⟨pre, d, post, rfl, hf, hd⟩
    · rcases mem_paths_apply hk with hk | ⟨hf, hc⟩
      · exact .inl hk
      · exact .inr ⟨[], c, cs, rfl, hf, hc⟩
    · exact .inr ⟨c :: pre, d, post, rfl, hf, hd⟩

end Call

end HttpRouting
