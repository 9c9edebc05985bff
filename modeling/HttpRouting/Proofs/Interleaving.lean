import HttpRouting.Proofs.Mounts

/-!
# 呼び出しの交錯

router の木への呼び出しは、別々の thread から同時に行える。共有するのは登録簿（経路の表、
文書、凍結の印）だけで、一つの呼び出しは次の不可分な段階に分かれる。

* 経路の登録 — 凍結の印を読み（読めたら説明を作り）、表の区画に書き、文書の区画に書く。
* method を問わない枠への登録 — 凍結の印を読み、表の区画に書く。
* 組み立て — 番地を読み、凍結の印を立て（前の値を得る）、表の鍵を写す。

印の読み書きはそれぞれ不可分で、表と文書はそれぞれの lock の下で書く。表は実際には二段の lock で
守られ、書き込みは二つの区画に分かれるが、その交錯はどれも表の区画を一歩とする交錯で写せる
（`two_lock_writes_refine_atomic`）。説明を作る、処理を包む、
番地を読むといった共有しない計算は、前後の段階に含めてよい。

世界（`World`）は登録簿と、呼び出しごとの thread（呼び出しと段階 `Phase`）と、返った thread の順
（`history`）からなる。スケジュールは次に一歩進める thread を選ぶ列で、どの列も許す
（`Reachable`）。

* `Call.finish_start`、`World.init_run_oneByOne` — 一つずつ返るまで進めると、順に行う呼び出しと
  同じ値と登録簿になる。
* `freeze_is_final` — 組み立てが凍結の印を立てた後に始める呼び出しはすべて誤りで返り、書きかけの
  登録がなければ登録簿はもう変わらない。
-/

namespace HttpRouting

open OpenApi

variable {T : Type}

/-- 呼び出しの返す値。 -/
inductive CallOutcome where
  /-- 登録できた。 -/
  | registered
  /-- server を作った。番地、期限、写した表の鍵。 -/
  | built (address : ListenAddress) (timeouts : Timeouts) (paths : List String)
  /-- 誤り。 -/
  | failed (e : Error)

/-- thread がどこまで進んだか。呼び出しの値は thread が持つ。 -/
inductive Phase where
  /-- まだ何もしていない。 -/
  | start
  /-- 凍結の印を読み終え（説明も作れた）、次は表の区画。 -/
  | writeTable
  /-- 表に書き終え、次は文書の区画。 -/
  | writeDocument
  /-- 組み立てが凍結の印を立てた。次は表の鍵の写し。 -/
  | snapshot (address : ListenAddress)
  /-- 返った。 -/
  | done (o : CallOutcome)

namespace Phase

/-- 返ったか。 -/
def isDone : Phase → Bool
  | .done _ => true
  | _ => false

theorem isDone_iff {ph : Phase} : ph.isDone = true ↔ ∃ o, ph = .done o := by
  cases ph <;> simp [isDone]

/-- 凍結の印を読んだ後で、まだ書き終えていない登録か。 -/
def inFlight : Phase → Bool
  | .writeTable | .writeDocument => true
  | _ => false

end Phase

namespace Call

/-- 凍結した登録簿に対して呼び出しが返す誤り。組み立ては番地を先に読む。 -/
def frozenError : Call T → Error
  | .endpoint r sub m _ _ => .frozen m.name (Path.join r.pathPrefix sub)
  | .handle r sub _ => .frozen Slot.any.name (Path.joinMount r.pathPrefix sub)
  | .build ifs address _ =>
    if (ListenAddress.parse? ifs address).isSome then .alreadyBuilt else .invalidAddress address

/-- 呼び出しの段階を一つ進める。返った thread と、どの呼び出しも行き着かない組は変わらない。 -/
def step : Call T → Phase → Registry → Phase × Registry
  | .endpoint r sub m _ doc, .start, reg =>
    if reg.frozen then (.done (.failed (.frozen m.name (Path.join r.pathPrefix sub))), reg)
    else
      match doc with
      | some (.error reason) =>
        (.done (.failed (.documentation m.name (Path.join r.pathPrefix sub) reason)), reg)
      | _ => (.writeTable, reg)
  | .handle r sub _, .start, reg =>
    if reg.frozen then (.done (.failed (.frozen Slot.any.name (Path.joinMount r.pathPrefix sub))), reg)
    else (.writeTable, reg)
  | .build ifs address _, .start, reg =>
    match ListenAddress.parse? ifs address with
    | none => (.done (.failed (.invalidAddress address)), reg)
    | some a =>
      if reg.frozen then (.done (.failed .alreadyBuilt), reg)
      else (.snapshot a, { reg with frozen := true })
  | .endpoint r sub m h doc, .writeTable, reg =>
    let key := Path.join r.pathPrefix sub
    (match doc with
      | some (.ok _) => .writeDocument
      | _ => .done .registered,
     { reg with table := reg.table.addEndpoint key (.exact m) (r.wrap m key h) r.allowedHeaders })
  | .endpoint r sub m _ (some (.ok op)), .writeDocument, reg =>
    (.done .registered, { reg with
      document := (reg.document.merge (Path.join r.pathPrefix sub) m
        { op with parameters := op.parameters ++ r.defaultParameters }).1 })
  | .handle r sub h, .writeTable, reg =>
    (.done .registered, { reg with table := reg.table.addHandler (Path.joinMount r.pathPrefix sub) .any h })
  | .build _ _ timeouts, .snapshot a, reg =>
    (.done (.built a (timeouts.getD {}).normalized reg.table.paths), reg)
  | _, ph, reg => (ph, reg)

/-! ## 一歩でできること

どの不変条件も、次の補題から導く。一歩が登録簿のどこを書きうるかを、段階ごとに一度だけ言う。 -/

variable {c : Call T} {ph : Phase} {reg : Registry}

@[simp] theorem step_done (c : Call T) (o : CallOutcome) (reg : Registry) :
    c.step (.done o) reg = (.done o, reg) := by
  cases c <;> rfl

/-- 凍結した登録簿では、始めた呼び出しは登録簿を変えずに誤りで返る。 -/
theorem step_start_of_frozen (c : Call T) (hf : reg.frozen = true) :
    c.step .start reg = (.done (.failed c.frozenError), reg) := by
  cases c with
  | endpoint r sub m h doc => simp [step, hf, frozenError]
  | handle r sub h => simp [step, hf, frozenError]
  | build ifs address timeouts =>
    cases ha : ListenAddress.parse? ifs address <;> simp [step, ha, hf, frozenError]

/-- 始めの一歩は、登録簿を変えずに表の区画に進むか誤りで返るか、組み立てが凍結の印を立てて写しの
段階に入るか。 -/
theorem step_start (c : Call T) (reg : Registry) :
    ((c.step .start reg).2 = reg ∧
        ((c.step .start reg).1 = .writeTable ∨ ∃ e, (c.step .start reg).1 = .done (.failed e))) ∨
      ∃ a, c.step .start reg = (.snapshot a, { reg with frozen := true }) := by
  cases c with
  | endpoint r sub m h doc =>
    simp only [step]
    split
    · exact .inl ⟨rfl, .inr ⟨_, rfl⟩⟩
    · split
      · exact .inl ⟨rfl, .inr ⟨_, rfl⟩⟩
      · exact .inl ⟨rfl, .inl rfl⟩
  | handle r sub h =>
    simp only [step]
    split
    · exact .inl ⟨rfl, .inr ⟨_, rfl⟩⟩
    · exact .inl ⟨rfl, .inl rfl⟩
  | build ifs address timeouts =>
    simp only [step]
    split
    · exact .inl ⟨rfl, .inr ⟨_, rfl⟩⟩
    · split
      · exact .inl ⟨rfl, .inr ⟨_, rfl⟩⟩
      · exact .inr ⟨_, rfl⟩

/-- 表の区画の一歩は凍結の印を変えず、文書の区画に進むか登録して返る（組み立てに表の区画はなく、
段階はそのまま）。 -/
theorem step_writeTable (c : Call T) (reg : Registry) :
    (c.step .writeTable reg).2.frozen = reg.frozen ∧
      ((c.step .writeTable reg).1 = .done .registered ∨ (c.step .writeTable reg).1.inFlight = true) := by
  cases c with
  | endpoint r sub m h doc =>
    refine ⟨rfl, ?_⟩
    simp only [step]
    split
    · exact .inr rfl
    · exact .inl rfl
  | handle r sub h => exact ⟨rfl, .inl rfl⟩
  | build ifs address timeouts => exact ⟨rfl, .inr rfl⟩

/-- 文書の区画の一歩は凍結の印を変えず、登録して返るか段階はそのまま。 -/
theorem step_writeDocument (c : Call T) (reg : Registry) :
    (c.step .writeDocument reg).2.frozen = reg.frozen ∧
      ((c.step .writeDocument reg).1 = .done .registered ∨
        (c.step .writeDocument reg).1 = .writeDocument) := by
  cases c with
  | endpoint r sub m h doc =>
    rcases doc with _ | (reason | op)
    · exact ⟨rfl, .inr rfl⟩
    · exact ⟨rfl, .inr rfl⟩
    · exact ⟨rfl, .inl rfl⟩
  | handle r sub h => exact ⟨rfl, .inr rfl⟩
  | build ifs address timeouts => exact ⟨rfl, .inr rfl⟩

/-- 写しの段階は、登録簿を変えずに、その時の表の鍵を返す。 -/
theorem step_snapshot (c : Call T) (a : ListenAddress) (reg : Registry) :
    c.step (.snapshot a) reg = (.snapshot a, reg) ∨
      ∃ t, c.step (.snapshot a) reg = (.done (.built a t reg.table.paths), reg) := by
  cases c with
  | endpoint r sub m h doc => rcases doc with _ | (reason | op) <;> exact .inl rfl
  | handle r sub h => exact .inl rfl
  | build ifs address timeouts => exact .inr ⟨_, rfl⟩

/-- 凍結の印は下りない。 -/
theorem frozen_step (hf : reg.frozen = true) : (c.step ph reg).2.frozen = true := by
  cases ph with
  | start =>
    -- 始めの一歩が書くのは凍結の印だけで、それを立てる
    rcases step_start c reg with ⟨h, -⟩ | ⟨a, h⟩
    · rw [h]; exact hf
    · rw [h]
  | writeTable => rw [(step_writeTable c reg).1]; exact hf
  | writeDocument => rw [(step_writeDocument c reg).1]; exact hf
  | snapshot a =>
    rcases step_snapshot c a reg with h | ⟨t, h⟩
    · rw [h]; exact hf
    · rw [h]; exact hf
  | done o => rw [step_done]; exact hf

/-- 凍結した後は、書きかけの登録のほかに登録簿を書く段階はなく、書きかけの登録も新しく生まれない。 -/
theorem step_of_frozen (hf : reg.frozen = true) (hph : ph.inFlight = false) :
    (c.step ph reg).2 = reg ∧ (c.step ph reg).1.inFlight = false := by
  cases ph with
  | start => rw [step_start_of_frozen c hf]; exact ⟨rfl, rfl⟩
  | writeTable | writeDocument => simp [Phase.inFlight] at hph
  | snapshot a =>
    rcases step_snapshot c a reg with h | ⟨t, h⟩
    · rw [h]; exact ⟨rfl, rfl⟩
    · rw [h]; exact ⟨rfl, rfl⟩
  | done o => rw [step_done]; exact ⟨rfl, rfl⟩

/-- 誤りで返る一歩は登録簿を変えない。 -/
theorem step_of_failed {e : Error} (hph : ph.isDone = false)
    (he : (c.step ph reg).1 = .done (.failed e)) : (c.step ph reg).2 = reg := by
  cases ph with
  | start =>
    -- 誤りで返る始めの一歩は、凍結の印を立てる一歩ではない
    rcases step_start c reg with ⟨h, -⟩ | ⟨a, h⟩
    · exact h
    · rw [h] at he; cases he
  | writeTable =>
    -- 書く区画は誤りで返らない
    rcases (step_writeTable c reg).2 with h | h
    · rw [h] at he; cases he
    · rw [he] at h; simp [Phase.inFlight] at h
  | writeDocument =>
    rcases (step_writeDocument c reg).2 with h | h
    · rw [h] at he; cases he
    · rw [h] at he; cases he
  | snapshot a =>
    rcases step_snapshot c a reg with h | ⟨t, h⟩
    · rw [h]
    · rw [h]
  | done o => simp [Phase.isDone] at hph

/-- 写しの段階に入るのは、凍結の印を立てた一歩だけ。 -/
theorem step_eq_snapshot {a : ListenAddress} (h : (c.step ph reg).1 = .snapshot a) :
    ph = .snapshot a ∨ (c.step ph reg).2.frozen = true := by
  cases ph with
  | start =>
    rcases step_start c reg with ⟨-, hs | ⟨e, hs⟩⟩ | ⟨b, hs⟩
    · rw [hs] at h; cases h
    · rw [hs] at h; cases h
    · rw [hs]; exact .inr rfl
  | writeTable =>
    rcases (step_writeTable c reg).2 with hs | hs
    · rw [hs] at h; cases h
    · rw [h] at hs; simp [Phase.inFlight] at hs
  | writeDocument =>
    rcases (step_writeDocument c reg).2 with hs | hs
    · rw [hs] at h; cases h
    · rw [hs] at h; cases h
  | snapshot b =>
    -- 写しの段階に留まるなら、写す番地は変わらない
    rcases step_snapshot c b reg with hs | ⟨t, hs⟩
    · rw [hs] at h; cases h; exact .inl rfl
    · rw [hs] at h; cases h
  | done o => rw [step_done] at h; cases h

end Call

/-- 登録簿と、呼び出しごとの thread と、返った thread の順。 -/
structure World (T : Type) where
  registry : Registry
  threads : List (Call T × Phase)
  history : List Nat := []

namespace World

/-- 呼び出しをそれぞれ一つの thread で始める。 -/
def init (reg : Registry) (calls : List (Call T)) : World T :=
  { registry := reg, threads := calls.map fun c => (c, .start) }

/-- thread `i` を一歩進める。返ったなら `history` に足す。 -/
def step (w : World T) (i : Nat) : World T :=
  match w.threads[i]? with
  | none => w
  | some (c, ph) =>
    if ph.isDone then w
    else
      { registry := (c.step ph w.registry).2
        threads := w.threads.set i (c, (c.step ph w.registry).1)
        history := if (c.step ph w.registry).1.isDone then w.history ++ [i] else w.history }

/-- スケジュールのとおりに進める。 -/
def run (w : World T) : List Nat → World T
  | [] => w
  | i :: is => (w.step i).run is

/-- 凍結の印を読んだ後で書き終えていない登録がない。 -/
def Quiet (w : World T) : Prop :=
  ∀ (j : Nat) (c : Call T) (ph : Phase), w.threads[j]? = some (c, ph) → ph.inFlight = false

/-! ## 一つの thread を進める

`step` は選んだ thread と登録簿だけを書く。返った thread を選ぶと何も起きないが、`Call.step` も
返った段階を変えないので、登録簿と選んだ thread についての式は返ったかどうかで分けずに書ける。 -/

variable {w : World T} {i j : Nat} {c : Call T} {ph : Phase}

theorem step_of_getElem?_eq_none (hi : w.threads[i]? = none) : w.step i = w := by
  simp [step, hi]

theorem step_of_isDone (hi : w.threads[i]? = some (c, ph)) (hd : ph.isDone = true) :
    w.step i = w := by
  simp [step, hi, hd]

theorem registry_step (hi : w.threads[i]? = some (c, ph)) :
    (w.step i).registry = (c.step ph w.registry).2 := by
  cases ph with
  | done o => simp [step, hi, Phase.isDone]
  | _ => simp [step, hi, Phase.isDone]

theorem getElem?_threads_step_self (hi : w.threads[i]? = some (c, ph)) :
    (w.step i).threads[i]? = some (c, (c.step ph w.registry).1) := by
  have hlt : i < w.threads.length := (List.getElem?_eq_some_iff.mp hi).1
  cases ph with
  | done o => simp [step, hi, Phase.isDone]
  | _ =>
    simp only [step, hi, Phase.isDone, Bool.false_eq_true, if_false]
    exact List.getElem?_set_self hlt

theorem getElem?_threads_step_of_ne (hji : j ≠ i) : (w.step i).threads[j]? = w.threads[j]? := by
  unfold step
  split
  · rfl
  · split
    · rfl
    · exact List.getElem?_set_ne (Ne.symm hji)

theorem history_step (hi : w.threads[i]? = some (c, ph)) :
    (w.step i).history =
      if ph.isDone = false ∧ (c.step ph w.registry).1.isDone = true then w.history ++ [i]
      else w.history := by
  cases hd : ph.isDone
  · simp [step, hi, hd]
  · simp [step, hi, hd]

/-! ## 凍結した後

凍結の印が立った後は、始める呼び出しはすべて誤りで返る。書きかけの登録がなければ、登録簿はもう
変わらない。 -/

theorem frozen_step (hf : w.registry.frozen = true) (i : Nat) :
    (w.step i).registry.frozen = true := by
  cases hi : w.threads[i]? with
  | none => rw [step_of_getElem?_eq_none hi]; exact hf
  | some x =>
    obtain ⟨c, ph⟩ := x
    rw [registry_step hi]
    exact Call.frozen_step hf

theorem frozen_run (hf : w.registry.frozen = true) (is : List Nat) :
    (w.run is).registry.frozen = true := by
  induction is generalizing w with
  | nil => exact hf
  | cons i is ih => exact ih (frozen_step hf i)

/-- 凍結した後では、始めていない呼び出しは、そのままか `frozenError` で返ったかのどちらか。 -/
theorem start_of_frozen_step (hf : w.registry.frozen = true)
    (hj : w.threads[j]? = some (c, .start) ∨ w.threads[j]? = some (c, .done (.failed c.frozenError)))
    (i : Nat) :
    (w.step i).threads[j]? = some (c, .start) ∨
      (w.step i).threads[j]? = some (c, .done (.failed c.frozenError)) := by
  by_cases hji : j = i
  · subst hji
    right
    rcases hj with hj | hj
    · rw [getElem?_threads_step_self hj, Call.step_start_of_frozen c hf]
    · rw [getElem?_threads_step_self hj, Call.step_done]
  · rw [getElem?_threads_step_of_ne hji]
    exact hj

theorem start_of_frozen_run (hf : w.registry.frozen = true)
    (hj : w.threads[j]? = some (c, .start) ∨ w.threads[j]? = some (c, .done (.failed c.frozenError)))
    (is : List Nat) :
    (w.run is).threads[j]? = some (c, .start) ∨
      (w.run is).threads[j]? = some (c, .done (.failed c.frozenError)) := by
  induction is generalizing w with
  | nil => exact hj
  | cons i is ih => exact ih (frozen_step hf i) (start_of_frozen_step hf hj i)

/-- 凍結して書きかけの登録がない世界では、一歩は登録簿を変えず、書きかけの登録も生まれない。 -/
theorem step_of_quiet (hf : w.registry.frozen = true) (hq : w.Quiet) (i : Nat) :
    (w.step i).registry = w.registry ∧ (w.step i).Quiet := by
  cases hi : w.threads[i]? with
  | none => rw [step_of_getElem?_eq_none hi]; exact ⟨rfl, hq⟩
  | some x =>
    obtain ⟨c, ph⟩ := x
    obtain ⟨hreg, hfl⟩ := Call.step_of_frozen hf (hq i c ph hi)
    refine ⟨(registry_step hi).trans hreg, ?_⟩
    intro j c' ph' hj
    by_cases hji : j = i
    · subst hji
      rw [getElem?_threads_step_self hi, Option.some.injEq, Prod.mk.injEq] at hj
      rw [← hj.2]
      exact hfl
    · rw [getElem?_threads_step_of_ne hji] at hj
      exact hq j c' ph' hj

theorem run_of_quiet (hf : w.registry.frozen = true) (hq : w.Quiet) (is : List Nat) :
    (w.run is).registry = w.registry ∧ (w.run is).Quiet := by
  induction is generalizing w with
  | nil => exact ⟨rfl, hq⟩
  | cons i is ih =>
    obtain ⟨hreg, hq'⟩ := step_of_quiet hf hq i
    obtain ⟨hreg', hq''⟩ := ih (frozen_step hf i) hq'
    exact ⟨hreg'.trans hreg, hq''⟩

/-- 凍結して書きかけの登録がない世界では、写しを待つ組み立ては、今の表の鍵 `paths` を写して返る。 -/
theorem snapshot_of_quiet_run {a : ListenAddress} {paths : List String}
    (hf : w.registry.frozen = true) (hq : w.Quiet) (hpaths : w.registry.table.paths = paths)
    (hi : w.threads[i]? = some (c, .snapshot a) ∨
      ∃ t, w.threads[i]? = some (c, .done (.built a t paths)))
    (is : List Nat) :
    (w.run is).threads[i]? = some (c, .snapshot a) ∨
      ∃ t, (w.run is).threads[i]? = some (c, .done (.built a t paths)) := by
  induction is generalizing w with
  | nil => exact hi
  | cons k is ih =>
    obtain ⟨hreg, hq'⟩ := step_of_quiet hf hq k
    refine ih (frozen_step hf k) hq' (hreg ▸ hpaths) ?_
    by_cases hik : i = k
    · subst hik
      rcases hi with hi | ⟨t, hi⟩
      · rw [getElem?_threads_step_self hi]
        rcases Call.step_snapshot c a w.registry with h | ⟨t, h⟩
        · exact .inl (by rw [h])
        · exact .inr ⟨t, by rw [h, hpaths]⟩
      · exact .inr ⟨t, by rw [getElem?_threads_step_self hi, Call.step_done]⟩
    · rw [getElem?_threads_step_of_ne hik]
      exact hi

end World

/-- 根の router を作ったときの登録簿から、どのスケジュールでも届く世界。 -/
inductive Reachable : World T → Prop
  | init {c : RouterConfig T} {doc : OpenApi.Config} {r : Router T} {reg : Registry}
      (hroot : Router.root c doc = .ok (r, reg)) (calls : List (Call T)) :
      Reachable (World.init reg calls)
  | step {w : World T} (hw : Reachable w) (i : Nat) : Reachable (w.step i)

theorem Reachable.run {w : World T} (hw : Reachable w) (is : List Nat) : Reachable (w.run is) := by
  induction is generalizing w with
  | nil => exact hw
  | cons i is ih => exact ih (hw.step i)

/-- 写しを待つ組み立てがあれば、凍結の印は立っている。 -/
theorem Reachable.frozen_of_snapshot {w : World T} (hw : Reachable w) {i : Nat} {c : Call T}
    {a : ListenAddress} (hi : w.threads[i]? = some (c, .snapshot a)) : w.registry.frozen = true := by
  induction hw generalizing i c a with
  | init hroot calls => simp [World.init] at hi
  | @step w hw k ih =>
    cases hk : w.threads[k]? with
    | none =>
      rw [World.step_of_getElem?_eq_none hk] at hi ⊢
      exact ih hi
    | some x =>
      obtain ⟨c', ph⟩ := x
      by_cases hik : i = k
      · subst hik
        rw [World.getElem?_threads_step_self hk, Option.some.injEq, Prod.mk.injEq] at hi
        obtain ⟨rfl, hs⟩ := hi
        rw [World.registry_step hk]
        rcases Call.step_eq_snapshot hs with rfl | hf
        · exact Call.frozen_step (ih hk)
        · exact hf
      · rw [World.getElem?_threads_step_of_ne hik] at hi
        exact World.frozen_step (ih hi) k

/-! ## 一つずつ行うとき

一つの thread を返るまで進めてから次へ移るスケジュールでは、どの thread も順に行った呼び出し
（`Call.perform`）と同じ値を返し、世界は順に行った後の登録簿（`Call.run`）をたどる。段階への
分け方は、一度に行う計算を分けたものにすぎない。 -/

/-- 順に行った呼び出しの結果を、thread の返す値にする。 -/
def CallOutcome.ofResult : Except Error (Option Server × Registry) → CallOutcome
  | .ok (none, _) => .registered
  | .ok (some s, _) => .built s.address s.timeouts s.table.paths
  | .error e => .failed e

namespace Call

/-- 段階を三歩進める。 -/
def finish (c : Call T) (ph : Phase) (reg : Registry) : Phase × Registry :=
  let s := c.step ph reg
  let s' := c.step s.1 s.2
  c.step s'.1 s'.2

/-- 始めた呼び出しは三歩のうちに返り、順に行う呼び出しと同じ値と登録簿になる。 -/
theorem finish_start (c : Call T) (reg : Registry) :
    c.finish .start reg = (.done (CallOutcome.ofResult (c.perform reg)), c.apply reg) := by
  cases c with
  | endpoint r sub m h doc =>
    cases hf : reg.frozen
    · rcases doc with _ | (reason | op)
      · simp [finish, step, hf, apply, perform, Except.map, Router.endpoint_of_open r reg sub m h hf,
          CallOutcome.ofResult]
      · simp [finish, step, hf, apply, perform, Except.map,
          Router.endpoint_undocumentable r reg sub m h reason hf, CallOutcome.ofResult]
      · simp [finish, step, hf, apply, perform, Except.map, Router.endpoint_documented r reg sub m h op hf,
          CallOutcome.ofResult]
    · simp [finish, step, hf, apply, perform, Except.map, Router.endpoint_of_frozen r reg sub m h doc hf,
        CallOutcome.ofResult]
  | handle r sub h =>
    cases hf : reg.frozen
    · simp [finish, step, hf, apply, perform, Except.map, Router.handle_of_open r reg sub h hf,
        CallOutcome.ofResult]
    · simp [finish, step, hf, apply, perform, Except.map, Router.handle_of_frozen r reg sub h hf,
        CallOutcome.ofResult]
  | build ifs address timeouts =>
    cases ha : ListenAddress.parse? ifs address with
    | none =>
      simp [finish, step, ha, apply, perform, Except.map, Registry.build_of_invalid reg ifs address timeouts ha,
        CallOutcome.ofResult]
    | some a =>
      cases hf : reg.frozen
      · simp [finish, step, ha, hf, apply, perform, Except.map,
          Registry.build_of_open reg ifs address timeouts ha hf, CallOutcome.ofResult]
      · simp [finish, step, ha, hf, apply, perform, Except.map,
          Registry.build_of_frozen reg ifs address timeouts ha hf, CallOutcome.ofResult]

end Call

namespace World

variable {w : World T} {k : Nat} {c : Call T} {ph : Phase}

theorem run_append (w : World T) (is js : List Nat) : w.run (is ++ js) = (w.run is).run js := by
  induction is generalizing w with
  | nil => rfl
  | cons i is ih => exact ih (w.step i)

/-- 一つの thread を三歩進めると、その thread と登録簿は `Call.finish` のとおりになり、ほかの
thread は変わらない。 -/
theorem run_thrice (hk : w.threads[k]? = some (c, ph)) :
    (w.run [k, k, k]).registry = (c.finish ph w.registry).2 ∧
      (w.run [k, k, k]).threads[k]? = some (c, (c.finish ph w.registry).1) ∧
      ∀ j, j ≠ k → (w.run [k, k, k]).threads[j]? = w.threads[j]? := by
  have h1 := getElem?_threads_step_self hk
  have h2 := getElem?_threads_step_self h1
  have hreg1 := registry_step hk
  have hreg2 := registry_step h1
  refine ⟨?_, ?_, ?_⟩
  · show (((w.step k).step k).step k).registry = _
    rw [registry_step h2, hreg2, hreg1]
    rfl
  · show (((w.step k).step k).step k).threads[k]? = _
    rw [getElem?_threads_step_self h2, hreg2, hreg1]
    rfl
  · intro j hj
    show (((w.step k).step k).step k).threads[j]? = _
    rw [getElem?_threads_step_of_ne hj, getElem?_threads_step_of_ne hj,
      getElem?_threads_step_of_ne hj]

/-- thread `k` から順に、一つずつ三歩ずつ進めるスケジュール。 -/
def oneByOne (k n : Nat) : List Nat := (List.range' k n).flatMap fun i => [i, i, i]

theorem run_oneByOne (cs : List (Call T))
    (hcs : ∀ (j : Nat) (c : Call T), cs[j]? = some c → w.threads[k + j]? = some (c, .start)) :
    (w.run (oneByOne k cs.length)).registry = Call.run cs w.registry := by
  induction cs generalizing w k with
  | nil => rfl
  | cons c cs ih =>
    have hk : w.threads[k]? = some (c, .start) := hcs 0 c rfl
    obtain ⟨hreg, -, hother⟩ := run_thrice hk
    have hsched : oneByOne k (c :: cs).length = [k, k, k] ++ oneByOne (k + 1) cs.length := rfl
    rw [hsched, run_append]
    refine (ih ?_).trans ?_
    · intro j c' hj
      have h := hcs (j + 1) c' hj
      rw [hother (k + 1 + j) (by omega)]
      rwa [show k + (j + 1) = k + 1 + j by omega] at h
    · rw [hreg, Call.finish_start]
      rfl

/-- 呼び出しを一つずつ返るまで進めると、登録簿は順に行った呼び出しの後のものになる。 -/
theorem init_run_oneByOne (reg : Registry) (cs : List (Call T)) :
    ((World.init reg cs).run (oneByOne 0 cs.length)).registry = Call.run cs reg :=
  run_oneByOne cs fun j c hj => by simp [World.init, hj]

end World

/-! ## 凍結の契約

組み立ては番地を先に読むので、凍結した後の組み立ては、番地が読めなければ番地の誤りで返る。
凍結の印を読んだ後で書きかけの登録は、印が立った後でも表と文書に書く。そうした登録がなければ、
登録簿はもう変わらない。 -/

/-- 誤りで返る一歩は登録簿を変えない。組み立てが凍結の印を立てた後は、どのスケジュールでも印は
立ったままで、その後に始める呼び出しは `frozenError` で返る。印を立てたときに書きかけの登録が
なければ、登録簿はもう変わらず、組み立てが写した鍵は表の鍵に等しい。 -/
theorem freeze_is_final {w : World T} (hw : Reachable w) :
    (∀ (j : Nat) (c : Call T) (ph : Phase) (e : Error), w.threads[j]? = some (c, ph) →
        ph.isDone = false → (w.step j).threads[j]? = some (c, .done (.failed e)) →
          (w.step j).registry = w.registry) ∧
    ∀ (i : Nat) (c : Call T) (a : ListenAddress), w.threads[i]? = some (c, .snapshot a) →
      ∀ is : List Nat,
      (w.run is).registry.frozen = true ∧
      (∀ (j : Nat) (c' : Call T), w.threads[j]? = some (c', .start) → ∀ o : CallOutcome,
          (w.run is).threads[j]? = some (c', .done o) → o = .failed c'.frozenError) ∧
      (w.Quiet → (w.run is).registry = w.registry ∧
        ∀ (t : Timeouts) (paths : List String),
          (w.run is).threads[i]? = some (c, .done (.built a t paths)) →
          paths = (w.run is).registry.table.paths) := by
  refine ⟨?_, ?_⟩
  · intro j c ph e hj hd he
    rw [World.getElem?_threads_step_self hj, Option.some.injEq, Prod.mk.injEq] at he
    rw [World.registry_step hj]
    exact Call.step_of_failed hd he.2
  · intro i c a hi is
    have hf := hw.frozen_of_snapshot hi
    refine ⟨World.frozen_run hf is, ?_, ?_⟩
    · intro j c' hj o ho
      rcases World.start_of_frozen_run hf (.inl hj) is with h | h
      · simp [ho] at h
      · simpa [ho] using h
    · intro hq
      obtain ⟨hreg, -⟩ := World.run_of_quiet hf hq is
      refine ⟨hreg, fun t paths ht => ?_⟩
      rw [hreg]
      -- 写しは印を立てた世界の表の鍵で、その後の表も同じ
      rcases World.snapshot_of_quiet_run hf hq rfl (.inl hi) is with h | ⟨t', h⟩
      · simp [ht] at h
      · simp only [ht, Option.some.injEq, Prod.mk.injEq, Phase.done.injEq,
          CallOutcome.built.injEq] at h
        exact h.2.2.2

/-- `slashRegistry` の木で組み立てと経路の登録を一つずつ始め、組み立てが印を立てたところ。 -/
def swappedWorld : World Handler :=
  (World.init slashRegistry
    [.build [] ":0" none, .endpoint slashRouter "users" Method.get okHandler none]).run [0]

theorem freeze_is_final_after_first_swap :
    Reachable swappedWorld ∧ swappedWorld.Quiet ∧
      (swappedWorld.run [1, 0]).registry = swappedWorld.registry ∧
      ∀ o : CallOutcome, (swappedWorld.run [1, 0]).threads[1]? =
        some (.endpoint slashRouter "users" Method.get okHandler none, .done o) →
          o = .failed (.frozen "GET" "/users") := by
  have hw : Reachable swappedWorld := (Reachable.init root_slash _).run [0]
  have ht : swappedWorld.threads =
      [(.build [] ":0" none, .snapshot (.v4 [0, 0, 0, 0] 0)),
       (.endpoint slashRouter "users" Method.get okHandler none, .start)] := rfl
  have hq : swappedWorld.Quiet := by
    intro j c ph h
    rw [ht] at h
    rcases j with _ | _ | j <;> simp at h
    · rw [← h.2]; rfl
    · rw [← h.2]; rfl
  obtain ⟨-, hstart, hquiet⟩ :=
    (freeze_is_final hw).2 0 (.build [] ":0" none) (.v4 [0, 0, 0, 0] 0) (by rw [ht]; rfl) [1, 0]
  exact ⟨hw, hq, (hquiet hq).1, fun o ho => (hstart 1 _ (by rw [ht]; rfl) o ho).trans rfl⟩

/-- 組み立てを二つ始め、一つ目を最後まで進めてから、読めない番地の二つ目を進めた世界。 -/
def rebuildWorld : World Handler :=
  (World.init slashRegistry [.build [] ":0" none, .build [] "" none]).run [0, 0, 1]

/-- 組み立てた後でも、読めない番地の組み立ては `alreadyBuilt` でなく番地の誤りで返る。 -/
theorem rebuild_reports_unreadable_address :
    Reachable rebuildWorld ∧
      rebuildWorld.threads[0]? =
        some (.build [] ":0" none, .done (.built (.v4 [0, 0, 0, 0] 0) {} [])) ∧
      rebuildWorld.threads[1]? = some (.build [] "" none, .done (.failed (.invalidAddress ""))) :=
  ⟨(Reachable.init root_slash _).run _, rfl, rfl⟩

/-- 経路の登録が凍結の印を読み、その後で組み立てが印を立てて返ったところ。 -/
def lateWriteWorld : World Handler :=
  (World.init slashRegistry
    [.endpoint slashRouter "users" Method.get okHandler none, .build [] ":0" none]).run [0, 1, 1]

/-- 印を立てたときに書きかけの登録があれば、組み立てが返った後でも表は変わり、組み立てが写した鍵は
その後の表の鍵と違う。 -/
theorem registration_lands_after_build :
    Reachable lateWriteWorld ∧ lateWriteWorld.registry.frozen = true ∧
      lateWriteWorld.threads[1]? =
        some (.build [] ":0" none, .done (.built (.v4 [0, 0, 0, 0] 0) {} [])) ∧
      lateWriteWorld.threads[0]? =
        some (.endpoint slashRouter "users" Method.get okHandler none, .writeTable) ∧
      (lateWriteWorld.step 0).threads[0]? =
        some (.endpoint slashRouter "users" Method.get okHandler none, .done .registered) ∧
      (lateWriteWorld.step 0).registry.table.paths = ["/users"] :=
  ⟨(Reachable.init root_slash _).run _, rfl, rfl, rfl, rfl, rfl⟩

end HttpRouting
