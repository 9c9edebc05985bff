import HttpRouting.Proofs.WriteLog
import HttpRouting.Proofs.TableLinearizable

/-!
# 表の書き込みを一歩と見てよいこと

呼び出しの交錯（`World`）では、登録の表の区画を一歩で行う。実際の表は二段の lock で守られ、
書き込みは、外側の read lock の下で中身を探す区画と、中身の write lock（見つからなければ外側の
write lock）の下で書く区画の二つに分かれる（`TableWorld`）。ここでは、二段の lock の交錯はどれも、
表の区画を一歩で行う交錯のどれかで写せることを示す。

凍結の印を読み終えた登録の thread の表の書き込みを、二段の lock の呼び出しとして進める。関係
`TableSim` は次のことを言う。

* 二段の lock の呼び出しは、各 thread の登録の表の書き込み。
* 見える表は登録簿の表。
* 返っていない呼び出しの thread は表の区画の前にあり、返った呼び出しの thread は表に書き終えている。

中身を探すだけの区画は交錯で何もしない一歩に、返る区画はその thread の表の区画に当たる
（`TableSim.step`）。だから、どのスケジュールも、返らない区画を除いたスケジュールで写せる
（`TableSim.run`、`two_lock_writes_refine_atomic`）。
-/

namespace HttpRouting

variable {T : Type}

/-- 登録の thread の表の区画を、二段の lock の書き込みの呼び出しとして見る。 -/
def Call.tableCall? (c : Call T) : Option TableCall := c.tableWrite?.map .write

/-- 二段の lock の世界 `tw` を、表の区画を一歩で行う世界 `w` が写す。 -/
structure TableSim (tw : TableWorld) (w : World T) : Prop where
  /-- どの thread も登録。 -/
  registers : ∀ (i : Nat) (c : Call T) (ph : Phase), w.threads[i]? = some (c, ph) → c.registers = true
  /-- 二段の lock の呼び出しは、thread の登録の表の書き込み。 -/
  calls : ∀ i : Nat, tw.calls[i]? = w.threads[i]?.bind fun x : Call T × Phase => x.1.tableCall?
  /-- 見える表は登録簿の表。 -/
  table : tw.shared.view = w.registry.table
  /-- 返っていない呼び出しの thread は、表の区画の前にある。 -/
  running : ∀ (i : Nat) (c : Call T) (ph : Phase), w.threads[i]? = some (c, ph) →
    (tw.phase i).isDone = false → ph = .writeTable
  /-- 返った呼び出しの thread は、表に書き終えている。 -/
  wrote : ∀ (i : Nat) (c : Call T) (ph : Phase), w.threads[i]? = some (c, ph) →
    (tw.phase i).isDone = true → ph.wroteTable = true

namespace TableSim

variable {tw : TableWorld} {w : World T} {i : Nat} {tcs : List TableCall}

/-- 表が空で、どの thread も凍結の印を読み終えた登録なら、その書き込みを二段の lock で始めた世界を
写す。 -/
theorem init
    (hw : ∀ (i : Nat) (c : Call T) (ph : Phase), w.threads[i]? = some (c, ph) →
      c.registers = true ∧ ph = .writeTable)
    (hcalls : ∀ i : Nat, tcs[i]? = w.threads[i]?.bind fun x : Call T × Phase => x.1.tableCall?)
    (ht : w.registry.table = []) :
    TableSim (TableWorld.init tcs) w where
  registers i c ph hi := (hw i c ph hi).1
  calls := hcalls
  table := by rw [ht]; rfl
  running i c ph hi _ := (hw i c ph hi).2
  wrote i c ph hi hd := by simp [TableWorld.init, TablePhase.isDone] at hd

/-- 中身を探すだけの区画：二段の lock の thread の段階だけが変わり、交錯では何もしない。 -/
theorem internal (h : TableSim tw w) (hph : (tw.phase i).isDone = false) {ph' : TablePhase}
    (hph' : ph'.isDone = false) : TableSim { tw with phase := Function.update tw.phase i ph' } w where
  registers := h.registers
  calls := h.calls
  table := h.table
  running j c ph hj hd := by
    by_cases hji : j = i
    · subst hji
      exact h.running j c ph hj hph
    · simp only [Function.update_of_ne hji] at hd
      exact h.running j c ph hj hd
  wrote j c ph hj hd := by
    by_cases hji : j = i
    · subst hji
      simp [hph'] at hd
    · simp only [Function.update_of_ne hji] at hd
      exact h.wrote j c ph hj hd

/-- 返る区画：二段の lock の thread は返り、交錯ではその thread が表の区画を一歩で行う。 -/
theorem complete (h : TableSim tw w) {c : Call T} {wr : TableWrite}
    (hi : w.threads[i]? = some (c, .writeTable)) (hwr : c.tableWrite? = some wr)
    {st' : SharedTable} (hview : st'.view = wr.apply tw.shared.view) (o : TableOutcome) (hist : List Nat) :
    TableSim { tw with shared := st', phase := Function.update tw.phase i (.done o), history := hist }
      (w.step i) := by
  -- 交錯の一歩は、表に同じ書き込みを行い、thread を表に書き終えた段階に進める
  obtain ⟨wr', hwr', hstep⟩ := Call.step_writeTable_of_registers w.registry (h.registers i c _ hi)
  rw [hwr] at hwr'
  cases hwr'
  refine ⟨fun j c' ph hj => ?_, fun j => ?_, ?_, fun j c' ph hj hd => ?_, fun j c' ph hj hd => ?_⟩
  · by_cases hji : j = i
    · subst hji
      rw [World.getElem?_threads_step_self hi] at hj
      cases hj
      exact h.registers j c _ hi
    · rw [World.getElem?_threads_step_of_ne hji] at hj
      exact h.registers j c' ph hj
  · by_cases hji : j = i
    · subst hji
      rw [World.getElem?_threads_step_self hi]
      exact (h.calls j).trans (by rw [hi]; rfl)
    · rw [World.getElem?_threads_step_of_ne hji]
      exact h.calls j
  · rw [World.registry_step hi, hstep]
    exact hview.trans (congrArg wr.apply h.table)
  · by_cases hji : j = i
    · subst hji
      simp [TablePhase.isDone] at hd
    · rw [World.getElem?_threads_step_of_ne hji] at hj
      simp only [Function.update_of_ne hji] at hd
      exact h.running j c' ph hj hd
  · by_cases hji : j = i
    · subst hji
      rw [World.getElem?_threads_step_self hi, hstep] at hj
      cases hj
      split
      · rfl
      · rfl
    · rw [World.getElem?_threads_step_of_ne hji] at hj
      simp only [Function.update_of_ne hji] at hd
      exact h.wrote j c' ph hj hd

/-- 二段の lock の一歩は、交錯の何もしない一歩か、その thread の表の区画の一歩で写せる。 -/
theorem step (h : TableSim tw w) (hl : tw.Linearized) (i : Nat) :
    ∃ js, js.Sublist [i] ∧ TableSim (tw.step i) (w.run js) := by
  cases hc : tw.calls[i]? with
  | none =>
    refine ⟨[], List.nil_sublist _, ?_⟩
    rw [show tw.step i = tw by simp [TableWorld.step, hc]]
    exact h
  | some tc =>
    cases hph : (tw.phase i).isDone with
    | true =>
      refine ⟨[], List.nil_sublist _, ?_⟩
      rw [show tw.step i = tw by simp [TableWorld.step, hc, hph]]
      exact h
    | false =>
      -- 返っていない呼び出しは、表の区画の前にいる登録の thread の書き込み
      obtain ⟨⟨c, ph⟩, hi, htc⟩ := Option.bind_eq_some_iff.mp ((h.calls i).symm.trans hc)
      obtain rfl : ph = .writeTable := h.running i c ph hi hph
      obtain ⟨wr, hwr, -⟩ := Call.step_writeTable_of_registers w.registry (h.registers i c _ hi)
      obtain rfl : tc = .write wr := by
        rw [Call.tableCall?, hwr] at htc
        cases htc
        rfl
      rw [TableWorld.step_of_running hc hph]
      rcases TableCall.step_cases hl.valid (hl.tracks i _ hc) hph with ⟨hst, hph', -⟩ | ⟨hdone, hview, -⟩
      · -- 中身を探すだけの区画：交錯では何もしない
        refine ⟨[], List.nil_sublist _, ?_⟩
        rw [hst, hph']
        exact h.internal hph hph'
      · -- 返る区画：その thread の表の区画
        refine ⟨[i], List.Sublist.refl _, ?_⟩
        rw [hdone]
        exact h.complete hi hwr hview _ _

/-- 二段の lock のどのスケジュールも、返らない区画を除いたスケジュールの交錯で写せる。 -/
theorem run (h : TableSim tw w) (hl : tw.Linearized) (is : List Nat) :
    ∃ js, js.Sublist is ∧ TableSim (tw.run is) (w.run js) := by
  induction is generalizing tw w with
  | nil => exact ⟨[], List.Sublist.slnil, h⟩
  | cons i is ih =>
    obtain ⟨js₁, hjs₁, h₁⟩ := h.step hl i
    obtain ⟨js₂, hjs₂, h₂⟩ := ih h₁ (hl.step i)
    refine ⟨js₁ ++ js₂, hjs₁.append hjs₂, ?_⟩
    rw [World.run_append]
    exact h₂

end TableSim

/-- 凍結の印を読み終えた登録の thread が空の表に書くとき、その書き込みを二段の lock の区画に分けて
どのスケジュールで進めても、返る区画だけをその順に交錯の表の区画として一歩ずつ行えば、見える表は
登録簿の表に等しく、返った書き込みの thread は表に書き終え、返っていない thread は表の区画の前に
ある。 -/
theorem two_lock_writes_refine_atomic {w : World T} {tcs : List TableCall}
    (hw : ∀ (i : Nat) (c : Call T) (ph : Phase), w.threads[i]? = some (c, ph) →
      c.registers = true ∧ ph = .writeTable)
    (hcalls : ∀ i : Nat, tcs[i]? = w.threads[i]?.bind fun x : Call T × Phase => x.1.tableCall?)
    (ht : w.registry.table = []) (is : List Nat) :
    ∃ js, js.Sublist is ∧ TableSim ((TableWorld.init tcs).run is) (w.run js) :=
  (TableSim.init hw hcalls ht).run (TableWorld.Linearized.init tcs) is

end HttpRouting
