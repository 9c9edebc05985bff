import HttpRouting.Server.Activity
import HttpRouting.Server.Basic

/-!
# 遊んでいるつながりを閉じる

一つのつながりの上で、要求が始まり（`Step.begin`）、終わり（時刻を書く `Step.stamp`、処理中の
数を減らす `Step.release`）、遊びの確かめが二度に分けて読む（処理中の数を読む
`Step.readCount`、最後の時刻を読む `Step.readLast`）。これらがどんな順にも入り混じって起こる。
要求には番号を振る。起こりうる手順の列を `Activity.Valid` で言う: 要求は新しい番号で始まり、
処理中の要求だけが一度だけ時刻を書き、時刻を書いた要求だけが処理中の数を減らして終わる。時刻の
並びには何も仮定しない（時計が進むときはその特別な場合）。

* `Activity.Tracks` — 活動は手順の列を映す。処理中の数は始まってまだ終わっていない要求の数、
  最後の時刻は最後に書かれた時刻（なければつながった時刻）。一歩ごとに保たれ
  （`Activity.Tracks.step`）、起こりうる列の全体で成り立つ（`Activity.Valid.tracks`）。
* `Activity.idle_close_only_when_count_saw_quiet` — 確かめの読みでない一歩も一つ目の読みも
  閉じ始めない。二つ目の読みが時刻 `t` に閉じ始めるのは、一つ目の読みの時点で処理中の要求が
  なく、二つ目の読みが見る最後の時刻から遊んでよい時間が過ぎているときに限り、まだ閉じ始めて
  いなければそのときは必ず閉じ始める。
* `Activity.idle_close_with_request_in_flight` — 二つの読みの間に要求が始まると、その要求が
  処理中のまま閉じ始める。
* `Activity.check_closing_iff_quiet` — 二つの読みが続けて起こる確かめ（間に他の手順が入らない
  とき）は、処理中の要求がなく、終わった要求が最後に書いた時刻から遊んでよい時間が過ぎている
  ときに限って閉じ始める。
-/

namespace HttpRouting

/-- 直した期限の遊んでよい時間は 0 にならない。 -/
theorem Timeouts.idleMs_normalized_pos (t : Timeouts) : 0 < t.normalized.idleMs := by
  by_cases h : t.idleMs = 0
  · simp [Timeouts.normalized, h]
  · simp only [Timeouts.normalized, h, if_false]
    omega

namespace Activity

/-- つながりの上の一歩。要求には番号を振る。 -/
inductive Step where
  | begin (i : Nat)
  | stamp (i : Nat) (now : Nat)
  | release (i : Nat)
  | readCount
  | readLast (now : Nat)
  deriving DecidableEq, Repr

namespace Step

/-- 活動の手順としての一歩。要求の番号は忘れる。 -/
def event : Step → Event
  | .begin _ => .begin
  | .stamp _ now => .stamp now
  | .release _ => .release
  | .readCount => .readCount
  | .readLast now => .readLast now

/-- 確かめの読み。 -/
def isRead : Step → Bool
  | .readCount | .readLast _ => true
  | _ => false

def begun? : Step → Option Nat
  | .begin i => some i
  | _ => none

def stamped? : Step → Option Nat
  | .stamp i _ => some i
  | _ => none

def released? : Step → Option Nat
  | .release i => some i
  | _ => none

/-- 書いた時刻。 -/
def stampTime? : Step → Option Nat
  | .stamp _ now => some now
  | _ => none

/-- 終わった要求 `done` の一つが書いた時刻。 -/
def endTime? (done : List Nat) : Step → Option Nat
  | .stamp i now => if i ∈ done then some now else none
  | _ => none

end Step

/-! ## 手順の列が言うこと -/

/-- 始まった要求。 -/
def begun (s : List Step) : List Nat := s.filterMap Step.begun?

/-- 時刻を書いた要求。 -/
def stamped (s : List Step) : List Nat := s.filterMap Step.stamped?

/-- 終わった要求。処理中の数を減らしたところで終わる。 -/
def released (s : List Step) : List Nat := s.filterMap Step.released?

/-- 処理中の要求。始まってまだ終わっていない。 -/
def inFlightIds (s : List Step) : List Nat := (begun s).filter (· ∉ released s)

/-- 最後に書かれた時刻。なければつながった時刻 `t0`。 -/
def lastStamp (t0 : Nat) (s : List Step) : Nat := ((s.filterMap Step.stampTime?).getLast?).getD t0

/-- 終わった要求が書いた時刻のうち最後のもの。終わった要求がなければつながった時刻 `t0`。 -/
def lastEnd (t0 : Nat) (s : List Step) : Nat :=
  ((s.filterMap (Step.endTime? (released s))).getLast?).getD t0

section Append

variable {s : List Step} {i now : Nat}

@[simp] theorem begun_append (s t : List Step) : begun (s ++ t) = begun s ++ begun t := by
  simp [begun]

@[simp] theorem stamped_append (s t : List Step) : stamped (s ++ t) = stamped s ++ stamped t := by
  simp [stamped]

@[simp] theorem released_append (s t : List Step) : released (s ++ t) = released s ++ released t := by
  simp [released]

@[simp] theorem begun_single (e : Step) : begun [e] = e.begun?.toList := by
  cases e <;> rfl

@[simp] theorem stamped_single (e : Step) : stamped [e] = e.stamped?.toList := by
  cases e <;> rfl

@[simp] theorem released_single (e : Step) : released [e] = e.released?.toList := by
  cases e <;> rfl

@[simp] theorem lastStamp_stamp (t0 : Nat) : lastStamp t0 (s ++ [.stamp i now]) = now := by
  simp [lastStamp, Step.stampTime?]

/-- 時刻を書かない一歩は、最後に書かれた時刻を変えない。 -/
theorem lastStamp_of_stampTime? {e : Step} (he : e.stampTime? = none) (t0 : Nat) :
    lastStamp t0 (s ++ [e]) = lastStamp t0 s := by
  simp [lastStamp, he]

end Append

/-! ## 起こりうる手順の列 -/

/-- 手順の列 `s` の後に一歩 `e` が起こりうる。要求は新しい番号で始まり、処理中の要求だけが一度
だけ時刻を書き、時刻を書いた処理中の要求だけが終わる。確かめの読みはいつでも起こる。 -/
def Allowed (s : List Step) : Step → Prop
  | .begin i => i ∉ begun s
  | .stamp i _ => i ∈ inFlightIds s ∧ i ∉ stamped s
  | .release i => i ∈ inFlightIds s ∧ i ∈ stamped s
  | .readCount | .readLast _ => True

instance (s : List Step) : (e : Step) → Decidable (Allowed s e)
  | .begin i => inferInstanceAs (Decidable (i ∉ begun s))
  | .stamp i _ => inferInstanceAs (Decidable (i ∈ inFlightIds s ∧ i ∉ stamped s))
  | .release i => inferInstanceAs (Decidable (i ∈ inFlightIds s ∧ i ∈ stamped s))
  | .readCount | .readLast _ => inferInstanceAs (Decidable True)

/-- 起こりうる手順の列。一歩ずつ後ろに足して作る。 -/
inductive Valid : List Step → Prop
  | nil : Valid []
  | snoc {s : List Step} {e : Step} : Valid s → Allowed s e → Valid (s ++ [e])

/-- 起こりうる列の形: 始まった要求の番号は重ならず、時刻を書いた要求と終わった要求は始まって
いる。 -/
structure Formed (s : List Step) : Prop where
  nodup : (begun s).Nodup
  stamped_begun : ∀ i ∈ stamped s, i ∈ begun s
  released_begun : ∀ i ∈ released s, i ∈ begun s

theorem mem_begun_of_mem_inFlightIds {s : List Step} {i : Nat} (h : i ∈ inFlightIds s) : i ∈ begun s :=
  (List.mem_filter.mp h).1

theorem Formed.nil : Formed [] :=
  ⟨List.nodup_nil, fun _ h => (nomatch h), fun _ h => (nomatch h)⟩

/-- 始まった要求の列に、処理中の要求を一つ足しても、どれも始まっている。 -/
theorem subset_begun_append {X : List Nat} {s : List Step} {i : Nat} (hX : ∀ j ∈ X, j ∈ begun s)
    (hi : i ∈ inFlightIds s) : ∀ j ∈ X ++ [i], j ∈ begun s := by
  intro j hj
  rcases List.mem_append.mp hj with hj | hj
  · exact hX j hj
  · exact List.mem_singleton.mp hj ▸ mem_begun_of_mem_inFlightIds hi

/-- 要求の番号を持たない一歩は、列の形を保つ。 -/
theorem Formed.of_numberless {s : List Step} {e : Step} (h : Formed s) (hb : e.begun? = none)
    (hs : e.stamped? = none) (hr : e.released? = none) : Formed (s ++ [e]) :=
  ⟨by simpa [hb] using h.nodup, by simpa [hb, hs] using h.stamped_begun,
    by simpa [hb, hr] using h.released_begun⟩

theorem Formed.step {s : List Step} {e : Step} (h : Formed s) (he : Allowed s e) : Formed (s ++ [e]) := by
  cases e with
  | begin i =>
    refine ⟨?_, ?_, ?_⟩
    · simpa [Step.begun?, List.nodup_append] using ⟨h.nodup, fun j hj hji => he (hji ▸ hj)⟩
    · simpa [Step.begun?, Step.stamped?] using fun j hj => Or.inl (h.stamped_begun j hj)
    · simpa [Step.begun?, Step.released?] using fun j hj => Or.inl (h.released_begun j hj)
  | stamp i now =>
    -- 時刻を書く要求は処理中なので始まっている
    refine ⟨by simpa [Step.begun?] using h.nodup, ?_,
      by simpa [Step.begun?, Step.released?] using h.released_begun⟩
    simpa [Step.begun?, Step.stamped?] using subset_begun_append h.stamped_begun he.1
  | release i =>
    refine ⟨by simpa [Step.begun?] using h.nodup, by simpa [Step.begun?, Step.stamped?] using h.stamped_begun,
      ?_⟩
    simpa [Step.begun?, Step.released?] using subset_begun_append h.released_begun he.1
  | readCount => exact h.of_numberless rfl rfl rfl
  | readLast now => exact h.of_numberless rfl rfl rfl

theorem Valid.formed {s : List Step} (hs : Valid s) : Formed s := by
  induction hs with
  | nil => exact Formed.nil
  | snoc _ he ih => exact ih.step he

/-! ## 処理中の要求 -/

section InFlight

variable {s : List Step} {i : Nat}

theorem inFlightIds_begin (h : Formed s) (fresh : i ∉ begun s) :
    inFlightIds (s ++ [.begin i]) = inFlightIds s ++ [i] := by
  -- 新しい番号はまだ終わっていない（終わった要求は始まっている）
  have hi : i ∉ released s := fun hr => fresh (h.released_begun i hr)
  simp [inFlightIds, Step.begun?, Step.released?, List.filter_append, hi]

/-- 要求の番号を持たない一歩と時刻を書く一歩は、処理中の要求を変えない。 -/
theorem inFlightIds_of_begun?_released? {e : Step} (hb : e.begun? = none) (hr : e.released? = none) :
    inFlightIds (s ++ [e]) = inFlightIds s := by
  simp [inFlightIds, hb, hr]

theorem inFlightIds_release (h : Formed s) : inFlightIds (s ++ [.release i]) = (inFlightIds s).erase i := by
  have hnodup : (inFlightIds s).Nodup := h.nodup.sublist List.filter_sublist
  rw [hnodup.erase_eq_filter, inFlightIds, inFlightIds, List.filter_filter]
  simp only [begun_append, begun_single, Step.begun?, Option.toList_none, List.append_nil]
  refine List.filter_congr fun j _ => ?_
  by_cases hj : j = i <;> simp [Step.released?, hj]

end InFlight

/-! ## 活動は手順の列を映す -/

/-- つながった時刻 `t0` から手順の列を進めた活動。 -/
def replay (idle t0 : Nat) (s : List Step) : Activity := run idle (start t0) (s.map Step.event)

theorem replay_append_single (idle t0 : Nat) (s : List Step) (e : Step) :
    replay idle t0 (s ++ [e]) = step idle (replay idle t0 s) e.event := by
  simp [replay, run, List.foldl_append]

/-- 確かめの読みは、処理中の数も最後の時刻も変えない。 -/
theorem step_read_keeps (idle : Nat) (a : Activity) {e : Step} (he : e.isRead = true) :
    (a.step idle e.event).inFlight = a.inFlight ∧ (a.step idle e.event).last = a.last := by
  cases e with
  | begin _ | stamp _ _ | release _ => nomatch he
  | readCount =>
    simp only [Step.event, Activity.step]
    split
    · exact ⟨rfl, rfl⟩
    · split <;> exact ⟨rfl, rfl⟩
  | readLast now =>
    simp only [Step.event, Activity.step]
    split <;> exact ⟨rfl, rfl⟩

/-- 確かめの読みでない一歩は、閉じ始めたかと、一つ目の読みが見たものを変えない。 -/
theorem step_nonRead_keeps (idle : Nat) (a : Activity) {e : Step} (he : e.isRead = false) :
    (a.step idle e.event).closing = a.closing ∧ (a.step idle e.event).sawQuiet = a.sawQuiet := by
  cases e with
  | readCount | readLast _ => nomatch he
  | begin _ | stamp _ _ | release _ => exact ⟨rfl, rfl⟩

/-- 活動は手順の列を映す: 処理中の数は始まってまだ終わっていない要求の数、最後の時刻は最後に
書かれた時刻。 -/
structure Tracks (t0 : Nat) (s : List Step) (a : Activity) : Prop where
  inFlight : a.inFlight = (inFlightIds s).length
  last : a.last = lastStamp t0 s

theorem Tracks.nil (idle t0 : Nat) : Tracks t0 [] (replay idle t0 []) :=
  ⟨rfl, rfl⟩

/-- 起こりうる一歩は、活動が手順の列を映すことを保つ。 -/
theorem Tracks.step {idle t0 : Nat} {s : List Step} {a : Activity} {e : Step} (h : Tracks t0 s a)
    (hf : Formed s) (he : Allowed s e) : Tracks t0 (s ++ [e]) (a.step idle e.event) := by
  cases e with
  | begin i =>
    refine ⟨?_, by rw [lastStamp_of_stampTime? rfl]; exact h.last⟩
    simp [Step.event, Activity.step, inFlightIds_begin hf he, h.inFlight]
  | stamp i now =>
    refine ⟨?_, by simp [Step.event, Activity.step]⟩
    rw [inFlightIds_of_begun?_released? rfl rfl]
    exact h.inFlight
  | release i =>
    -- 終わる要求は処理中なので、数は一つ減る（0 で止まらない）
    refine ⟨?_, by rw [lastStamp_of_stampTime? rfl]; exact h.last⟩
    simp only [Step.event, Activity.step]
    rw [inFlightIds_release hf, List.length_erase_of_mem he.1, h.inFlight]
  | readCount =>
    have hk := step_read_keeps idle a (e := .readCount) rfl
    exact ⟨by rw [hk.1, inFlightIds_of_begun?_released? rfl rfl, h.inFlight],
      by rw [hk.2, lastStamp_of_stampTime? rfl, h.last]⟩
  | readLast now =>
    have hk := step_read_keeps idle a (e := .readLast now) rfl
    exact ⟨by rw [hk.1, inFlightIds_of_begun?_released? rfl rfl, h.inFlight],
      by rw [hk.2, lastStamp_of_stampTime? rfl, h.last]⟩

/-- 起こりうる列の全体で、活動は手順の列を映す。 -/
theorem Valid.tracks {idle t0 : Nat} {s : List Step} (hs : Valid s) : Tracks t0 s (replay idle t0 s) := by
  induction hs with
  | nil => exact Tracks.nil idle t0
  | snoc hs he ih =>
    rw [replay_append_single]
    exact ih.step hs.formed he

/-- 起こりうる列から最後の一歩を除いても起こりうる。 -/
theorem Valid.init {s : List Step} {e : Step} (h : Valid (s ++ [e])) : Valid s ∧ Allowed s e := by
  generalize hx : s ++ [e] = x at h
  cases h with
  | nil => simp at hx
  | snoc h' ha =>
    obtain ⟨rfl, he⟩ := List.append_inj' hx rfl
    cases he
    exact ⟨h', ha⟩

/-- 起こりうる列の前の部分も起こりうる。 -/
theorem Valid.of_append {s t : List Step} (h : Valid (s ++ t)) : Valid s := by
  induction t generalizing s with
  | nil => simpa using h
  | cons e t ih =>
    rw [List.append_cons] at h
    exact (ih h).init.1

/-- 確かめの読みでない手順を続けても、閉じ始めたかと、一つ目の読みが見たものは変わらない。 -/
theorem replay_append_nonRead (idle t0 : Nat) (s : List Step) {q : List Step}
    (hq : ∀ e ∈ q, e.isRead = false) :
    (replay idle t0 (s ++ q)).closing = (replay idle t0 s).closing ∧
      (replay idle t0 (s ++ q)).sawQuiet = (replay idle t0 s).sawQuiet := by
  induction q generalizing s with
  | nil => simp
  | cons e q ih =>
    have ih := ih (s ++ [e]) fun x hx => hq x (List.mem_cons_of_mem e hx)
    have hk := step_nonRead_keeps idle (replay idle t0 s) (hq e List.mem_cons_self)
    rw [List.append_cons, ih.1, ih.2, replay_append_single]
    exact hk

/-! ## 遊びの確かめ -/

section Check

variable {idle : Nat}

/-- 遊んでよい時間が 0 でなければ、最後の時刻から見た残りが 0 になるのは、最後の時刻から遊んで
よい時間が過ぎたとき。 -/
theorem idleLeft_eq_zero_iff (hidle : 0 < idle) (a : Activity) (now : Nat) :
    a.idleLeft idle now = 0 ↔ a.last + idle ≤ now := by
  unfold idleLeft
  omega

/-- 遊んでよい時間が 0 でなければ、一つ目の読みは閉じ始めず、処理中の要求を見ないのは閉じ始めて
おらず処理中の数が 0 のとき。 -/
theorem readCount_spec (hidle : 0 < idle) (a : Activity) :
    (a.step idle .readCount).closing = a.closing ∧
      ((a.step idle .readCount).sawQuiet = true ∧ (a.step idle .readCount).closing = false ↔
        a.closing = false ∧ a.inFlight = 0) := by
  simp only [Activity.step]
  cases hc : a.closing with
  | true => simp [hc]
  | false =>
    by_cases hf : a.inFlight > 0
    · -- 処理中の要求を見た確かめの答えは遊んでよい時間そのもので、0 ではない
      simp [hf, Nat.ne_of_gt hidle]
      omega
    · simp [hf]
      omega

/-- 二つ目の読みが閉じ始めるのは、まだ閉じ始めておらず、一つ目の読みが処理中の要求を見ず、最後の
時刻から遊んでよい時間が過ぎたとき。 -/
theorem closing_readLast_iff (hidle : 0 < idle) (a : Activity) (now : Nat) :
    (a.step idle (.readLast now)).closing = true ∧ a.closing = false ↔
      a.closing = false ∧ a.sawQuiet = true ∧ a.last + idle ≤ now := by
  rw [← idleLeft_eq_zero_iff hidle]
  simp only [Activity.step]
  cases hq : a.sawQuiet with
  | false => simp
  | true => cases hc : a.closing <;> simp

/-- 時刻を書いた要求がどれも終わっていれば、終わった要求が書いた時刻は書かれた時刻のすべて。 -/
theorem filterMap_endTime {done : List Nat} {s : List Step} (h : ∀ i ∈ stamped s, i ∈ done) :
    s.filterMap (Step.endTime? done) = s.filterMap Step.stampTime? := by
  induction s with
  | nil => rfl
  | cons e s ih =>
    have hs : ∀ i ∈ stamped s, i ∈ done := fun i hi =>
      h i (by rw [show e :: s = [e] ++ s from rfl, stamped_append]; exact List.mem_append_right _ hi)
    cases e with
    | stamp i now =>
      have hi : i ∈ done := h i (by simp [stamped, Step.stamped?])
      rw [List.filterMap_cons_some (show Step.endTime? done (.stamp i now) = some now by simp [Step.endTime?, hi]),
        List.filterMap_cons_some (show Step.stampTime? (.stamp i now) = some now from rfl), ih hs]
    | begin _ | release _ | readCount | readLast _ =>
      rw [List.filterMap_cons_none rfl, List.filterMap_cons_none rfl, ih hs]

/-- 処理中の要求がなければ、時刻を書いた要求はどれも終わっているので、終わった要求が最後に
書いた時刻は最後に書かれた時刻。 -/
theorem lastEnd_of_quiet {t0 : Nat} {s : List Step} (hf : Formed s) (hq : inFlightIds s = []) :
    lastEnd t0 s = lastStamp t0 s := by
  have hdone : ∀ i ∈ stamped s, i ∈ released s := by
    intro i hi
    refine Decidable.byContradiction fun hr => ?_
    have hmem : i ∈ inFlightIds s := List.mem_filter.mpr ⟨hf.stamped_begun i hi, by simpa using hr⟩
    rw [hq] at hmem
    exact nomatch hmem
  rw [lastEnd, lastStamp, filterMap_endTime hdone]

/-- 一つ目の読みの後に確かめの読みでない手順 `q` が入るとき、二つ目の読みが時刻 `t` に閉じ始める
のは、一つ目の読みの時点でまだ閉じ始めておらず処理中の要求がなく、二つ目の読みが見る最後の時刻から
遊んでよい時間が過ぎているとき。 -/
theorem closing_second_read_iff (hidle : 0 < idle) (t0 : Nat) {p q : List Step}
    (hs : Valid (p ++ .readCount :: q)) (hq : ∀ e ∈ q, e.isRead = false) (t : Nat) :
    (replay idle t0 (p ++ .readCount :: q ++ [.readLast t])).closing = true ∧
        (replay idle t0 (p ++ .readCount :: q)).closing = false ↔
      (replay idle t0 p).closing = false ∧ inFlightIds p = [] ∧
        lastStamp t0 (p ++ .readCount :: q) + idle ≤ t := by
  -- 間の手順 `q` は確かめの読みでないので、二つ目の読みの前の活動は、閉じ始めたかと一つ目の読みが
  -- 見たものについて、一つ目の読みの直後の活動と同じ
  have hsplit : p ++ .readCount :: q = (p ++ [.readCount]) ++ q := by simp
  have hp : Tracks t0 p (replay idle t0 p) := (Valid.of_append (t := .readCount :: q) hs).tracks
  have hcount := readCount_spec hidle (replay idle t0 p)
  have hkeep := replay_append_nonRead idle t0 (p ++ [.readCount]) hq
  rw [← hsplit, replay_append_single, Step.event] at hkeep
  have hlast : (replay idle t0 (p ++ .readCount :: q)).last = lastStamp t0 (p ++ .readCount :: q) :=
    hs.tracks.last
  have hclose := closing_readLast_iff hidle (replay idle t0 (p ++ .readCount :: q)) t
  rw [hkeep.1, hkeep.2, hlast] at hclose
  rw [show p ++ .readCount :: q ++ [.readLast t] = (p ++ .readCount :: q) ++ [.readLast t] by simp,
    replay_append_single, Step.event, hkeep.1, hclose]
  constructor
  · rintro ⟨hc, hq', hle⟩
    obtain ⟨hc0, hf0⟩ := hcount.2.mp ⟨hq', hc⟩
    exact ⟨hc0, List.length_eq_zero_iff.mp (by rw [← hp.inFlight]; exact hf0), hle⟩
  · rintro ⟨hc, hnil, hle⟩
    obtain ⟨hq', hc'⟩ := hcount.2.mpr ⟨hc, by rw [hp.inFlight, hnil]; rfl⟩
    exact ⟨hc', hq', hle⟩

end Check

/-- 一つのつながりの起こりうる手順の列のどこでも、処理中の数は始まってまだ終わっていない要求の
数。確かめの読みでない一歩は閉じ始めない。列 `p` の後の一つ目の読みも閉じ始めない。その後に
確かめの読みでない手順 `q` が入り、二つ目の読みが時刻 `t` に閉じ始めるのは、一つ目の読みの時点で
処理中の要求がなく、二つ目の読みが見る最後の時刻から遊んでよい時間が過ぎているときに限り、まだ
閉じ始めていなければそのときは必ず閉じ始める。 -/
theorem idle_close_only_when_count_saw_quiet (cfg : Timeouts) (t0 : Nat) :
    (∀ s, Valid s → (replay cfg.normalized.idleMs t0 s).inFlight = (inFlightIds s).length) ∧
    (∀ s e, e.isRead = false →
      (replay cfg.normalized.idleMs t0 (s ++ [e])).closing = (replay cfg.normalized.idleMs t0 s).closing) ∧
    ∀ p q t, Valid (p ++ .readCount :: q) → (∀ e ∈ q, e.isRead = false) →
      (replay cfg.normalized.idleMs t0 (p ++ [.readCount])).closing =
          (replay cfg.normalized.idleMs t0 p).closing ∧
      ((replay cfg.normalized.idleMs t0 (p ++ .readCount :: q ++ [.readLast t])).closing = true ∧
          (replay cfg.normalized.idleMs t0 (p ++ .readCount :: q)).closing = false ↔
        (replay cfg.normalized.idleMs t0 p).closing = false ∧ inFlightIds p = [] ∧
          lastStamp t0 (p ++ .readCount :: q) + cfg.normalized.idleMs ≤ t) := by
  have hidle := cfg.idleMs_normalized_pos
  refine ⟨fun s hs => hs.tracks.inFlight, fun s e he => ?_,
    fun p q t hs hq => ⟨?_, closing_second_read_iff hidle t0 hs hq t⟩⟩
  · -- 確かめの読みでない一歩は、閉じ始めたかを変えない
    rw [replay_append_single]
    exact (step_nonRead_keeps _ _ he).1
  · -- 一つ目の読みは閉じ始めない（遊んでよい時間は 0 でない）
    rw [replay_append_single]
    exact (readCount_spec hidle _).1

/-- 時刻 0 につながり、要求 0 が時刻 5 に終わった。既定の遊んでよい時間 600000 ミリ秒が過ぎた
時刻 600005 の二つ目の読みは、つながりを閉じ始める。 -/
theorem idle_close_after_default_timeout :
    Valid [.begin 0, .stamp 0 5, .release 0, .readCount] ∧
      (replay ({} : Timeouts).normalized.idleMs 0
        [.begin 0, .stamp 0 5, .release 0, .readCount, .readLast 600005]).closing = true := by
  have hs : Valid [.begin 0, .stamp 0 5, .release 0, .readCount] :=
    (((Valid.nil.snoc (by decide)).snoc (by decide)).snoc (by decide)).snoc (by decide)
  refine ⟨hs, (((idle_close_only_when_count_saw_quiet {} 0).2.2 [.begin 0, .stamp 0 5, .release 0] [] 600005 hs
    (fun _ h => nomatch h)).2.mpr ⟨?_, ?_, ?_⟩).1⟩ <;> decide

/-- 時刻 0 につながり、確かめの一つ目の読みが処理中の要求を見なかった後、二つ目の読みの前に要求 0
が始まる。時刻 600000 の二つ目の読みは、要求 0 が処理中のままつながりを閉じ始める。 -/
theorem idle_close_with_request_in_flight :
    Valid [.readCount, .begin 0] ∧
      (replay ({} : Timeouts).normalized.idleMs 0 [.readCount, .begin 0]).closing = false ∧
      (replay ({} : Timeouts).normalized.idleMs 0 [.readCount, .begin 0, .readLast 600000]).closing = true ∧
      inFlightIds [.readCount, .begin 0, .readLast 600000] = [0] := by
  refine ⟨(Valid.nil.snoc (by decide)).snoc (by decide), ?_, ?_, ?_⟩ <;> decide

/-- 二つの読みが続けて起こる確かめは、処理中の要求がなく、終わった要求が最後に書いた時刻（なければ
つながった時刻 `t0`）から遊んでよい時間が過ぎているときに限って閉じ始め、まだ閉じ始めていなければ
そのときは必ず閉じ始める。 -/
theorem check_closing_iff_quiet (cfg : Timeouts) (t0 : Nat) {s : List Step} (hs : Valid s) (t : Nat) :
    (check cfg.normalized.idleMs (replay cfg.normalized.idleMs t0 s) t).closing = true ∧
        (replay cfg.normalized.idleMs t0 s).closing = false ↔
      (replay cfg.normalized.idleMs t0 s).closing = false ∧ inFlightIds s = [] ∧
        lastEnd t0 s + cfg.normalized.idleMs ≤ t := by
  have hidle := cfg.idleMs_normalized_pos
  -- 続けて起こる確かめは、間の手順が何もない二つの読み
  have hreads := closing_second_read_iff hidle t0 (q := []) (hs.snoc trivial) (fun _ h => nomatch h) t
  have hcheck : check cfg.normalized.idleMs (replay cfg.normalized.idleMs t0 s) t =
      replay cfg.normalized.idleMs t0 (s ++ [.readCount] ++ [.readLast t]) := by
    rw [replay_append_single, replay_append_single]
    rfl
  -- 一つ目の読みは閉じ始めず、最後の時刻も書かない
  have hmid : (replay cfg.normalized.idleMs t0 (s ++ [.readCount])).closing =
      (replay cfg.normalized.idleMs t0 s).closing := by
    rw [replay_append_single]
    exact (readCount_spec hidle _).1
  rw [hmid, lastStamp_of_stampTime? rfl] at hreads
  rw [hcheck, hreads]
  -- 処理中の要求がなければ、最後に書かれた時刻は終わった要求が最後に書いた時刻
  constructor
  · rintro ⟨hc, hnil, hle⟩
    exact ⟨hc, hnil, by rwa [lastEnd_of_quiet hs.formed hnil]⟩
  · rintro ⟨hc, hnil, hle⟩
    exact ⟨hc, hnil, by rwa [← lastEnd_of_quiet hs.formed hnil]⟩

end Activity

end HttpRouting
