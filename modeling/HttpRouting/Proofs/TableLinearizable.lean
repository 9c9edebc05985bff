import Mathlib.Logic.Function.Basic
import HttpRouting.Proofs.TableRefinement

/-!
# 同時の登録と参照は、順に行ったものと同じ

経路の表は二段の lock で守られる。外側の lock は経路の鍵から中身への表を守り、中身ごとの lock は
その中身（枠ごとの処理と追加の header 名）を守る。中身は共有され、参照は外側の read lock の下で
中身を写し取り、それを放してから中身の read lock の下で読む。書き込みは次のとおり。

1. 外側の read lock の下で中身を探し、見つかれば中身の write lock の下で書く。
2. 見つからなければ外側の write lock を取り、経路の中身を（無ければ空の中身を作って鍵に結び）
   取り出して、外側の lock を持ったまま中身の write lock の下で書く。

lock の下の区画を一歩とし、呼び出しごとの thread をどの順に進めてもよいとする（`TableWorld`）。
共有の状態（`SharedTable`）は、鍵から中身の番号への表と、番号ごとの中身である。

* `SharedTable.view_editAt`、`SharedTable.view_writeEntry` — 中身の write lock の下で書いても、
  外側の write lock の下で書いても、見える表は `Table.modify` を行った表。
* `TableCall.step_cases` — 一歩は、共有の状態を変えずに返らない一歩か、順に行う呼び出しと同じ値を
  返して同じ書き込みを行う一歩である。
* `table_linearizable` — どの交錯でも、返った呼び出しを返った順に並べると、どの呼び出しも、それより
  前に返った書き込みを空の表に順に行った表で、順に行う呼び出しと同じ値を返している。共有の表は
  返った書き込みを順に行った表で、書き込みは失われず、どの経路にも処理が一つはある。

呼び出しが表に効くのは返る一歩なので、この順は呼び出しの始まりと終わりの間の時点の順である。
-/

namespace HttpRouting

/-! ## 参照と書き込みの呼び出し -/

/-- 一つの経路の中身を読む参照。 -/
inductive EntryRead where
  /-- 枠の処理（`Table.handler?`）。 -/
  | handler (slot : Slot)
  /-- 専用の枠の method（`Table.methods`）。 -/
  | methods
  /-- すべての枠（`Table.slots`）。 -/
  | slots
  /-- 追加の header 名（`Table.allowedHeaders`）。 -/
  | allowedHeaders

/-- 参照が返す値。 -/
inductive TableValue where
  | handler (h : Option Handler)
  | methods (ms : List Method)
  | slots (ss : List Slot)
  | headers (hs : List String)
  | paths (ps : List String)

namespace EntryRead

/-- 中身の read lock の下で読んだ値。 -/
def ofEntry : EntryRead → Entry → TableValue
  | .handler s, e => .handler ((e.handlers.find? (·.1 == s)).map (·.2))
  | .methods, e => .methods (e.slots.filterMap Slot.method?)
  | .slots, e => .slots e.slots
  | .allowedHeaders, e => .headers e.allowedHeaders

/-- 経路が無いときの値。 -/
def missing : EntryRead → TableValue
  | .handler _ => .handler none
  | .methods => .methods []
  | .slots => .slots []
  | .allowedHeaders => .headers []

end EntryRead

/-- 表への参照。 -/
inductive TableRead where
  /-- 経路の中身を読む。 -/
  | entry (path : String) (r : EntryRead)
  /-- 経路の鍵の並び（`Table.paths`）。 -/
  | paths

/-- 順に行う参照の値。 -/
def TableRead.read : TableRead → Table → TableValue
  | .entry p (.handler s), t => .handler (t.handler? p s)
  | .entry p .methods, t => .methods (t.methods p)
  | .entry p .slots, t => .slots (t.slots p)
  | .entry p .allowedHeaders, t => .headers (t.allowedHeaders p)
  | .paths, t => .paths t.paths

/-- 経路の中身を読む参照の値は、中身を取り出して読んだ値（無ければ `missing`）。 -/
theorem TableRead.read_entry (p : String) (r : EntryRead) (t : Table) :
    (TableRead.entry p r).read t = ((t.entry? p).map r.ofEntry).getD r.missing := by
  cases h : t.entry? p with
  | none =>
    cases r <;> simp [read, Table.handler?, Table.methods, Table.slots, Table.allowedHeaders, h,
      EntryRead.missing]
  | some e =>
    cases r <;> simp [read, Table.handler?, Table.methods, Table.slots, Table.allowedHeaders, h,
      EntryRead.ofEntry]

/-- 中身の lock の下で書き込みが返す値：置く前にその枠に処理があったか。 -/
def TableWrite.replacesIn (w : TableWrite) (e : Entry) : Bool := e.handlers.any (·.1 == w.slot)

theorem TableWrite.replaces_eq (w : TableWrite) (t : Table) :
    w.replaces t = ((t.entry? w.path).map w.replacesIn).getD false := rfl

/-- 表への呼び出し。 -/
inductive TableCall where
  | write (w : TableWrite)
  | read (r : TableRead)

/-- 呼び出しの返す値。 -/
inductive TableOutcome where
  /-- 書き込みが返った。置き換えたか。 -/
  | wrote (replaced : Bool)
  /-- 参照が返った。 -/
  | read (v : TableValue)

namespace TableCall

/-- 呼び出しが中身を探す経路。 -/
def path? : TableCall → Option String
  | .write w => some w.path
  | .read (.entry p _) => some p
  | .read .paths => none

/-- 呼び出しが行う書き込み。 -/
def write? : TableCall → Option TableWrite
  | .write w => some w
  | .read _ => none

/-- 順に行う呼び出しの値。 -/
def expected : TableCall → Table → TableOutcome
  | .write w, t => .wrote (w.replaces t)
  | .read r, t => .read (r.read t)

end TableCall

/-! ## 共有の表 -/

/-- 共有の表。鍵から中身の番号への表（外側の lock が守る）と、番号ごとの中身（中身ごとの lock が
守る）。 -/
structure SharedTable where
  routes : List (String × Nat) := []
  entries : List Entry := []

namespace SharedTable

/-- 経路の中身の番号。 -/
def ref? (st : SharedTable) (p : String) : Option Nat := Keyed.find? p st.routes

/-- 番号の中身。 -/
def entryAt (st : SharedTable) (r : Nat) : Entry := st.entries[r]?.getD {}

/-- 番号の中身を書き換える（中身の write lock の区画）。 -/
def editAt (st : SharedTable) (r : Nat) (f : Entry → Entry) : SharedTable :=
  { st with entries := st.entries.modify r f }

/-- 外側の write lock の区画。経路の中身を取り出し（無ければ空の中身を作って鍵に結び）、書き換える。 -/
def writeEntry (st : SharedTable) (p : String) (f : Entry → Entry) : SharedTable :=
  match st.ref? p with
  | some r => st.editAt r f
  | none => { routes := Keyed.insert p st.entries.length st.routes, entries := st.entries ++ [f {}] }

/-- 見える表：鍵ごとに、その番号の中身。 -/
def view (st : SharedTable) : Table := st.routes.map fun (p, r) => (p, st.entryAt r)

/-- 共有の表の形の約束。 -/
structure Valid (st : SharedTable) : Prop where
  /-- 見える表は経路の表の形の約束を満たす。 -/
  view : st.view.Valid
  /-- 鍵の番号の中身はある。 -/
  bound : ∀ p r, st.ref? p = some r → r < st.entries.length
  /-- 違う鍵は違う中身を指す。 -/
  unique : ∀ p q r, st.ref? p = some r → st.ref? q = some r → p = q

variable {st : SharedTable} {p q : String} {r : Nat} {f : Entry → Entry}

theorem entry_view (st : SharedTable) (p : String) : st.view.entry? p = (st.ref? p).map st.entryAt :=
  Keyed.find?_map_snd _ p st.routes

theorem paths_view (st : SharedTable) : st.view.paths = Keyed.keys st.routes :=
  Keyed.keys_map_snd _ st.routes

theorem sorted_view : Keyed.Sorted st.view ↔ Keyed.Sorted st.routes := by
  unfold Keyed.Sorted
  rw [show Keyed.keys st.view = Keyed.keys st.routes from paths_view st]

@[simp] theorem ref?_editAt (st : SharedTable) (r : Nat) (f : Entry → Entry) (p : String) :
    (st.editAt r f).ref? p = st.ref? p := rfl

theorem entryAt_editAt (hr : r < st.entries.length) (k : Nat) :
    (st.editAt r f).entryAt k = if k = r then f (st.entryAt r) else st.entryAt k := by
  unfold entryAt editAt
  by_cases hk : k = r
  · subst hk
    simp [List.getElem?_eq_getElem hr]
  · simp [List.getElem?_modify_ne _ _ (Ne.symm hk), hk]

/-- 中身の write lock の下で経路の中身を書き換えると、見える表ではその経路の中身だけが変わる。
ほかの鍵は違う中身を指すので変わらない。 -/
theorem view_editAt (hv : st.Valid) (hr : st.ref? p = some r) :
    (st.editAt r f).view = st.view.modify p f := by
  have hbound := hv.bound p r hr
  have hsorted : Keyed.Sorted st.routes := sorted_view.mp hv.view.sorted
  refine Keyed.Sorted.ext (sorted_view.mpr hsorted) (hv.view.sorted.insert _ _) fun q => ?_
  change Table.entry? (st.editAt r f).view q = Table.entry? (st.view.modify p f) q
  rw [entry_view, Table.entry_modify, entry_view, entry_view, ref?_editAt, hr]
  by_cases hq : q = p
  · subst hq
    simp [hr, entryAt_editAt hbound]
  · cases hk : st.ref? q with
    | none => simp [hq]
    | some k =>
      have hkr : k ≠ r := fun hkr => hq (hv.unique q p r (hkr ▸ hk) hr)
      simp [hq, entryAt_editAt hbound, hkr]

/-- 外側の write lock の下で書いても、見える表ではその経路の中身だけが変わる。経路が無ければ、
空の中身を書き換えたものが新しい番号で加わる。 -/
theorem view_writeEntry (hv : st.Valid) : (st.writeEntry p f).view = st.view.modify p f := by
  unfold writeEntry
  cases hr : st.ref? p with
  | some r => exact view_editAt hv hr
  | none =>
    have hsorted : Keyed.Sorted st.routes := sorted_view.mp hv.view.sorted
    refine Keyed.Sorted.ext (sorted_view.mpr (hsorted.insert _ _)) (hv.view.sorted.insert _ _)
      fun q => ?_
    change Table.entry? (SharedTable.view _) q = Table.entry? (st.view.modify p f) q
    rw [entry_view, Table.entry_modify, entry_view, entry_view, hr]
    simp only [ref?, Keyed.find?_insert]
    by_cases hq : q = p
    · simp [hq, entryAt]
    · cases hk : Keyed.find? q st.routes with
      | none => simp [hq]
      | some k =>
        -- 前からある番号の中身は、後ろに足しても変わらない
        have hkb : k < st.entries.length := hv.bound q k hk
        simp [hq, entryAt, List.getElem?_append_left hkb]

/-- 外側の write lock の下で書いても、前からある鍵の番号は変わらない。 -/
theorem ref?_writeEntry (hq : st.ref? q = some r) : (st.writeEntry p f).ref? q = some r := by
  unfold writeEntry
  cases hp : st.ref? p with
  | some k => rw [ref?_editAt, hq]
  | none =>
    have hqp : q ≠ p := fun h => by rw [h, hp] at hq; cases hq
    simp only [ref?, Keyed.find?_insert, hqp, if_false]
    exact hq

/-- 書き込みは共有の表の形の約束を保つ。 -/
theorem Valid.editAt (hv : st.Valid) (hr : st.ref? p = some r) (w : TableWrite) (hp : w.path = p) :
    (st.editAt r w.edit).Valid where
  view := by
    rw [view_editAt hv hr, ← hp]
    exact hv.view.apply w
  bound q k hk := by
    simpa [SharedTable.editAt] using hv.bound q k hk
  unique := hv.unique

theorem Valid.writeEntry (hv : st.Valid) (w : TableWrite) : (st.writeEntry w.path w.edit).Valid := by
  cases hr : st.ref? w.path with
  | some r =>
    have h := hv.editAt hr w rfl
    simpa [SharedTable.writeEntry, hr] using h
  | none =>
    have hw : st.writeEntry w.path w.edit =
        { routes := Keyed.insert w.path st.entries.length st.routes,
          entries := st.entries ++ [w.edit {}] } := by
      simp [SharedTable.writeEntry, hr]
    refine ⟨by rw [view_writeEntry hv]; exact hv.view.apply w, fun q k hk => ?_, fun q q' k hk hk' => ?_⟩
    · rw [hw] at hk ⊢
      simp only [ref?, Keyed.find?_insert] at hk
      split at hk
      · cases hk
        simp
      · simpa using Nat.lt_succ_of_lt (hv.bound q k hk)
    · -- 新しい番号は、前からあるどの鍵の番号とも違う
      rw [hw] at hk hk'
      simp only [ref?, Keyed.find?_insert] at hk hk'
      split at hk <;> split at hk'
      · rename_i h₁ h₂
        rw [h₁, h₂]
      · cases hk
        exact absurd (hv.bound q' _ hk') (Nat.lt_irrefl _)
      · cases hk'
        exact absurd (hv.bound q _ hk) (Nat.lt_irrefl _)
      · exact hv.unique q q' k hk hk'

end SharedTable

/-! ## 呼び出しの区画 -/

/-- thread がどこまで進んだか。 -/
inductive TablePhase where
  /-- まだ何もしていない。 -/
  | start
  /-- 外側の read lock の下で経路の中身（番号 `ref`）を写し取った。次は中身の lock の区画。 -/
  | found (ref : Nat)
  /-- 外側の read lock の下で経路が見つからなかった。次は外側の write lock の区画。 -/
  | absent
  /-- 返った。 -/
  | done (o : TableOutcome)

/-- 返ったか。 -/
def TablePhase.isDone : TablePhase → Bool
  | .done _ => true
  | _ => false

namespace TableCall

/-- 呼び出しの区画を一つ進める。返った thread と、どの呼び出しも行き着かない組は変わらない。 -/
def step : TableCall → TablePhase → SharedTable → TablePhase × SharedTable
  | .write w, .start, st =>
    match st.ref? w.path with
    | some r => (.found r, st)
    | none => (.absent, st)
  | .write w, .found r, st => (.done (.wrote (w.replacesIn (st.entryAt r))), st.editAt r w.edit)
  | .write w, .absent, st =>
    (.done (.wrote (((st.ref? w.path).map fun r => w.replacesIn (st.entryAt r)).getD false)),
      st.writeEntry w.path w.edit)
  | .read (.entry p r), .start, st =>
    match st.ref? p with
    | some k => (.found k, st)
    | none => (.done (.read r.missing), st)
  | .read (.entry _ r), .found k, st => (.done (.read (r.ofEntry (st.entryAt k))), st)
  | .read .paths, .start, st => (.done (.read (.paths (Keyed.keys st.routes))), st)
  | _, ph, st => (ph, st)

/-- 中身を写し取った thread の番号は、呼び出しの経路の今の番号である。 -/
def Tracks (c : TableCall) (ph : TablePhase) (st : SharedTable) : Prop :=
  ∀ r, ph = .found r → ∃ p, c.path? = some p ∧ st.ref? p = some r

/-! ## 一歩でできること

どの不変条件も次の補題から導く。返らない一歩は共有の表を変えず、返る一歩は順に行う呼び出しと同じ
値を返し、同じ書き込みを行う。 -/

variable {c : TableCall} {ph : TablePhase} {st : SharedTable} {q : String} {r : Nat}

/-- 一歩は、共有の表を変えずに返らないか、順に行う呼び出しの値を返して同じ書き込みを行う。 -/
theorem step_cases (hv : st.Valid) (ht : c.Tracks ph st) (hph : ph.isDone = false) :
    ((c.step ph st).2 = st ∧ (c.step ph st).1.isDone = false ∧ c.Tracks (c.step ph st).1 st) ∨
    ((c.step ph st).1 = .done (c.expected st.view) ∧
      (c.step ph st).2.view = TableWrite.run c.write?.toList st.view ∧ (c.step ph st).2.Valid) := by
  cases ph with
  | done o => simp [TablePhase.isDone] at hph
  | start =>
    cases c with
    | write w =>
      -- 外側の read lock の区画：探すだけで、返らない
      left
      cases hr : st.ref? w.path with
      | none => simp [step, hr, Tracks, TablePhase.isDone]
      | some r => simp [step, hr, Tracks, TablePhase.isDone, path?]
    | read rd =>
      cases rd with
      | entry p r =>
        cases hk : st.ref? p with
        | none =>
          right
          simp [step, hk, expected, TableRead.read_entry, SharedTable.entry_view, write?, hv]
        | some k =>
          left
          simp [step, hk, Tracks, TablePhase.isDone, path?]
      | paths =>
        right
        simp [step, expected, TableRead.read, SharedTable.paths_view, write?, hv]
  | found r =>
    obtain ⟨p, hp, hr⟩ := ht r rfl
    cases c with
    | write w =>
      -- 中身の write lock の区画：写し取った中身は経路の今の中身
      simp only [path?, Option.some.injEq] at hp
      subst hp
      right
      refine ⟨?_, SharedTable.view_editAt hv hr, hv.editAt hr w rfl⟩
      simp [step, expected, TableWrite.replaces_eq, SharedTable.entry_view, hr]
    | read rd =>
      cases rd with
      | entry q rd =>
        simp only [path?, Option.some.injEq] at hp
        subst hp
        right
        simp [step, expected, TableRead.read_entry, SharedTable.entry_view, hr, write?, hv]
      | paths => simp [path?] at hp
  | absent =>
    cases c with
    | write w =>
      -- 外側の write lock の区画：ほかの thread が先に作った中身があればそれに書く
      right
      refine ⟨?_, SharedTable.view_writeEntry hv, hv.writeEntry w⟩
      simp [step, expected, TableWrite.replaces_eq, SharedTable.entry_view, Function.comp_def]
    | read rd =>
      left
      cases rd <;> exact ⟨rfl, hph, ht⟩

/-- 一歩の後も、前からある鍵の番号は変わらない。 -/
theorem ref?_step (hq : st.ref? q = some r) : (c.step ph st).2.ref? q = some r := by
  cases c with
  | write w =>
    cases ph with
    | start => cases hp : st.ref? w.path <;> simp [step, hp, hq]
    | found k => exact hq
    | absent => exact SharedTable.ref?_writeEntry hq
    | done o => exact hq
  | read rd =>
    cases rd with
    | entry p rd =>
      cases ph with
      | start => cases hp : st.ref? p <;> simp [step, hp, hq]
      | _ => exact hq
    | paths => cases ph <;> exact hq

end TableCall

/-! ## 交錯 -/

/-- 共有の表と、呼び出しの並びと、thread ごとの段階と、返った thread の順。 -/
structure TableWorld where
  shared : SharedTable
  calls : List TableCall
  phase : Nat → TablePhase
  history : List Nat

namespace TableWorld

/-- 空の表で、呼び出しをそれぞれ一つの thread で始める。 -/
def init (calls : List TableCall) : TableWorld := ⟨{}, calls, fun _ => .start, []⟩

/-- thread `i` を一歩進める。返ったなら `history` に足す。 -/
def step (w : TableWorld) (i : Nat) : TableWorld :=
  match w.calls[i]? with
  | none => w
  | some c =>
    if (w.phase i).isDone then w
    else
      { w with
        shared := (c.step (w.phase i) w.shared).2
        phase := Function.update w.phase i (c.step (w.phase i) w.shared).1
        history := if (c.step (w.phase i) w.shared).1.isDone then w.history ++ [i] else w.history }

/-- 返っていない thread を一歩進めた世界。 -/
theorem step_of_running {w : TableWorld} {i : Nat} {c : TableCall} (hc : w.calls[i]? = some c)
    (hph : (w.phase i).isDone = false) :
    w.step i =
      { w with
        shared := (c.step (w.phase i) w.shared).2
        phase := Function.update w.phase i (c.step (w.phase i) w.shared).1
        history := if (c.step (w.phase i) w.shared).1.isDone then w.history ++ [i] else w.history } := by
  simp [step, hc, hph]

/-- スケジュールのとおりに進める。 -/
def run (w : TableWorld) : List Nat → TableWorld
  | [] => w
  | i :: is => (w.step i).run is

/-- 進めても呼び出しの並びは変わらない。 -/
@[simp] theorem calls_step (w : TableWorld) (i : Nat) : (w.step i).calls = w.calls := by
  unfold step
  split
  · rfl
  · split <;> rfl

@[simp] theorem calls_run (w : TableWorld) (is : List Nat) : (w.run is).calls = w.calls := by
  induction is generalizing w with
  | nil => rfl
  | cons i is ih => simp [run, ih]

end TableWorld

/-- thread の列 `hist` の書き込みを、その順に。 -/
def writesOf (calls : List TableCall) (hist : List Nat) : List TableWrite :=
  hist.filterMap fun j => calls[j]?.bind TableCall.write?

theorem writesOf_append_singleton {calls : List TableCall} {hist : List Nat} {i : Nat} {c : TableCall}
    (hc : calls[i]? = some c) : writesOf calls (hist ++ [i]) = writesOf calls hist ++ c.write?.toList := by
  cases h : c.write? <;> simp [writesOf, hc, h]

/-- 空の表からどのスケジュールでも届く世界。 -/
inductive TableReachable : TableWorld → Prop
  | init (calls : List TableCall) : TableReachable (TableWorld.init calls)
  | step {w : TableWorld} (hw : TableReachable w) (i : Nat) : TableReachable (w.step i)

theorem TableReachable.run {w : TableWorld} (hw : TableReachable w) (is : List Nat) :
    TableReachable (w.run is) := by
  induction is generalizing w with
  | nil => exact hw
  | cons i is ih => exact ih (hw.step i)

/-! ## 交錯の不変条件 -/

/-- 最後の要素を足した列を前と後ろに分けると、足した要素で分けたか、前の列を分けたもの。 -/
theorem eq_append_cons_of_append_singleton {l pre post : List Nat} {a b : Nat}
    (h : l ++ [a] = pre ++ b :: post) : (pre = l ∧ b = a) ∨ ∃ post₀, l = pre ++ b :: post₀ := by
  rcases List.eq_nil_or_concat post with rfl | ⟨post₀, c, rfl⟩
  · obtain ⟨hl, hb⟩ := List.append_inj' h rfl
    simp only [List.cons.injEq, and_true] at hb
    exact .inl ⟨hl.symm, hb.symm⟩
  · have h' : l ++ [a] = (pre ++ b :: post₀) ++ [c] := by simp [h]
    exact .inr ⟨post₀, (List.append_inj' h' rfl).1⟩

/-- 交錯のどの時点でも成り立つこと。 -/
structure TableWorld.Linearized (w : TableWorld) : Prop where
  /-- 共有の表は形の約束を満たす。 -/
  valid : w.shared.Valid
  /-- 中身を写し取った thread の番号は、経路の今の番号。 -/
  tracks : ∀ i (c : TableCall), w.calls[i]? = some c → c.Tracks (w.phase i) w.shared
  /-- 見える表は、返った書き込みを返った順に空の表に行った表。 -/
  table : w.shared.view = TableWrite.run (writesOf w.calls w.history) []
  /-- 返った thread は一度ずつ並ぶ。 -/
  nodup : w.history.Nodup
  /-- 返った thread の順に並ぶのは、返った thread だけ。 -/
  mem_history : ∀ i, i ∈ w.history ↔ i < w.calls.length ∧ (w.phase i).isDone = true
  /-- 返った thread は、それより前に返った書き込みを行った表で、順に行う呼び出しの値を返した。 -/
  outcome : ∀ pre i post, w.history = pre ++ i :: post →
    ∃ c : TableCall, w.calls[i]? = some c ∧
      w.phase i = .done (c.expected (TableWrite.run (writesOf w.calls pre) []))

namespace TableWorld.Linearized

variable {w : TableWorld} {i : Nat} {c : TableCall}

theorem init (calls : List TableCall) : (TableWorld.init calls).Linearized where
  valid := ⟨Table.valid_nil, fun _ _ h => (nomatch h), fun _ _ _ h => (nomatch h)⟩
  tracks _ _ _ _ h := nomatch h
  table := rfl
  nodup := List.nodup_nil
  mem_history i := by simp [TableWorld.init, TablePhase.isDone]
  outcome pre i post h := by simp [TableWorld.init] at h

/-- 返っていない thread は、返った順に並んでいない。 -/
theorem not_mem_history (h : w.Linearized) (hph : (w.phase i).isDone = false) : i ∉ w.history :=
  fun hi => by simp [(h.mem_history i).mp hi] at hph

/-- 返らない一歩：thread `i` の段階だけが変わる。 -/
theorem internal (h : w.Linearized) (hc : w.calls[i]? = some c) (hph : (w.phase i).isDone = false)
    {ph' : TablePhase} (hph' : ph'.isDone = false) (ht : c.Tracks ph' w.shared) :
    { w with phase := Function.update w.phase i ph' }.Linearized := by
  have hi := h.not_mem_history hph
  refine ⟨h.valid, fun j c' hj => ?_, h.table, h.nodup, fun j => ?_, fun pre j post hh => ?_⟩
  · by_cases hji : j = i
    · subst hji
      rw [hc] at hj
      cases hj
      simpa using ht
    · simpa [Function.update_of_ne hji] using h.tracks j c' hj
  · by_cases hji : j = i
    · subst hji
      simp [hi, hph']
    · simpa [Function.update_of_ne hji] using h.mem_history j
  · -- 返った thread は `i` ではない
    have hji : j ≠ i := fun hji => hi (hji ▸ hh ▸ List.mem_append_right _ List.mem_cons_self)
    simpa [Function.update_of_ne hji] using h.outcome pre j post hh

/-- 返る一歩：thread `i` は順に行う呼び出しの値を返し、共有の表は書き込みを行った表になる。 -/
theorem complete (h : w.Linearized) (hc : w.calls[i]? = some c) (hph : (w.phase i).isDone = false)
    {st' : SharedTable} (hv : st'.Valid)
    (hview : st'.view = TableWrite.run c.write?.toList w.shared.view)
    (href : ∀ p r, w.shared.ref? p = some r → st'.ref? p = some r) :
    { w with shared := st', phase := Function.update w.phase i (.done (c.expected w.shared.view)),
             history := w.history ++ [i] }.Linearized := by
  have hi := h.not_mem_history hph
  refine ⟨hv, fun j c' hj => ?_, ?_, ?_, fun j => ?_, fun pre j post hh => ?_⟩
  · by_cases hji : j = i
    · subst hji
      intro r hr
      simp at hr
    · intro r hr
      obtain ⟨p, hp, hk⟩ := h.tracks j c' hj r (by simpa [Function.update_of_ne hji] using hr)
      exact ⟨p, hp, href p r hk⟩
  · rw [hview, h.table, writesOf_append_singleton hc, TableWrite.run_append]
  · refine List.nodup_append.mpr ⟨h.nodup, by simp, fun a ha b hb => ?_⟩
    rw [List.mem_singleton] at hb
    rintro rfl
    exact hi (hb ▸ ha)
  · have hlt : i < w.calls.length := (List.getElem?_eq_some_iff.mp hc).1
    by_cases hji : j = i
    · subst hji
      simp [hlt, TablePhase.isDone]
    · simpa [Function.update_of_ne hji, hji] using h.mem_history j
  · rcases eq_append_cons_of_append_singleton hh with ⟨rfl, rfl⟩ | ⟨post₀, hh₀⟩
    · -- 今返った thread：前に返った書き込みを行った表は今の見える表
      exact ⟨c, hc, by simp [h.table]⟩
    · have hji : j ≠ i := fun hji => hi (hji ▸ hh₀ ▸ List.mem_append_right _ List.mem_cons_self)
      simpa [Function.update_of_ne hji] using h.outcome pre j post₀ hh₀

theorem step (h : w.Linearized) (i : Nat) : (w.step i).Linearized := by
  cases hc : w.calls[i]? with
  | none => simpa [TableWorld.step, hc] using h
  | some c =>
    cases hph : (w.phase i).isDone with
    | true => simpa [TableWorld.step, hc, hph] using h
    | false =>
      rw [TableWorld.step_of_running hc hph]
      rcases TableCall.step_cases h.valid (h.tracks i c hc) hph with ⟨hst, hph', ht⟩ | ⟨hdone, hview, hv⟩
      · rw [hph', hst]
        exact h.internal hc hph hph' (hst ▸ ht)
      · rw [hdone]
        simp only [TablePhase.isDone, if_true]
        exact h.complete hc hph hv hview fun p r hr => TableCall.ref?_step hr

end TableWorld.Linearized

theorem TableReachable.linearized {w : TableWorld} (hw : TableReachable w) : w.Linearized := by
  induction hw with
  | init calls => exact TableWorld.Linearized.init calls
  | step _ i ih => exact ih.step i

/-! ## 順に行ったものと同じ -/

/-- 表への書き込みと参照をどの交錯で進めても、返った呼び出しを返った順に並べると、順に行ったものと
同じになる。返った呼び出しはどれも、それより前に返った書き込みを空の表に順に行った表で、順に行う
呼び出しと同じ値を返している。共有の表は返った書き込みを順に行った表で、どの経路と枠の処理も
そこに最後に書いた処理である（書き込みは失われない）。どの経路にも処理が一つはある。 -/
theorem table_linearizable {w : TableWorld} (hw : TableReachable w) :
    -- 返った呼び出しの値は、前に返った書き込みを行った表での、順に行う呼び出しの値
    (∀ pre i post, w.history = pre ++ i :: post → ∃ c : TableCall, w.calls[i]? = some c ∧
        w.phase i = .done (c.expected (TableWrite.run (writesOf w.calls pre) []))) ∧
    -- 返った順には、返った thread が一度ずつ並ぶ
    w.history.Nodup ∧ (∀ i, i ∈ w.history ↔ i < w.calls.length ∧ (w.phase i).isDone = true) ∧
    -- 見える表は、返った書き込みを返った順に行った表
    w.shared.view = TableWrite.run (writesOf w.calls w.history) [] ∧
    -- どの経路と枠の処理も、そこに最後に書いた処理
    (∀ p s, w.shared.view.handler? p s = TableWrite.lastHandler? (writesOf w.calls w.history) p s) ∧
    -- どの経路にも処理が一つはある
    (∀ p e, w.shared.view.entry? p = some e → e.handlers ≠ []) := by
  have h := hw.linearized
  refine ⟨h.outcome, h.nodup, h.mem_history, h.table, fun p s => ?_, h.valid.view.nonempty⟩
  rw [h.table, TableWrite.handler?_run]
  exact Option.or_none

/-- 新しい経路 `/a` に GET と POST を置く二つの呼び出し。 -/
def racingAdds : List TableCall :=
  let ok : Handler := fun _ => pure (Response.ofStatus Status.ok)
  [.write (.addHandler "/a" (.exact Method.get) ok), .write (.addHandler "/a" (.exact Method.post) ok)]

/-- 二つの thread がどちらも経路が無いのを見てから、順に外側の write lock の区画に入る交錯でも、
経路の中身は一つで、二つの枠の処理をどちらも持つ。 -/
theorem racing_adds_keep_both_slots :
    ((TableWorld.init racingAdds).run [0, 1]).phase 0 = .absent ∧
    ((TableWorld.init racingAdds).run [0, 1]).phase 1 = .absent ∧
    TableReachable ((TableWorld.init racingAdds).run [0, 1, 0, 1]) ∧
    ((TableWorld.init racingAdds).run [0, 1, 0, 1]).history = [0, 1] ∧
    ((TableWorld.init racingAdds).run [0, 1, 0, 1]).shared.view.paths = ["/a"] ∧
    ∀ s, (((TableWorld.init racingAdds).run [0, 1, 0, 1]).shared.view.handler? "/a" s).isSome ↔
      s = .exact Method.get ∨ s = .exact Method.post := by
  have hw := (TableReachable.init racingAdds).run [0, 1, 0, 1]
  have hhist : ((TableWorld.init racingAdds).run [0, 1, 0, 1]).history = [0, 1] := by decide
  refine ⟨rfl, rfl, hw, hhist, by decide, fun s => ?_⟩
  rw [(table_linearizable hw).2.2.2.2.1, hhist, TableWrite.isSome_lastHandler?]
  simp [writesOf, racingAdds, TableWorld.init, TableCall.write?, TableWrite.path, TableWrite.slot, eq_comm]

end HttpRouting
