import HttpRouting.Proofs.Documentation
import HttpRouting.Proofs.TableRefinement

/-!
# 書き込みの記録

経路の登録は、表に一つ書き込み（`Call.tableWrite?`）、説明があれば文書に一つ合わせる
（`Call.docWrite?`）。凍結していない登録簿から登録の列を行い終えると、登録簿は、最初の登録簿に
その書き込みを何かの順に行ったものになる（`WrittenFrom`）。

* 順に行えば、書き込みの順は呼び出しの順（`Call.run_of_registers`）。
* thread ごとに始めてどのスケジュールで進めても、全部が返れば、表の書き込みの順と文書の書き込みの
  順は、それぞれ呼び出しの書き込みの並べ替えになる（`World.WriteLog.writtenFrom`）。二つの順は同じ
  とは限らない。

thread の記録（`World.tableLog`、`World.docLog`）は、表に書き終えた thread と文書に書き終えた
thread の書き込みを、thread の順に並べたもの。一歩で記録に加わる書き込みは高々一つで、それは
その一歩が登録簿に行った書き込みである（`Call.step_tableLog`、`Call.step_docLog`）。記録の順と
書き込みの順は違うので、不変条件は「登録簿は記録の並べ替えを行ったもの」と言う（`World.WriteLog`）。
-/

namespace HttpRouting

open OpenApi

variable {T : Type}

/-! ## 列の一つの要素を置き換える -/

section

variable {α β : Type} {l : List α} {i : Nat} {x y : α} {f : α → Option β}

/-- 置き換えた要素が同じ値に移るなら、`filterMap` は変わらない。 -/
theorem filterMap_set_of_eq (hx : l[i]? = some x) (h : f y = f x) : (l.set i y).filterMap f = l.filterMap f := by
  obtain ⟨hi, rfl⟩ := List.getElem?_eq_some_iff.mp hx
  conv => rhs; rw [← List.take_append_drop i l, List.drop_eq_getElem_cons hi]
  rw [List.set_eq_take_append_cons_drop, if_pos hi, List.filterMap_append, List.filterMap_append,
    List.filterMap_cons, List.filterMap_cons, h]

/-- 何にも移らなかった要素を `b` に移る要素に置き換えると、`filterMap` は `b` を後ろに足したものの
並べ替えになる。 -/
theorem filterMap_set_perm (hx : l[i]? = some x) (hfx : f x = none) {b : β} (hfy : f y = some b) :
    ((l.set i y).filterMap f).Perm (l.filterMap f ++ [b]) := by
  obtain ⟨hi, rfl⟩ := List.getElem?_eq_some_iff.mp hx
  have hl : l = l.take i ++ l[i] :: l.drop (i + 1) := by
    conv => lhs; rw [← List.take_append_drop i l, List.drop_eq_getElem_cons hi]
  rw [List.set_eq_take_append_cons_drop, if_pos hi, hl, List.filterMap_append, List.filterMap_append,
    List.filterMap_cons, List.filterMap_cons, hfx, hfy]
  simp only
  rw [← hl]
  exact List.perm_middle.trans (List.perm_append_singleton _ _).symm

end

/-! ## 呼び出しの書き込み -/

/-- 説明を文書に合わせる書き込みを順に行う。 -/
def OpenApi.Document.mergeAll (d : Document) (ds : List (String × Method × Operation)) : Document :=
  ds.foldl (fun d x => (d.merge x.1 x.2.1 x.2.2).1) d

namespace OpenApi.Document

@[simp] theorem mergeAll_nil (d : Document) : d.mergeAll [] = d := rfl

theorem mergeAll_cons (d : Document) (x : String × Method × Operation) (ds : List (String × Method × Operation)) :
    d.mergeAll (x :: ds) = (d.merge x.1 x.2.1 x.2.2).1.mergeAll ds := rfl

theorem mergeAll_append (d : Document) (ds ds' : List (String × Method × Operation)) :
    d.mergeAll (ds ++ ds') = (d.mergeAll ds).mergeAll ds' :=
  List.foldl_append

end OpenApi.Document

namespace Call

/-- 経路の登録で、説明が無いか作れた。組み立てと、説明を作れない登録は含まない。 -/
def registers : Call T → Bool
  | .endpoint _ _ _ _ (some (.error _)) => false
  | .endpoint .. => true
  | .handle .. => true
  | .build .. => false

/-- 登録が表に行う書き込み。 -/
def tableWrite? : Call T → Option TableWrite
  | .endpoint r sub m h _ =>
    some (.addEndpoint (Path.join r.pathPrefix sub) (.exact m) (r.wrap m (Path.join r.pathPrefix sub) h)
      r.allowedHeaders)
  | .handle r sub h => some (.addHandler (Path.joinMount r.pathPrefix sub) .any h)
  | .build .. => none

/-- 説明のある登録が文書に合わせるもの：鍵、method、既定の引数を後ろに足した説明。 -/
def docWrite? : Call T → Option (String × Method × Operation)
  | .endpoint r sub m _ (some (.ok op)) =>
    some (Path.join r.pathPrefix sub, m, { op with parameters := op.parameters ++ r.defaultParameters })
  | _ => none

/-- 登録が書く (鍵, 枠)。 -/
def target? (c : Call T) : Option (String × Slot) := c.tableWrite?.map fun w => (w.path, w.slot)

variable {c : Call T} {reg : Registry}

/-- 凍結していない登録簿への登録は、表に一つ書き込み、説明があれば文書に合わせる。 -/
theorem apply_of_registers (hc : c.registers = true) (hf : reg.frozen = false) :
    ∃ w, c.tableWrite? = some w ∧
      c.apply reg = { reg with table := w.apply reg.table, document := reg.document.mergeAll c.docWrite?.toList } := by
  cases c with
  | endpoint r sub m h doc =>
    rcases doc with _ | (reason | op)
    · exact ⟨_, rfl, by simp [apply, perform, Router.endpoint_of_open r reg sub m h hf, Except.map, docWrite?]; rfl⟩
    · cases hc
    · refine ⟨_, rfl, ?_⟩
      simp [apply, perform, Router.endpoint_documented r reg sub m h op hf, Except.map, docWrite?,
        Document.mergeAll]
      rfl
  | handle r sub h =>
    exact ⟨_, rfl, by simp [apply, perform, Router.handle_of_open r reg sub h hf, Except.map, docWrite?]; rfl⟩
  | build ifs address timeouts => cases hc

/-- 凍結していない登録簿に登録を順に行うと、表の書き込みも文書の書き込みも呼び出しの順に行われ、
凍結の印は立たない。 -/
theorem run_of_registers (calls : List (Call T)) (hc : ∀ c ∈ calls, c.registers = true)
    (hf : reg.frozen = false) :
    (Call.run calls reg).frozen = false ∧
      (Call.run calls reg).table = TableWrite.run (calls.filterMap tableWrite?) reg.table ∧
      (Call.run calls reg).document = reg.document.mergeAll (calls.filterMap docWrite?) := by
  induction calls generalizing reg with
  | nil => exact ⟨hf, rfl, rfl⟩
  | cons c cs ih =>
    obtain ⟨w, hw, happly⟩ := apply_of_registers (hc c List.mem_cons_self) hf
    obtain ⟨hf', htable, hdoc⟩ :=
      @ih (c.apply reg) (fun c' hc' => hc c' (List.mem_cons_of_mem _ hc')) (by rw [happly]; exact hf)
    refine ⟨hf', ?_, ?_⟩
    · rw [Call.run_cons, htable, happly, List.filterMap_cons, hw]
      rfl
    · rw [Call.run_cons, hdoc, happly, List.filterMap_cons]
      cases c.docWrite? <;> rfl

end Call

/-- 登録簿 `reg` は、`reg₀` に、登録の列 `calls` の表の書き込みと文書の書き込みを、それぞれ何かの
順に行ったもの。凍結の印は変わらない。 -/
structure WrittenFrom (reg₀ : Registry) (calls : List (Call T)) (reg : Registry) : Prop where
  frozen : reg.frozen = reg₀.frozen
  table : ∃ ws, ws.Perm (calls.filterMap Call.tableWrite?) ∧ reg.table = TableWrite.run ws reg₀.table
  document : ∃ ds, ds.Perm (calls.filterMap Call.docWrite?) ∧ reg.document = reg₀.document.mergeAll ds

/-- 呼び出しを並べ替えても、書き込みの並べ替えであることは変わらない。 -/
theorem WrittenFrom.perm {reg₀ reg : Registry} {calls calls' : List (Call T)} (h : WrittenFrom reg₀ calls reg)
    (hp : calls.Perm calls') : WrittenFrom reg₀ calls' reg where
  frozen := h.frozen
  table := by
    obtain ⟨ws, hws, ht⟩ := h.table
    exact ⟨ws, hws.trans (hp.filterMap _), ht⟩
  document := by
    obtain ⟨ds, hds, hd⟩ := h.document
    exact ⟨ds, hds.trans (hp.filterMap _), hd⟩

/-! ## thread の記録 -/

namespace Phase

/-- 登録が表に書き終えた段階。 -/
def wroteTable : Phase → Bool
  | .writeDocument | .done .registered => true
  | _ => false

/-- 登録が文書に書き終えた段階（書くものがあれば）。 -/
def wroteDocument : Phase → Bool
  | .done .registered => true
  | _ => false

/-- 登録が通る段階：始める前、表の段階、文書の段階、登録して返った。 -/
def registering : Phase → Bool
  | .start | .writeTable | .writeDocument | .done .registered => true
  | _ => false

/-- 登録が通る段階で返ったものは、登録して返った段階だけ。 -/
theorem eq_registered_of_isDone {ph : Phase} (hr : ph.registering = true) (hd : ph.isDone = true) :
    ph = .done .registered := by
  obtain ⟨o, rfl⟩ := isDone_iff.mp hd
  cases o with
  | registered => rfl
  | built a t paths => simp [registering] at hr
  | failed e => simp [registering] at hr

end Phase

namespace Call

/-- thread の記録に載る、表の書き込み。 -/
def tableLog (c : Call T) (ph : Phase) : Option TableWrite := if ph.wroteTable then c.tableWrite? else none

/-- thread の記録に載る、文書の書き込み。 -/
def docLog (c : Call T) (ph : Phase) : Option (String × Method × Operation) :=
  if ph.wroteDocument then c.docWrite? else none

variable {c : Call T} {ph : Phase} {reg : Registry}

/-! 登録の一歩が登録簿のどこを書くかを、段階ごとに一度だけ言う。表を書くのは表の区画、文書を書くのは
文書の区画だけ。 -/

/-- 凍結していない登録簿では、登録の始めの一歩は登録簿を変えずに表の区画に進む。 -/
theorem step_start_of_registers (hc : c.registers = true) (hf : reg.frozen = false) :
    c.step .start reg = (.writeTable, reg) := by
  cases c with
  | endpoint r sub m h doc =>
    rcases doc with _ | (reason | op)
    · simp [step, hf]
    · cases hc
    · simp [step, hf]
  | handle r sub h => simp [step, hf]
  | build ifs address timeouts => cases hc

/-- 登録の表の区画の一歩は、表に登録の書き込みを行い、文書に合わせるものがあれば文書の区画へ、
なければ登録して返る。 -/
theorem step_writeTable_of_registers (reg : Registry) (hc : c.registers = true) :
    ∃ w, c.tableWrite? = some w ∧
      c.step .writeTable reg = (if c.docWrite?.isSome then .writeDocument else .done .registered,
        { reg with table := w.apply reg.table }) := by
  cases c with
  | endpoint r sub m h doc =>
    refine ⟨_, rfl, ?_⟩
    rcases doc with _ | (reason | op)
    · rfl
    · cases hc
    · rfl
  | handle r sub h => exact ⟨_, rfl, rfl⟩
  | build ifs address timeouts => cases hc

/-- 文書の区画の一歩は、合わせるものがあれば文書に合わせて登録して返り、なければ何もしない。 -/
theorem step_writeDocument_eq (c : Call T) (reg : Registry) :
    c.step .writeDocument reg = match c.docWrite? with
      | some d => (.done .registered, { reg with document := reg.document.mergeAll [d] })
      | none => (.writeDocument, reg) := by
  cases c with
  | endpoint r sub m h doc => rcases doc with _ | (reason | op) <;> rfl
  | handle r sub h => rfl
  | build ifs address timeouts => rfl

/-- 凍結していない登録簿では、登録は登録の段階を進み、凍結の印を立てない。 -/
theorem step_registering (hc : c.registers = true) (hf : reg.frozen = false) (hph : ph.registering = true) :
    (c.step ph reg).2.frozen = false ∧ (c.step ph reg).1.registering = true := by
  cases ph with
  | start => rw [step_start_of_registers hc hf]; exact ⟨hf, rfl⟩
  | writeTable =>
    obtain ⟨w, -, hw⟩ := step_writeTable_of_registers reg hc
    rw [hw]
    refine ⟨hf, ?_⟩
    split
    · rfl
    · rfl
  | writeDocument =>
    rw [step_writeDocument_eq]
    split
    · exact ⟨hf, rfl⟩
    · exact ⟨hf, rfl⟩
  | snapshot a => simp [Phase.registering] at hph
  | done o => rw [step_done]; exact ⟨hf, hph⟩

/-- 一歩で表の記録に加わる書き込みは高々一つで、それはその一歩が表に行った書き込み。 -/
theorem step_tableLog (hc : c.registers = true) (hf : reg.frozen = false) (hph : ph.registering = true) :
    ((c.step ph reg).2.table = reg.table ∧ c.tableLog (c.step ph reg).1 = c.tableLog ph) ∨
      (c.tableLog ph = none ∧
        ∃ w, c.tableLog (c.step ph reg).1 = some w ∧ (c.step ph reg).2.table = w.apply reg.table) := by
  cases ph with
  | writeTable =>
    -- 表の区画: 表に登録の書き込みを行い、次の段階でそれが記録に載る
    obtain ⟨w, hw, hstep⟩ := step_writeTable_of_registers reg hc
    refine .inr ⟨rfl, w, ?_, by rw [hstep]⟩
    rw [hstep]
    split
    · exact hw
    · exact hw
  | start => rw [step_start_of_registers hc hf]; exact .inl ⟨rfl, rfl⟩
  | writeDocument =>
    -- 文書の区画は表を書かず、表に書き終えたことも変わらない
    rw [step_writeDocument_eq]
    split
    · exact .inl ⟨rfl, rfl⟩
    · exact .inl ⟨rfl, rfl⟩
  | snapshot a => simp [Phase.registering] at hph
  | done o => rw [step_done]; exact .inl ⟨rfl, rfl⟩

/-- 一歩で文書の記録に加わる書き込みは高々一つで、それはその一歩が文書に合わせたもの。 -/
theorem step_docLog (hc : c.registers = true) (hf : reg.frozen = false) (hph : ph.registering = true) :
    ((c.step ph reg).2.document = reg.document ∧ c.docLog (c.step ph reg).1 = c.docLog ph) ∨
      (c.docLog ph = none ∧
        ∃ d, c.docLog (c.step ph reg).1 = some d ∧ (c.step ph reg).2.document = reg.document.mergeAll [d]) := by
  cases ph with
  | writeDocument =>
    -- 文書の区画: 合わせるものがあれば文書に合わせ、返った段階でそれが記録に載る
    rw [step_writeDocument_eq]
    cases hd : c.docWrite? with
    | some d => exact .inr ⟨rfl, d, hd, rfl⟩
    | none => exact .inl ⟨rfl, rfl⟩
  | start => rw [step_start_of_registers hc hf]; exact .inl ⟨rfl, rfl⟩
  | writeTable =>
    -- 表の区画は文書を書かない。文書の区画を飛ばして返るのは、合わせるものがない登録だけ
    obtain ⟨w, -, hstep⟩ := step_writeTable_of_registers reg hc
    rw [hstep]
    refine .inl ⟨rfl, ?_⟩
    cases hd : c.docWrite? with
    | some d => rfl
    | none => simp [docLog, hd, Phase.wroteDocument]
  | snapshot a => simp [Phase.registering] at hph
  | done o => rw [step_done]; exact .inl ⟨rfl, rfl⟩

end Call

namespace World

/-- 表に書き終えた thread の書き込みを、thread の順に並べたもの。 -/
def tableLog (w : World T) : List TableWrite := w.threads.filterMap fun x => x.1.tableLog x.2

/-- 文書に書き終えた thread の書き込みを、thread の順に並べたもの。 -/
def docLog (w : World T) : List (String × Method × Operation) := w.threads.filterMap fun x => x.1.docLog x.2

/-- 全部の thread が返った。 -/
def Complete (w : World T) : Prop := ∀ x ∈ w.threads, x.2.isDone = true

/-- `reg₀` から thread ごとに始めた登録の列 `calls` の世界の不変条件：thread の呼び出しは `calls`
のまま、凍結の印は立たず、どの thread も登録の段階にあり、表と文書は、`reg₀` にそれぞれの記録の
並べ替えを行ったもの。 -/
structure WriteLog (reg₀ : Registry) (calls : List (Call T)) (w : World T) : Prop where
  calls : w.threads.map Prod.fst = calls
  frozen : w.registry.frozen = false
  registering : ∀ x ∈ w.threads, x.1.registers = true ∧ x.2.registering = true
  table : ∃ ws, ws.Perm w.tableLog ∧ w.registry.table = TableWrite.run ws reg₀.table
  document : ∃ ds, ds.Perm w.docLog ∧ w.registry.document = reg₀.document.mergeAll ds

namespace WriteLog

variable {reg₀ : Registry} {calls : List (Call T)} {w : World T}

theorem init (hf : reg₀.frozen = false) (hc : ∀ c ∈ calls, c.registers = true) :
    WriteLog reg₀ calls (World.init reg₀ calls) where
  calls := by simp [World.init, Function.comp_def]
  frozen := hf
  registering x hx := by
    obtain ⟨c, hc', rfl⟩ := List.mem_map.mp hx
    exact ⟨hc c hc', rfl⟩
  table := ⟨[], by simp [World.tableLog, World.init, Call.tableLog, Phase.wroteTable], rfl⟩
  document := ⟨[], by simp [World.docLog, World.init, Call.docLog, Phase.wroteDocument], rfl⟩

/-- 一歩は不変条件を保つ。選んだ thread の一歩が書き込めば、その書き込みを記録の後ろに足した列を
行ったことになる。 -/
theorem step (h : WriteLog reg₀ calls w) (i : Nat) : WriteLog reg₀ calls (w.step i) := by
  cases hi : w.threads[i]? with
  | none => rwa [step_of_getElem?_eq_none hi]
  | some x =>
    obtain ⟨c, ph⟩ := x
    by_cases hd : ph.isDone = true
    · rwa [step_of_isDone hi hd]
    have hthreads : (w.step i).threads = w.threads.set i (c, (c.step ph w.registry).1) := by
      simp [World.step, hi, hd]
    have hreg := registry_step hi
    obtain ⟨hc, hph⟩ := h.registering _ (List.mem_of_getElem? hi)
    obtain ⟨hf', hph'⟩ := Call.step_registering hc h.frozen hph
    refine ⟨?_, by rw [hreg]; exact hf', ?_, ?_, ?_⟩
    · -- 選んだ thread の呼び出しは変わらない
      rw [hthreads, List.map_set, ← h.calls]
      have hfst : (w.threads.map Prod.fst)[i]? = some c := by simp [hi]
      obtain ⟨hlt, hget⟩ := List.getElem?_eq_some_iff.mp hfst
      rw [← hget, List.set_getElem_self hlt]
    · intro y hy
      rw [hthreads] at hy
      rcases List.mem_or_eq_of_mem_set hy with hy | rfl
      · exact h.registering y hy
      · exact ⟨hc, hph'⟩
    · obtain ⟨ws, hws, ht⟩ := h.table
      have hlog : ∀ g : Call T × Phase → Option TableWrite, g = (fun x => x.1.tableLog x.2) →
          (w.step i).tableLog = (w.threads.set i (c, (c.step ph w.registry).1)).filterMap g := by
        rintro g rfl
        rw [World.tableLog, hthreads]
      rcases Call.step_tableLog hc h.frozen hph with ⟨hsame, hlog'⟩ | ⟨hnone, tw, hsome, happly⟩
      · refine ⟨ws, ?_, by rw [hreg, hsame, ht]⟩
        rw [hlog _ rfl, filterMap_set_of_eq hi hlog']
        exact hws
      · refine ⟨ws ++ [tw], ?_, by rw [hreg, happly, ht, TableWrite.run_append]; rfl⟩
        rw [hlog _ rfl]
        exact ((hws.append_right [tw])).trans (filterMap_set_perm hi hnone hsome).symm
    · obtain ⟨ds, hds, hdoc⟩ := h.document
      have hlog : ∀ g : Call T × Phase → Option (String × Method × Operation), g = (fun x => x.1.docLog x.2) →
          (w.step i).docLog = (w.threads.set i (c, (c.step ph w.registry).1)).filterMap g := by
        rintro g rfl
        rw [World.docLog, hthreads]
      rcases Call.step_docLog hc h.frozen hph with ⟨hsame, hlog'⟩ | ⟨hnone, d, hsome, hmerge⟩
      · refine ⟨ds, ?_, by rw [hreg, hsame, hdoc]⟩
        rw [hlog _ rfl, filterMap_set_of_eq hi hlog']
        exact hds
      · refine ⟨ds ++ [d], ?_, by rw [hreg, hmerge, hdoc, Document.mergeAll_append]⟩
        rw [hlog _ rfl]
        exact ((hds.append_right [d])).trans (filterMap_set_perm hi hnone hsome).symm

theorem run (h : WriteLog reg₀ calls w) (is : List Nat) : WriteLog reg₀ calls (w.run is) := by
  induction is generalizing w with
  | nil => exact h
  | cons i is ih => exact ih (h.step i)

/-- 全部の thread が返れば、どの thread も登録して返っているので、記録は呼び出しの書き込みを
呼び出しの順に並べたもの。 -/
theorem writtenFrom (h : WriteLog reg₀ calls w) (hdone : w.Complete) (hf₀ : reg₀.frozen = false) :
    WrittenFrom reg₀ calls w.registry := by
  have hreg : ∀ x ∈ w.threads, x.2 = .done .registered := fun x hx =>
    Phase.eq_registered_of_isDone (h.registering x hx).2 (hdone x hx)
  refine ⟨by rw [h.frozen, hf₀], ?_, ?_⟩
  · obtain ⟨ws, hws, ht⟩ := h.table
    refine ⟨ws, ?_, ht⟩
    have hlog : w.tableLog = (w.threads.map Prod.fst).filterMap Call.tableWrite? := by
      rw [World.tableLog, List.filterMap_map]
      exact List.filterMap_congr fun x hx => by simp [Call.tableLog, hreg x hx, Phase.wroteTable]
    rwa [hlog, h.calls] at hws
  · obtain ⟨ds, hds, hdoc⟩ := h.document
    refine ⟨ds, ?_, hdoc⟩
    have hlog : w.docLog = (w.threads.map Prod.fst).filterMap Call.docWrite? := by
      rw [World.docLog, List.filterMap_map]
      exact List.filterMap_congr fun x hx => by simp [Call.docLog, hreg x hx, Phase.wroteDocument]
    rwa [hlog, h.calls] at hds

end WriteLog

end World

/-- `reg₀` から登録の列 `calls` を行い終えた登録簿：順に行ったものか、thread ごとに始めてどこかの
スケジュールで全部を返らせたもの。 -/
inductive Performed (reg₀ : Registry) (calls : List (Call T)) : Registry → Prop
  | sequential : Performed reg₀ calls (Call.run calls reg₀)
  | interleaved (is : List Nat) (hdone : ((World.init reg₀ calls).run is).Complete) :
      Performed reg₀ calls ((World.init reg₀ calls).run is).registry

/-- 凍結していない登録簿から登録の列を行い終えた登録簿は、どの行い方でも、書き込みを何かの順に
行ったもの。 -/
theorem Performed.writtenFrom {reg₀ reg : Registry} {calls : List (Call T)} (hp : Performed reg₀ calls reg)
    (hc : ∀ c ∈ calls, c.registers = true) (hf : reg₀.frozen = false) : WrittenFrom reg₀ calls reg := by
  cases hp with
  | sequential =>
    obtain ⟨hf', ht, hd⟩ := Call.run_of_registers calls hc hf
    exact ⟨by rw [hf', hf], ⟨_, List.Perm.refl _, ht⟩, ⟨_, List.Perm.refl _, hd⟩⟩
  | interleaved is hdone => exact ((World.WriteLog.init hf hc).run is).writtenFrom hdone hf

end HttpRouting
