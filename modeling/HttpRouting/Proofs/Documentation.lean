import Mathlib.Data.List.Basic
import HttpRouting.Proofs.Interleaving

/-!
# 文書と表の一致

文書（`Document`）は経路の登録が説明を書く先で、表とは別の lock の下にある。経路の登録は表に
書いてから文書に書くので、二つの書き込みの間に別の thread が入りうる。それでも、どのスケジュール
でも次が成り立つ（`document_agrees_with_table`）。

* 文書の経路は名前の順に並び、どの経路にも操作が一つはある。
* 文書に経路 `p`、method `m` の操作があれば、表にも `p` の `m` の枠に処理がある。
* GET、POST、PUT、PATCH、DELETE の枠にある操作は、`p` と `m` に説明を書いて最後に返った登録の
  説明に、その router の既定の引数を後ろに足したもの。

最後に返った登録は、返った順（`World.history`）で決まる。経路の登録は文書に書く段階で返るので、
文書に書いた順と返った順は同じになる。
-/

namespace HttpRouting

open OpenApi

variable {T : Type}

/-! ## 経路の操作の枠 -/

namespace OpenApi.PathItem

variable {item item' : PathItem} {m : Method} {op : Operation}

/-- 枠に置いた後は、その method ならその操作、ほかは前のまま。 -/
theorem operation_set (h : item.set m op = some item') (m' : Method) :
    item'.operation m' = if m' = m then some op else item.operation m' := by
  by_cases hmm : m' = m
  · subst hmm
    unfold set at h
    split at h <;> cases h <;> simp_all [operation]
  · have hn : m'.name ≠ m.name := fun e => hmm (Method.ext_name e)
    rw [if_neg hmm]
    unfold set at h
    split at h <;> cases h <;> unfold operation <;> split <;> simp_all

theorem isEmpty_set (h : item.set m op = some item') : item'.isEmpty = false := by
  unfold set at h
  split at h <;> cases h <;> simp [isEmpty]

theorem operation_of_isEmpty (h : item.isEmpty = true) (m : Method) : item.operation m = none := by
  simp only [isEmpty, Bool.and_eq_true, Option.isNone_iff_eq_none] at h
  unfold operation
  split <;> simp_all

theorem operation_empty (m : Method) : ({} : PathItem).operation m = none :=
  operation_of_isEmpty rfl m

/-- GET、POST、PUT、PATCH、DELETE には枠がある。 -/
theorem set_isSome (item : PathItem) (op : Operation)
    (hm : m ∈ [Method.get, Method.post, Method.put, Method.patch, Method.delete]) :
    (item.set m op).isSome := by
  simp only [List.mem_cons, List.not_mem_nil, or_false] at hm
  rcases hm with rfl | rfl | rfl | rfl | rfl <;> rfl

end OpenApi.PathItem

/-! ## 文書に説明を合わせる -/

namespace OpenApi.Document

variable {d : Document} {p q : String} {m m' : Method} {op : Operation}

theorem operation_getD (o : Option PathItem) (m : Method) :
    (o.getD {}).operation m = o.bind (·.operation m) := by
  cases o with
  | none => exact PathItem.operation_empty m
  | some item => rfl

/-- `merge` の三つの場合: 枠に置いて入れる、枠がなく空の組を取り除く、何もしない。 -/
theorem merge_cases (d : Document) (p : String) (m : Method) (op : Operation) :
    (∃ item', ((Keyed.find? p d.paths).getD {}).set m op = some item' ∧
        (d.merge p m op).1 = { d with paths := Keyed.insert p item' d.paths }) ∨
    (((Keyed.find? p d.paths).getD {}).set m op = none ∧
        ((Keyed.find? p d.paths).getD {}).isEmpty = true ∧
        (d.merge p m op).1 = { d with paths := Keyed.erase p d.paths }) ∨
    (((Keyed.find? p d.paths).getD {}).set m op = none ∧ (d.merge p m op).1 = d) := by
  cases hset : ((Keyed.find? p d.paths).getD {}).set m op with
  | some item' => exact .inl ⟨item', rfl, by simp [merge, hset]⟩
  | none =>
    cases he : ((Keyed.find? p d.paths).getD {}).isEmpty
    · exact .inr (.inr ⟨rfl, by simp [merge, hset, he]⟩)
    · exact .inr (.inl ⟨rfl, rfl, by simp [merge, hset, he]⟩)

/-- 合わせた後の経路の組は、前からある組か、`p` の枠に操作を置いた組。 -/
theorem mem_merge {item : PathItem} (h : (q, item) ∈ (d.merge p m op).1.paths) :
    (q, item) ∈ d.paths ∨ (q = p ∧ ((Keyed.find? p d.paths).getD {}).set m op = some item) := by
  rcases merge_cases d p m op with ⟨item', hset, hd'⟩ | ⟨-, -, hd'⟩ | ⟨-, hd'⟩ <;> rw [hd'] at h
  · rcases Keyed.mem_insert h with ⟨rfl, rfl⟩ | h
    · exact .inr ⟨rfl, hset⟩
    · exact .inl h
  · exact .inl (Keyed.mem_of_mem_erase h)
  · exact .inl h

theorem sorted_merge (hs : Keyed.Sorted d.paths) : Keyed.Sorted (d.merge p m op).1.paths := by
  rcases merge_cases d p m op with ⟨item', -, hd'⟩ | ⟨-, -, hd'⟩ | ⟨-, hd'⟩ <;> rw [hd']
  · exact hs.insert _ _
  · exact hs.erase _
  · exact hs

/-- 合わせた後に枠のある method `m'` で読むと、`p` と `m` ならその操作、ほかは前のまま。 -/
theorem operation_merge (hd : (Keyed.keys d.paths).Nodup)
    (hm' : m' ∈ [Method.get, Method.post, Method.put, Method.patch, Method.delete]) :
    (Keyed.find? q (d.merge p m op).1.paths).bind (·.operation m') =
      if q = p ∧ m' = m then some op else (Keyed.find? q d.paths).bind (·.operation m') := by
  rcases merge_cases d p m op with ⟨item', hset, hd'⟩ | ⟨hset, hempty, hd'⟩ | ⟨hset, hd'⟩
  · rw [hd']
    by_cases hq : q = p
    · subst hq
      simp only [Keyed.find?_insert, if_true, Option.bind_some, true_and]
      rw [PathItem.operation_set hset, operation_getD]
    · simp [hq]
  all_goals
    -- `m` に枠がないので `m' ≠ m`
    have hne : m' ≠ m := by
      rintro rfl
      have := PathItem.set_isSome ((Keyed.find? p d.paths).getD {}) op hm'
      rw [hset] at this
      cases this
    simp only [hne, and_false, if_false]
    rw [hd']
  · by_cases hq : q = p
    · subst hq
      rw [Keyed.find?_erase_self hd, ← operation_getD (Keyed.find? q d.paths),
        PathItem.operation_of_isEmpty hempty]
      rfl
    · rw [Keyed.find?_erase_of_ne hq]

end OpenApi.Document

/-! ## 一歩が表と文書に書くこと -/

namespace Call

variable {c : Call T} {ph : Phase} {reg : Registry}

/-- 説明を文書に書いて返った登録なら、その鍵、method、router、説明。 -/
def documented : Call T → Phase → Option (String × Method × Router T × Operation)
  | .endpoint r sub m _ (some (.ok op)), .done .registered => some (Path.join r.pathPrefix sub, m, r, op)
  | _, _ => none

theorem documented_of_isDone (c : Call T) (hph : ph.isDone = false) : c.documented ph = none := by
  cases ph <;> simp_all [Phase.isDone, documented]

/-- 一歩は表の処理を取り除かない。 -/
theorem isSome_handler?_step {p : String} {s : Slot} (h : (reg.table.handler? p s).isSome) :
    ((c.step ph reg).2.table.handler? p s).isSome := by
  cases c with
  | endpoint r sub m hd doc =>
    rcases doc with _ | (reason | op) <;> cases ph <;> cases hf : reg.frozen <;> simp_all [step] <;>
      split <;> simp_all
  | handle r sub hd =>
    cases ph <;> cases hf : reg.frozen <;> simp_all [step] <;> split <;> simp_all
  | build ifs address timeouts =>
    cases ha : ListenAddress.parse? ifs address <;> cases ph <;> cases hf : reg.frozen <;>
      simp_all [step]

/-- 文書を書くのは、説明のある経路の登録の最後の段階だけで、その段階で返る。 -/
theorem step_cases_document (c : Call T) (reg : Registry) (hph : ph.isDone = false) :
    (∃ r sub m h op, c = .endpoint r sub m h (some (.ok op)) ∧ ph = .writeDocument ∧
      c.step ph reg = (.done .registered, { reg with
        document := (reg.document.merge (Path.join r.pathPrefix sub) m
          { op with parameters := op.parameters ++ r.defaultParameters }).1 })) ∨
    ((c.step ph reg).2.document = reg.document ∧ c.documented (c.step ph reg).1 = none) := by
  cases c with
  | endpoint r sub m h doc =>
    rcases doc with _ | (reason | op) <;> cases ph
    all_goals first
      | exact .inl ⟨r, sub, m, h, _, rfl, rfl, rfl⟩
      | (right; cases hf : reg.frozen <;> simp_all [step, documented, Phase.isDone])
  | handle r sub h =>
    right
    cases ph <;> cases hf : reg.frozen <;> simp_all [step, documented, Phase.isDone]
  | build ifs address timeouts =>
    right
    cases ha : ListenAddress.parse? ifs address <;> cases ph <;> cases hf : reg.frozen <;>
      simp_all [step, documented, Phase.isDone]

/-- 文書の段階に入るのは、表にその経路の処理を置いた一歩。 -/
theorem step_eq_writeDocument (h : (c.step ph reg).1 = .writeDocument) :
    ph = .writeDocument ∨ ∃ r sub m hd doc, c = .endpoint r sub m hd doc ∧
      ((c.step ph reg).2.table.handler? (Path.join r.pathPrefix sub) (.exact m)).isSome := by
  cases c with
  | endpoint r sub m hd doc =>
    rcases doc with _ | (reason | op) <;> cases ph <;> cases hf : reg.frozen <;> simp_all [step]
  | handle r sub hd => cases ph <;> cases hf : reg.frozen <;> simp_all [step]
  | build ifs address timeouts =>
    cases ha : ListenAddress.parse? ifs address <;> cases ph <;> cases hf : reg.frozen <;>
      simp_all [step]

end Call

/-! ## 返った順 -/

namespace World

variable {w : World T} {i : Nat} {c : Call T} {ph : Phase}

/-- 返った順に、説明を文書に書いた登録。 -/
def documents (w : World T) : List (String × Method × Router T × Operation) :=
  w.history.filterMap fun j => (w.threads[j]?).bind fun x => x.1.documented x.2

/-- 経路 `p` と method `m` に説明を書いた登録のうち、最後に返ったものの router と説明。 -/
def lastDocumented (w : World T) (p : String) (m : Method) : Option (Router T × Operation) :=
  ((w.documents.filter fun d => decide (d.1 = p ∧ d.2.1 = m)).getLast?).map (·.2.2)

/-- `history` にある thread は返っている。 -/
def Returned (w : World T) : Prop :=
  ∀ j ∈ w.history, ∃ (c : Call T) (o : CallOutcome), w.threads[j]? = some (c, .done o)

theorem Returned.step (hr : w.Returned) (i : Nat) : (w.step i).Returned := by
  cases hi : w.threads[i]? with
  | none => rw [step_of_getElem?_eq_none hi]; exact hr
  | some x =>
    obtain ⟨c, ph⟩ := x
    intro j hj
    rw [history_step hi] at hj
    by_cases hji : j = i
    · subst hji
      rw [getElem?_threads_step_self hi]
      -- 選んだ thread は前から返っていたか、この一歩で返った
      have hdone : (c.step ph w.registry).1.isDone = true := by
        split at hj
        · rename_i hnew
          exact hnew.2
        · obtain ⟨c', o, hj'⟩ := hr j hj
          rw [hi, Option.some.injEq, Prod.mk.injEq] at hj'
          rw [hj'.2, Call.step_done]
          rfl
      obtain ⟨o, ho⟩ := Phase.isDone_iff.mp hdone
      exact ⟨c, o, by rw [ho]⟩
    · rw [getElem?_threads_step_of_ne hji]
      split at hj
      · rcases List.mem_append.mp hj with hj | hj
        · exact hr j hj
        · exact absurd (List.mem_singleton.mp hj) hji
      · exact hr j hj

/-- 返っていない thread の一歩は、この一歩で説明を書いて返った登録だけを後ろに足す。 -/
theorem documents_step (hr : w.Returned) (hi : w.threads[i]? = some (c, ph))
    (hd : ph.isDone = false) :
    (w.step i).documents = w.documents ++ (c.documented (c.step ph w.registry).1).toList := by
  -- `history` にある thread は返っているので、選んだ thread ではない
  have hkeep : ∀ j ∈ w.history, (w.step i).threads[j]? = w.threads[j]? := by
    intro j hj
    apply getElem?_threads_step_of_ne
    rintro rfl
    obtain ⟨c', o, hj'⟩ := hr j hj
    rw [hi, Option.some.injEq, Prod.mk.injEq] at hj'
    rw [hj'.2] at hd
    cases hd
  have hold : (w.history.filterMap fun j => ((w.step i).threads[j]?).bind fun x => x.1.documented x.2) =
      w.documents :=
    List.filterMap_congr fun j hj => by rw [hkeep j hj]
  show (w.step i).history.filterMap _ = w.documents ++ _
  rw [history_step hi]
  by_cases hnew : (c.step ph w.registry).1.isDone = true
  · rw [if_pos ⟨hd, hnew⟩, List.filterMap_append, hold]
    simp only [List.filterMap_cons, List.filterMap_nil, getElem?_threads_step_self hi,
      Option.bind_some]
    cases c.documented (c.step ph w.registry).1 <;> rfl
  · rw [if_neg fun h => hnew h.2, hold,
      Call.documented_of_isDone c (Bool.eq_false_iff.mpr hnew), Option.toList_none, List.append_nil]

/-- 説明を一つ後ろに足すと、その経路と method では最後のものがそれになる。 -/
theorem lastDocumented_of_documents {w' : World T} {d : String × Method × Router T × Operation}
    (h : w'.documents = w.documents ++ [d]) (p : String) (m : Method) :
    w'.lastDocumented p m = if p = d.1 ∧ m = d.2.1 then some d.2.2 else w.lastDocumented p m := by
  have hsingle : [d].filter (fun d => decide (d.1 = p ∧ d.2.1 = m)) =
      if p = d.1 ∧ m = d.2.1 then [d] else [] := by
    by_cases hd : p = d.1 ∧ m = d.2.1
    · simp [hd.1, hd.2]
    · rw [if_neg hd, List.filter_eq_nil_iff]
      intro d' hd'
      rw [List.mem_singleton.mp hd', decide_eq_true_eq]
      exact fun e => hd ⟨e.1.symm, e.2.symm⟩
  unfold lastDocumented
  rw [h, List.filter_append, hsingle]
  split
  · rw [List.getLast?_concat]
    rfl
  · rw [List.append_nil]

end World

/-! ## 不変条件

文書と表の一致に、名前の順、返った順、書きかけの登録についての条件を足すと、どの一歩でも保たれる。
文書を書かない一歩（`step_of_document_eq`）と、文書に説明を合わせる一歩（`step_of_merge`）に分ける。 -/

/-- 文書が表と返った順に合っている。文書に書く前の登録は、表に処理を置き終えている。 -/
structure DocumentInv (w : World T) : Prop where
  sorted : Keyed.Sorted w.registry.document.paths
  nonempty : ∀ p item, (p, item) ∈ w.registry.document.paths → item.isEmpty = false
  backed : ∀ p item (m : Method) op, (p, item) ∈ w.registry.document.paths →
    item.operation m = some op → (w.registry.table.handler? p (.exact m)).isSome
  pending : ∀ (j : Nat) (r : Router T) sub m h doc,
    w.threads[j]? = some (.endpoint r sub m h doc, .writeDocument) →
      (w.registry.table.handler? (Path.join r.pathPrefix sub) (.exact m)).isSome
  returned : w.Returned
  latest : ∀ p (m : Method), m ∈ [Method.get, Method.post, Method.put, Method.patch, Method.delete] →
    (Keyed.find? p w.registry.document.paths).bind (·.operation m) =
      (w.lastDocumented p m).map fun ro =>
        { ro.2 with parameters := ro.2.parameters ++ ro.1.defaultParameters }

namespace DocumentInv

variable {w : World T}

theorem init {c : RouterConfig T} {doc : OpenApi.Config} {r : Router T} {reg : Registry}
    (hroot : Router.root c doc = .ok (r, reg)) (calls : List (Call T)) :
    DocumentInv (World.init reg calls) := by
  rw [Router.root_registry hroot]
  refine ⟨?_, ?_, ?_, ?_, ?_, ?_⟩
  · simp [Keyed.Sorted, Keyed.keys, Document.ofConfig, World.init]
  · simp [Document.ofConfig, World.init]
  · simp [Document.ofConfig, World.init]
  · simp [World.init]
  · simp [World.Returned, World.init]
  · simp [World.init, World.lastDocumented, World.documents, Keyed.find?, Document.ofConfig]

/-- 文書を書かず、説明を書いて返る登録もない一歩。 -/
theorem step_of_document_eq (h : DocumentInv w) {i : Nat} {c : Call T} {ph : Phase}
    (hi : w.threads[i]? = some (c, ph)) (hd : ph.isDone = false)
    (hdoc : (c.step ph w.registry).2.document = w.registry.document)
    (hnone : c.documented (c.step ph w.registry).1 = none) : DocumentInv (w.step i) := by
  have hreg := World.registry_step hi
  have hdoc' : (w.step i).registry.document = w.registry.document := by rw [hreg, hdoc]
  have hlast : ∀ p m, (w.step i).lastDocumented p m = w.lastDocumented p m := by
    intro p m
    unfold World.lastDocumented
    rw [World.documents_step h.returned hi hd, hnone, Option.toList_none, List.append_nil]
  have hmono : ∀ p s, (w.registry.table.handler? p s).isSome →
      ((w.step i).registry.table.handler? p s).isSome := by
    intro p s hs
    rw [hreg]
    exact Call.isSome_handler?_step hs
  refine ⟨?_, ?_, ?_, ?_, h.returned.step i, ?_⟩
  · rw [hdoc']
    exact h.sorted
  · rw [hdoc']
    exact h.nonempty
  · rw [hdoc']
    intro p item m op hp hop
    exact hmono _ _ (h.backed p item m op hp hop)
  · intro j r sub m hh doc hj
    by_cases hji : j = i
    · subst hji
      rw [World.getElem?_threads_step_self hi, Option.some.injEq, Prod.mk.injEq] at hj
      obtain ⟨rfl, hph⟩ := hj
      -- 文書の段階にいたか、この一歩で表に処理を置いた
      rcases Call.step_eq_writeDocument hph with rfl | ⟨r', sub', m', hh', doc', hc, hs⟩
      · exact hmono _ _ (h.pending j r sub m hh doc hi)
      · cases hc
        rw [hreg]
        exact hs
    · rw [World.getElem?_threads_step_of_ne hji] at hj
      exact hmono _ _ (h.pending j r sub m hh doc hj)
  · intro p m hm
    rw [hdoc', hlast]
    exact h.latest p m hm

/-- 説明のある経路の登録が、文書に説明を合わせて返る一歩。 -/
theorem step_of_merge (h : DocumentInv w) {i : Nat} {r : Router T} {sub : String} {m : Method}
    {hh : T} {op : Operation}
    (hi : w.threads[i]? = some (.endpoint r sub m hh (some (.ok op)), .writeDocument)) :
    DocumentInv (w.step i) := by
  have hreg : (w.step i).registry = { w.registry with
      document := (w.registry.document.merge (Path.join r.pathPrefix sub) m
        { op with parameters := op.parameters ++ r.defaultParameters }).1 } := by
    rw [World.registry_step hi]
    rfl
  have hdocs : (w.step i).documents = w.documents ++ [(Path.join r.pathPrefix sub, m, r, op)] := by
    rw [World.documents_step h.returned hi rfl]
    rfl
  -- 書く前に表に置いた処理
  have hhandler := h.pending i r sub m hh _ hi
  refine ⟨?_, ?_, ?_, ?_, h.returned.step i, ?_⟩
  · rw [hreg]
    exact Document.sorted_merge h.sorted
  · rw [hreg]
    intro p item hp
    rcases Document.mem_merge hp with hp | ⟨-, hset⟩
    · exact h.nonempty p item hp
    · exact PathItem.isEmpty_set hset
  · rw [hreg]
    intro p item m' o hp ho
    rcases Document.mem_merge hp with hp | ⟨rfl, hset⟩
    · exact h.backed p item m' o hp ho
    · rw [PathItem.operation_set hset] at ho
      split at ho
      · rename_i hm
        subst hm
        exact hhandler
      · rw [Document.operation_getD] at ho
        obtain ⟨it, hit, hop⟩ := Option.bind_eq_some_iff.mp ho
        exact h.backed _ it m' o (Keyed.mem_of_find? hit) hop
  · intro j r' sub' m' hh' doc' hj
    by_cases hji : j = i
    · subst hji
      rw [World.getElem?_threads_step_self hi] at hj
      simp [Call.step] at hj
    · rw [World.getElem?_threads_step_of_ne hji] at hj
      rw [hreg]
      exact h.pending j r' sub' m' hh' doc' hj
  · intro p m' hm'
    rw [World.lastDocumented_of_documents hdocs, hreg]
    dsimp only
    rw [Document.operation_merge h.sorted.nodup hm']
    by_cases hq : p = Path.join r.pathPrefix sub ∧ m' = m
    · rw [if_pos hq, if_pos hq]
      rfl
    · rw [if_neg hq, if_neg hq]
      exact h.latest p m' hm'

theorem step (h : DocumentInv w) (i : Nat) : DocumentInv (w.step i) := by
  cases hi : w.threads[i]? with
  | none =>
    rw [World.step_of_getElem?_eq_none hi]
    exact h
  | some x =>
    obtain ⟨c, ph⟩ := x
    cases hd : ph.isDone
    · rcases Call.step_cases_document c w.registry hd with ⟨r, sub, m, hh, op, rfl, rfl, -⟩ | ⟨hdoc, hnone⟩
      · exact h.step_of_merge hi
      · exact h.step_of_document_eq hi hd hdoc hnone
    · rw [World.step_of_isDone hi hd]
      exact h

theorem reachable {w : World T} (hw : Reachable w) : DocumentInv w := by
  induction hw with
  | init hroot calls => exact init hroot calls
  | step _ i ih => exact ih.step i

end DocumentInv

/-- どのスケジュールでも、文書の経路は名前の順に並び、どの経路にも操作が一つはあり、文書にある
操作の枠には表にも処理がある。GET、POST、PUT、PATCH、DELETE の枠の操作は、その経路と method に
説明を書いて最後に返った登録の説明に、その router の既定の引数を後ろに足したもの。 -/
theorem document_agrees_with_table {w : World T} (hw : Reachable w) :
    Keyed.Sorted w.registry.document.paths ∧
    (∀ p item, (p, item) ∈ w.registry.document.paths → item.isEmpty = false) ∧
    (∀ p item (m : Method) op, (p, item) ∈ w.registry.document.paths →
      item.operation m = some op → (w.registry.table.handler? p (.exact m)).isSome) ∧
    (∀ p (m : Method), m ∈ [Method.get, Method.post, Method.put, Method.patch, Method.delete] →
      (Keyed.find? p w.registry.document.paths).bind (·.operation m) =
        (w.lastDocumented p m).map fun ro =>
          { ro.2 with parameters := ro.2.parameters ++ ro.1.defaultParameters }) := by
  have h := DocumentInv.reachable hw
  exact ⟨h.sorted, h.nonempty, h.backed, h.latest⟩

/-- 同じ経路 `/users` の GET に、説明の違う二つの登録を同時に始める。 -/
def racingUsersCalls : List (Call Handler) :=
  [.endpoint slashRouter "users" Method.get okHandler (some (.ok (Operation.new.withSummary "first"))),
   .endpoint slashRouter "users" Method.get okHandler (some (.ok (Operation.new.withSummary "second")))]

/-- 二つとも表に書いた後、後に始めた方が先に文書に書いて返り、先に始めた方が後に返った世界。 -/
def racingUsersWorld : World Handler :=
  (World.init slashRegistry racingUsersCalls).run [0, 1, 0, 1, 1, 0]

/-- 最後に返った登録の説明が残る。 -/
theorem racing_users_keeps_last_returned :
    Reachable racingUsersWorld ∧
      (Keyed.find? "/users" racingUsersWorld.registry.document.paths).bind (·.operation Method.get) =
        some (Operation.new.withSummary "first") := by
  have hw : Reachable racingUsersWorld := (Reachable.init root_slash _).run _
  refine ⟨hw, ?_⟩
  rw [(document_agrees_with_table hw).2.2.2 "/users" Method.get (by simp)]
  rfl

end HttpRouting
