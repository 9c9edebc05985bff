import HttpRouting.Proofs.Table

/-!
# 二段の表は平たい表を細かくしたもの

経路の表は、経路の鍵から経路の中身への表と、中身の中の枠から処理への表の二段からなる。
`addHandler` と `addEndpoint` を空の表に順に行う（`TableWrite.run`）と、読んだ値はどれも、
(経路, 枠) から処理への平たい表に同じ書き込みを行って読んだ値と同じになる
（`table_refines_flat_map`）。

* `handler?` は、その経路と枠に最後に書いた処理（`TableWrite.lastHandler?`）。
* 書き込みが返す値（`TableWrite.replaces`、置く前の `occupied`）は、前に同じ経路と枠への書き込みが
  あったときだけ真。
* 経路の鍵の並びは、書いた経路を重複なく名前の順に並べたもの。
* 経路の枠の並びは、その経路に書いた枠を重複なく名前の順（`any` は `*`）に並べたもの。
* 経路の method の並びは、その経路の専用の枠の method を重複なく名前の順に並べたもの。
* 経路の一覧（`listing`）は、鍵ごとにその枠の名前を並べたもの。

## 表の形の約束

並びの性質は、書き込みが保つ形の約束（`Table.Valid`）から出る。鍵は名前の順に狭義に並び、経路の
中の枠は重ならず、どの経路にも処理が一つはある。空の表はこれを満たし、どの書き込みもこれを保つ
（`Table.Valid.apply`）。
-/

namespace HttpRouting

/-! ## 経路の中身の枠 -/

namespace Entry

variable {e : Entry} {s : Slot} {h : Handler}

/-- 枠に置いても、ほかの枠の名札は変わらず、置いた枠が無ければ後ろに足される。 -/
theorem slots_put_nodup (hd : (e.handlers.map (·.1)).Nodup) :
    ((e.put s h).handlers.map (·.1)).Nodup := by
  unfold put
  split
  · -- 置き換えでは、どの組の名札も変わらない
    have hfst : ((e.handlers.map fun p => if p.1 == s then (s, h) else p).map (·.1)) =
        e.handlers.map (·.1) := by
      rw [List.map_map]
      refine List.map_congr_left fun p _ => ?_
      by_cases hp : p.1 = s <;> simp [hp]
    rw [hfst]
    exact hd
  · rename_i hany
    have hs : s ∉ e.handlers.map (·.1) := fun hs => by
      obtain ⟨p, hp, rfl⟩ := List.mem_map.mp hs
      exact hany (List.any_eq_true.mpr ⟨p, hp, by simp⟩)
    rw [List.map_append, List.nodup_append]
    refine ⟨hd, by simp, fun a ha b hb => ?_⟩
    simp only [List.map_cons, List.map_nil, List.mem_singleton] at hb
    subst hb
    rintro rfl
    exact hs ha

theorem handlers_put_ne_nil : (e.put s h).handlers ≠ [] := by
  unfold put
  split
  · rename_i hany
    obtain ⟨p, hp, -⟩ := List.any_eq_true.mp hany
    simpa using List.ne_nil_of_mem hp
  · simp

end Entry

/-! ## 書き込み -/

/-- 表への書き込みの呼び出し。 -/
inductive TableWrite where
  /-- 枠に処理を置く（`Table.addHandler`）。 -/
  | addHandler (path : String) (slot : Slot) (h : Handler)
  /-- 枠に処理を置き、追加の header 名を足す（`Table.addEndpoint`）。 -/
  | addEndpoint (path : String) (slot : Slot) (h : Handler) (headers : List String)

namespace TableWrite

/-- 書く経路。 -/
def path : TableWrite → String
  | .addHandler p _ _ | .addEndpoint p _ _ _ => p

/-- 書く枠。 -/
def slot : TableWrite → Slot
  | .addHandler _ s _ | .addEndpoint _ s _ _ => s

/-- 置く処理。 -/
def handler : TableWrite → Handler
  | .addHandler _ _ h | .addEndpoint _ _ h _ => h

/-- 経路の中身への書き込み（経路の中身の lock の下で走る関数）。 -/
def edit : TableWrite → Entry → Entry
  | .addHandler _ s h => fun e => e.put s h
  | .addEndpoint _ s h hs => fun e => { e with allowedHeaders := addHeaderNames e.allowedHeaders hs }.put s h

/-- 書き込んだ後の表。 -/
def apply (w : TableWrite) (t : Table) : Table := t.modify w.path w.edit

/-- 書き込みが返す値：置く前にその経路と枠に処理があったか。 -/
def replaces (w : TableWrite) (t : Table) : Bool := t.occupied w.path w.slot

/-- 順に書き込んだ後の表。 -/
def run (ws : List TableWrite) (t : Table) : Table := ws.foldl (fun t w => w.apply t) t

/-- 平たい表で引いた値：その経路と枠に最後に書いた処理。 -/
def lastHandler? (ws : List TableWrite) (p : String) (s : Slot) : Option Handler :=
  (ws.reverse.find? fun w => w.path == p && w.slot == s).map (·.handler)

theorem apply_handler (p : String) (s : Slot) (h : Handler) (t : Table) :
    (TableWrite.addHandler p s h).apply t = t.addHandler p s h := rfl

theorem apply_endpoint (p : String) (s : Slot) (h : Handler) (hs : List String) (t : Table) :
    (TableWrite.addEndpoint p s h hs).apply t = t.addEndpoint p s h hs := rfl

@[simp] theorem run_nil (t : Table) : run [] t = t := rfl

@[simp] theorem run_cons (w : TableWrite) (ws : List TableWrite) (t : Table) :
    run (w :: ws) t = run ws (w.apply t) := rfl

theorem run_append (ws ws' : List TableWrite) (t : Table) : run (ws ++ ws') t = run ws' (run ws t) := by
  simp [run, List.foldl_append]

/-- 書き込みは、経路の中身の枠について `put` と同じ。 -/
theorem handlers_edit (w : TableWrite) (e : Entry) : (w.edit e).handlers = (e.put w.slot w.handler).handlers := by
  cases w with
  | addHandler p s h => rfl
  | addEndpoint p s h hs =>
    simp only [edit, slot, handler, Entry.put]
    by_cases hany : (e.handlers.any fun x => x.fst == s) = true <;> simp [hany]

theorem handler?_apply (w : TableWrite) (t : Table) (p : String) (s : Slot) :
    (w.apply t).handler? p s = if p = w.path ∧ s = w.slot then some w.handler else t.handler? p s := by
  cases w with
  | addHandler q s' h => exact Table.handler?_addHandler t q p s' s h
  | addEndpoint q s' h hs => exact Table.handler?_addEndpoint t q p s' s h hs

/-- 後から書いたものが先に引かれる。 -/
theorem lastHandler?_cons (w : TableWrite) (ws : List TableWrite) (p : String) (s : Slot) :
    lastHandler? (w :: ws) p s =
      (lastHandler? ws p s).or (if p = w.path ∧ s = w.slot then some w.handler else none) := by
  unfold lastHandler?
  rw [List.reverse_cons, List.find?_append]
  cases ws.reverse.find? (fun w => w.path == p && w.slot == s) with
  | some w' => rfl
  | none =>
    by_cases hw : p = w.path ∧ s = w.slot
    · simp [hw]
    · have : (w.path == p && w.slot == s) = false := by
        simp only [Bool.and_eq_false_iff, beq_eq_false_iff_ne]
        by_cases hp : p = w.path
        · exact .inr fun hs => hw ⟨hp, hs.symm⟩
        · exact .inl fun h => hp h.symm
      simp [this, hw]

theorem isSome_lastHandler? {ws : List TableWrite} {p : String} {s : Slot} :
    (lastHandler? ws p s).isSome ↔ ∃ w ∈ ws, w.path = p ∧ w.slot = s := by
  simp [lastHandler?, List.find?_isSome]

/-- 書き込みの列の後の処理は、列の中で最後に書いたもの、無ければ前の表のもの。 -/
theorem handler?_run (ws : List TableWrite) (t : Table) (p : String) (s : Slot) :
    (run ws t).handler? p s = (lastHandler? ws p s).or (t.handler? p s) := by
  induction ws generalizing t with
  | nil => rfl
  | cons w ws ih =>
    rw [run_cons, ih, handler?_apply, lastHandler?_cons, Option.or_assoc]
    split <;> rfl

theorem mem_paths_run {ws : List TableWrite} {t : Table} {p : String} :
    p ∈ (run ws t).paths ↔ (∃ w ∈ ws, w.path = p) ∨ p ∈ t.paths := by
  induction ws generalizing t with
  | nil => simp
  | cons w ws ih =>
    rw [run_cons, ih, apply, Table.mem_paths_modify]
    simp only [List.mem_cons, exists_eq_or_imp]
    constructor
    · rintro (h | rfl | h)
      · exact .inl (.inr h)
      · exact .inl (.inl rfl)
      · exact .inr h
    · rintro ((rfl | h) | h)
      · exact .inr (.inl rfl)
      · exact .inl h
      · exact .inr (.inr h)

end TableWrite

/-! ## 表の形の約束 -/

namespace Table

/-- 置く前にその枠に処理があるかは、処理を引いて見つかるかと同じ。 -/
theorem occupied_eq_isSome (t : Table) (p : String) (s : Slot) :
    t.occupied p s = (t.handler? p s).isSome := by
  unfold occupied handler?
  cases t.entry? p with
  | none => rfl
  | some e =>
    simp only [Option.map_some, Option.getD_some, Option.bind_some, Option.isSome_map]
    rw [Bool.eq_iff_iff, List.any_eq_true, List.find?_isSome]

/-- 経路の表の形の約束。 -/
structure Valid (t : Table) : Prop where
  /-- 鍵は名前の順に狭義に並ぶ。 -/
  sorted : Keyed.Sorted t
  /-- 経路の中の枠は重ならない。 -/
  nodup : ∀ p e, t.entry? p = some e → (e.handlers.map (·.1)).Nodup
  /-- どの経路にも処理が一つはある。 -/
  nonempty : ∀ p e, t.entry? p = some e → e.handlers ≠ []

theorem valid_nil : Valid [] where
  sorted := by simp [Keyed.Sorted, Keyed.keys]
  nodup _ _ h := nomatch h
  nonempty _ _ h := nomatch h

/-- 書き込みは表の形の約束を保つ。 -/
theorem Valid.apply {t : Table} (ht : t.Valid) (w : TableWrite) : (w.apply t).Valid where
  sorted := ht.sorted.insert _ _
  nodup := by
    intro p e he
    rw [TableWrite.apply, entry_modify] at he
    split at he
    · cases he
      rw [TableWrite.handlers_edit]
      apply Entry.slots_put_nodup
      cases hq : t.entry? w.path with
      | none => simp
      | some e => exact ht.nodup _ e hq
    · exact ht.nodup p e he
  nonempty := by
    intro p e he
    rw [TableWrite.apply, entry_modify] at he
    split at he
    · cases he
      rw [TableWrite.handlers_edit]
      exact Entry.handlers_put_ne_nil
    · exact ht.nonempty p e he

theorem Valid.run {t : Table} (ht : t.Valid) (ws : List TableWrite) : (TableWrite.run ws t).Valid := by
  induction ws generalizing t with
  | nil => exact ht
  | cons w ws ih => exact ih (ht.apply w)

/-- 経路の枠は名前の順に並ぶ。 -/
theorem pairwise_slots (t : Table) (p : String) : (t.slots p).Pairwise fun a b => a.name ≤ b.name := by
  unfold slots
  cases t.entry? p with
  | none => simp
  | some e =>
    refine (List.pairwise_mergeSort ?_ ?_ _).imp fun h => by simpa using h
    · intro a b c hab hbc
      simp only [decide_eq_true_eq] at *
      exact String.le_trans hab hbc
    · intro a b
      simpa using String.le_total a.name b.name

theorem Valid.nodup_slots {t : Table} (ht : t.Valid) (p : String) : (t.slots p).Nodup := by
  unfold slots
  cases he : t.entry? p with
  | none => simp
  | some e => exact (List.mergeSort_perm _ _).nodup_iff.mpr (ht.nodup p e he)

/-- 経路の method は名前の順に狭義に並ぶ。 -/
theorem Valid.pairwise_methods {t : Table} (ht : t.Valid) (p : String) :
    (t.methods p).Pairwise fun a b => a.name < b.name := by
  unfold methods
  refine List.Pairwise.filterMap _ ?_ ((pairwise_slots t p).and (ht.nodup_slots p))
  rintro (a | _) (a' | _) ⟨hle, hne⟩ m hm m' hm' <;> simp only [Slot.method?, reduceCtorEq,
    Option.some.injEq] at hm hm'
  rw [← hm, ← hm']
  -- 枠が違えば method も違い、名前も違う
  have hname : a.name ≠ a'.name := fun h => hne (by rw [Method.ext_name h])
  exact String.not_le.mp fun h => hname (String.le_antisymm hle h)

/-- 鍵が重ならない表の一覧は、鍵ごとにその枠の名前を並べたもの。 -/
theorem listing_eq {t : Table} (hd : (Keyed.keys t).Nodup) :
    t.listing = t.paths.map fun p => (p, (t.slots p).map Slot.name) := by
  induction t with
  | nil => rfl
  | cons q rest ih =>
    obtain ⟨p, e⟩ := q
    rw [Keyed.keys, List.map_cons, List.nodup_cons] at hd
    have hrest : ∀ q ∈ Keyed.keys rest, Table.slots ((p, e) :: rest) q = Table.slots rest q := by
      intro q hq
      have hqp : q ≠ p := fun h => hd.1 (h ▸ hq)
      simp [slots, entry?, Keyed.find?, hqp]
    have hhead : Table.slots ((p, e) :: rest) p = e.slots := by simp [slots, entry?, Keyed.find?]
    have hmap : (Table.paths rest).map (fun q => (q, (Table.slots ((p, e) :: rest) q).map Slot.name)) =
        (Table.paths rest).map fun q => (q, (Table.slots rest q).map Slot.name) :=
      List.map_congr_left fun q hq => by rw [hrest q hq]
    calc Table.listing ((p, e) :: rest)
        = (p, e.slots.map Slot.name) :: Table.listing rest := rfl
      _ = (p, e.slots.map Slot.name) ::
            (Table.paths rest).map fun q => (q, (Table.slots rest q).map Slot.name) := by rw [ih hd.2]
      _ = (p, (Table.slots ((p, e) :: rest) p).map Slot.name) ::
            (Table.paths rest).map fun q => (q, (Table.slots ((p, e) :: rest) q).map Slot.name) := by
          rw [hhead, hmap]

end Table

/-! ## 平たい表との一致 -/

/-- 空の表に書き込みを順に行うと、読んだ値は (経路, 枠) から処理への平たい表のものと同じ。
処理はその経路と枠に最後に書いたもの、書き込みが返す値は前に同じ経路と枠への書き込みがあったか。
鍵の並びは書いた経路を重複なく名前の順に、枠の並びはその経路に書いた枠を重複なく名前の順に、
method の並びはその経路の専用の枠の method を重複なく名前の順に並べたもので、一覧は鍵ごとにその
枠の名前を並べたもの。 -/
theorem table_refines_flat_map (ws : List TableWrite) :
    (∀ p s, (TableWrite.run ws []).handler? p s = TableWrite.lastHandler? ws p s) ∧
    (∀ pre w post, ws = pre ++ w :: post →
      (w.replaces (TableWrite.run pre []) = true ↔ ∃ w' ∈ pre, w'.path = w.path ∧ w'.slot = w.slot)) ∧
    (TableWrite.run ws []).paths.Pairwise (· < ·) ∧
    (∀ p, p ∈ (TableWrite.run ws []).paths ↔ ∃ w ∈ ws, w.path = p) ∧
    (∀ p, ((TableWrite.run ws []).slots p).Pairwise (fun a b => a.name ≤ b.name) ∧
      ((TableWrite.run ws []).slots p).Nodup ∧
      ∀ s, s ∈ (TableWrite.run ws []).slots p ↔ ∃ w ∈ ws, w.path = p ∧ w.slot = s) ∧
    (∀ p, ((TableWrite.run ws []).methods p).Pairwise (fun a b => a.name < b.name) ∧
      ∀ m, m ∈ (TableWrite.run ws []).methods p ↔ ∃ w ∈ ws, w.path = p ∧ w.slot = .exact m) ∧
    (TableWrite.run ws []).listing =
      (TableWrite.run ws []).paths.map fun p => (p, ((TableWrite.run ws []).slots p).map Slot.name) := by
  have hvalid := Table.valid_nil.run ws
  have hhandler : ∀ (ws : List TableWrite) p s,
      (TableWrite.run ws []).handler? p s = TableWrite.lastHandler? ws p s := fun ws p s => by
    rw [TableWrite.handler?_run]
    exact Option.or_none
  refine ⟨hhandler ws, ?_, hvalid.sorted, fun p => ?_, fun p => ⟨?_, hvalid.nodup_slots p, fun s => ?_⟩,
    fun p => ⟨hvalid.pairwise_methods p, fun m => ?_⟩, Table.listing_eq hvalid.sorted.nodup⟩
  · intro pre w post _
    rw [TableWrite.replaces, Table.occupied_eq_isSome, hhandler, TableWrite.isSome_lastHandler?]
  · rw [TableWrite.mem_paths_run, or_iff_left (by simp [Table.paths])]
  · exact Table.pairwise_slots _ p
  · rw [Table.mem_slots_iff, hhandler, TableWrite.isSome_lastHandler?]
  · rw [Table.mem_methods_iff, hhandler, TableWrite.isSome_lastHandler?]

/-- `/a` に POST、GET、`/a/` に method を問わない処理、もう一度 `/a` に POST を書く列。 -/
def sampleWrites : List TableWrite :=
  let ok : Handler := fun _ => pure (Response.ofStatus Status.ok)
  [.addEndpoint "/a" (.exact Method.post) ok ["X-One"], .addHandler "/a" (.exact Method.get) ok,
    .addHandler "/a/" .any ok, .addEndpoint "/a" (.exact Method.post) ok ["x-one"]]

example : (TableWrite.run sampleWrites []).paths = ["/a", "/a/"] := by decide

end HttpRouting
