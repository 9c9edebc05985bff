import HttpRouting.Router.Table

/-!
# 表を書いた後に読む

名前の順の表（`Keyed`）と経路の表（`Table`）について、書いた後に読むと何が返るかを言う。
どの法則も「書いた鍵と枠ならその値、ほかは前のまま」の形をしている。

* `Keyed.find?_insert` — 入れた名前ならその値、ほかは前のまま。
* `Keyed.mem_insert` — 入れた後の組は、入れた組か前からある組。
* `Keyed.Sorted.ext` — 名前の順に並んだ表は、名前で引いた値で決まる。
* `Table.entry_modify`、`Table.mem_paths_modify` — 経路の中身と鍵の並び。
* `Table.handler?_addHandler`、`Table.handler?_addEndpoint` — 置いた経路と枠ならその処理。
* `Table.mem_slots_iff`、`Table.mem_methods_iff` — 並びにある枠と method は、処理がある枠。
-/

namespace HttpRouting

/-- method は名前で決まる。 -/
theorem Method.ext_name {m m' : Method} (h : m.name = m'.name) : m = m' := by
  cases m
  cases m'
  cases h
  rfl

namespace Keyed

variable {α : Type}

/-- 表の名前の並び。 -/
def keys (m : List (String × α)) : List String := m.map (·.1)

theorem mem_keys_iff_isSome {k : String} {m : List (String × α)} :
    k ∈ keys m ↔ (find? k m).isSome := by
  induction m with
  | nil => simp [keys, find?]
  | cons p rest ih =>
    obtain ⟨j, w⟩ := p
    by_cases h : k = j
    · simp [keys, find?, h]
    · simp only [keys, List.map_cons, List.mem_cons, find?, h, if_false, false_or] at ih ⊢
      exact ih

@[simp] theorem find?_insert (k k' : String) (v : α) (m : List (String × α)) :
    find? k (insert k' v m) = if k = k' then some v else find? k m := by
  induction m with
  | nil => simp [insert, find?]
  | cons p rest ih =>
    obtain ⟨j, w⟩ := p
    simp only [insert]
    by_cases hlt : k' < j
    · simp [hlt, find?]
    · by_cases hj : k' = j
      · subst hj
        by_cases hk : k = k' <;> simp [find?, hk]
      · by_cases hk : k = j
        · subst hk
          have hne : k ≠ k' := Ne.symm hj
          simp [hlt, hj, find?, hne]
        · simp [hlt, hj, find?, hk, ih]

theorem mem_keys_insert {k k' : String} {v : α} {m : List (String × α)} :
    k ∈ keys (insert k' v m) ↔ k = k' ∨ k ∈ keys m := by
  rw [mem_keys_iff_isSome, mem_keys_iff_isSome, find?_insert]
  by_cases h : k = k' <;> simp [h]

/-- 入れた後の組は、入れた組か前からある組。 -/
theorem mem_insert {k k' : String} {v v' : α} {m : List (String × α)}
    (h : (k, v) ∈ insert k' v' m) : (k = k' ∧ v = v') ∨ (k, v) ∈ m := by
  induction m with
  | nil => simp_all [insert]
  | cons p rest ih =>
    obtain ⟨j, w⟩ := p
    simp only [insert] at h
    split at h
    · rw [List.mem_cons, Prod.mk.injEq] at h
      exact h
    · split at h
      · rw [List.mem_cons, Prod.mk.injEq] at h
        exact h.imp_right (List.mem_cons_of_mem _)
      · rw [List.mem_cons] at h
        rcases h with h | h
        · exact .inr (h ▸ List.mem_cons_self)
        · exact (ih h).imp_right (List.mem_cons_of_mem _)

theorem mem_of_find? {k : String} {v : α} {m : List (String × α)} (h : find? k m = some v) :
    (k, v) ∈ m := by
  induction m with
  | nil => simp [find?] at h
  | cons p rest ih =>
    obtain ⟨j, w⟩ := p
    simp only [find?] at h
    split at h
    · cases h
      simp_all
    · exact List.mem_cons_of_mem _ (ih h)

/-- 取り除いた後の組は、前からある組。 -/
theorem mem_of_mem_erase {k k' : String} {v : α} {m : List (String × α)}
    (h : (k, v) ∈ erase k' m) : (k, v) ∈ m := by
  induction m with
  | nil => simp [erase] at h
  | cons p rest ih =>
    obtain ⟨j, w⟩ := p
    simp only [erase] at h
    split at h
    · exact List.mem_cons_of_mem _ h
    · simp only [List.mem_cons] at h
      rcases h with h | h
      · simp [h]
      · exact List.mem_cons_of_mem _ (ih h)

theorem find?_erase_of_ne {k k' : String} (h : k ≠ k') (m : List (String × α)) :
    find? k (erase k' m) = find? k m := by
  induction m with
  | nil => rfl
  | cons p rest ih =>
    obtain ⟨j, w⟩ := p
    by_cases hj : k' = j
    · subst hj
      simp [erase, find?, h]
    · simp only [erase, hj, if_false, find?]
      rw [ih]

theorem find?_erase_self {k : String} {m : List (String × α)} (hd : (keys m).Nodup) :
    find? k (erase k m) = none := by
  induction m with
  | nil => rfl
  | cons p rest ih =>
    obtain ⟨j, w⟩ := p
    rw [keys, List.map_cons, List.nodup_cons] at hd
    by_cases hj : k = j
    · subst hj
      simp only [erase, if_true]
      -- 同じ名前は後ろにない
      cases h : find? k rest with
      | none => rfl
      | some v => exact absurd (mem_keys_iff_isSome.mpr (by simp [h])) hd.1
    · simp only [erase, hj, if_false, find?]
      exact ih hd.2

/-- 名前が増える順に並んだ表。 -/
def Sorted (m : List (String × α)) : Prop := (keys m).Pairwise (· < ·)

theorem Sorted.nodup {m : List (String × α)} (h : Sorted m) : (keys m).Nodup :=
  h.imp String.ne_of_lt

/-- 入れても名前の順は崩れない。 -/
theorem Sorted.insert {m : List (String × α)} (h : Sorted m) (k : String) (v : α) :
    Sorted (insert k v m) := by
  induction m with
  | nil => simp [Sorted, keys, Keyed.insert]
  | cons p rest ih =>
    obtain ⟨j, w⟩ := p
    have hcons : (∀ x ∈ keys rest, j < x) ∧ Sorted rest := by
      simpa [Sorted, keys] using h
    simp only [Keyed.insert]
    split
    · -- 先頭の前に入る
      rename_i hkj
      simp only [Sorted, keys, List.map_cons, List.pairwise_cons, List.mem_cons] at h ⊢
      refine ⟨?_, h⟩
      rintro x (rfl | hx)
      · exact hkj
      · exact String.lt_trans hkj (hcons.1 x hx)
    · split
      · -- 先頭を置き換える
        rename_i _ hkj
        subst hkj
        simpa [Sorted, keys] using h
      · -- 先頭より後ろに入る
        rename_i hlt hne
        have hjk : j < k := String.not_le.mp fun hkj => hne (String.le_antisymm hkj (String.not_lt.mp hlt))
        simp only [Sorted, keys, List.map_cons, List.pairwise_cons]
        refine ⟨?_, ih hcons.2⟩
        intro x hx
        rcases mem_keys_insert.mp hx with rfl | hx
        · exact hjk
        · exact hcons.1 x hx

/-- どの名前より後の名前は、表の末尾に入る。 -/
theorem insert_eq_append {k : String} {v : α} {m : List (String × α)} (h : ∀ x ∈ keys m, x < k) :
    insert k v m = m ++ [(k, v)] := by
  induction m with
  | nil => rfl
  | cons p rest ih =>
    obtain ⟨j, w⟩ := p
    have hj : j < k := h j (by simp [keys])
    simp only [Keyed.insert, if_neg (String.lt_asymm hj), if_neg (Ne.symm (String.ne_of_lt hj))]
    rw [ih fun x hx => h x (by simp only [keys, List.map_cons, List.mem_cons] at hx ⊢; exact .inr hx)]
    rfl

theorem keys_erase_sublist (k : String) (m : List (String × α)) :
    (keys (erase k m)).Sublist (keys m) := by
  induction m with
  | nil => exact List.Sublist.refl _
  | cons p rest ih =>
    obtain ⟨j, w⟩ := p
    simp only [erase]
    split
    · exact List.sublist_cons_self _ _
    · exact ih.cons_cons j

theorem Sorted.erase {m : List (String × α)} (h : Sorted m) (k : String) :
    Sorted (erase k m) :=
  h.sublist (keys_erase_sublist k m)

/-- 先頭の名前は後ろのどの名前より前。 -/
theorem Sorted.lt_of_mem {k x : String} {v : α} {rest : List (String × α)}
    (h : Sorted ((k, v) :: rest)) (hx : x ∈ keys rest) : k < x := by
  simp only [Sorted, keys, List.map_cons, List.pairwise_cons] at h
  exact h.1 x hx

theorem Sorted.tail {p : String × α} {rest : List (String × α)} (h : Sorted (p :: rest)) : Sorted rest :=
  (List.pairwise_cons.mp h).2

theorem Sorted.find?_head {k : String} {v : α} {rest : List (String × α)}
    (h : Sorted ((k, v) :: rest)) : find? k rest = none :=
  Option.not_isSome_iff_eq_none.mp fun hk => String.lt_irrefl k (h.lt_of_mem (mem_keys_iff_isSome.mpr hk))

/-- 名前の順に並んだ表は、名前で引いた値で決まる。 -/
theorem Sorted.ext {m m' : List (String × α)} (h : Sorted m) (h' : Sorted m')
    (hf : ∀ k, find? k m = find? k m') : m = m' := by
  induction m generalizing m' with
  | nil =>
    cases m' with
    | nil => rfl
    | cons p rest' => simpa [find?] using hf p.1
  | cons p rest ih =>
    obtain ⟨k, v⟩ := p
    cases m' with
    | nil => simpa [find?] using hf k
    | cons p' rest' =>
      obtain ⟨k', v'⟩ := p'
      -- どちらの先頭の名前も、表の中で一番前の名前
      have hk : k = k' := Decidable.byContradiction fun hne => by
        have h₁ : find? k rest' = some v := by simpa [find?, hne] using (hf k).symm
        have h₂ : find? k' rest = some v' := by simpa [find?, Ne.symm hne] using hf k'
        exact String.lt_asymm (h.lt_of_mem (mem_keys_iff_isSome.mpr (by simp [h₂])))
          (h'.lt_of_mem (mem_keys_iff_isSome.mpr (by simp [h₁])))
      subst hk
      have hv : v = v' := by simpa [find?] using hf k
      subst hv
      rw [ih h.tail h'.tail fun j => ?_]
      by_cases hj : j = k
      · subst hj
        rw [h.find?_head, h'.find?_head]
      · simpa [find?, hj] using hf j

/-- 値だけを写した表を引くと、引いた値を写したもの。 -/
theorem find?_map_snd {β : Type} (f : α → β) (k : String) (m : List (String × α)) :
    find? k (m.map fun (k', v) => (k', f v)) = (find? k m).map f := by
  induction m with
  | nil => rfl
  | cons p rest ih =>
    obtain ⟨j, w⟩ := p
    by_cases h : k = j <;> simp [find?, h, ih]

theorem keys_map_snd {β : Type} (f : α → β) (m : List (String × α)) :
    keys (m.map fun (k, v) => (k, f v)) = keys m := by
  simp [keys, List.map_map, Function.comp_def]

end Keyed

namespace Entry

private theorem find?_replace_other {s s' : Slot} (h : Handler) (hne : s' ≠ s)
    (l : List (Slot × Handler)) :
    (l.map fun p => if p.1 == s then (s, h) else p).find? (·.1 == s') = l.find? (·.1 == s') := by
  induction l with
  | nil => rfl
  | cons p rest ih =>
    rw [List.map_cons, List.find?_cons, List.find?_cons]
    by_cases hp : p.1 = s
    · have hp' : (p.1 == s') = false := by simp [hp, Ne.symm hne]
      have hs : (s == s') = false := by simp [Ne.symm hne]
      simp only [hp, beq_self_eq_true, if_true, hs, ih]
    · have hp' : (p.1 == s) = false := by simp [hp]
      simp only [hp', Bool.false_eq_true, if_false, ih]

private theorem find?_replace_self {s : Slot} (h : Handler) (l : List (Slot × Handler))
    (hany : l.any (·.1 == s) = true) :
    (l.map fun p => if p.1 == s then (s, h) else p).find? (·.1 == s) = some (s, h) := by
  induction l with
  | nil => simp at hany
  | cons p rest ih =>
    rw [List.map_cons, List.find?_cons]
    by_cases hp : p.1 = s
    · simp only [hp, beq_self_eq_true, if_true]
    · have hp' : (p.1 == s) = false := by simp [hp]
      have hrest : rest.any (·.1 == s) = true := by simpa [hp'] using hany
      simp only [hp', Bool.false_eq_true, if_false, ih hrest]

theorem find?_put (e : Entry) (s s' : Slot) (h : Handler) :
    (e.put s h).handlers.find? (·.1 == s') =
      if s' = s then some (s, h) else e.handlers.find? (·.1 == s') := by
  unfold put
  by_cases hs' : s' = s
  · subst hs'
    split
    · simpa using find?_replace_self h e.handlers ‹_›
    · rename_i hany
      have hnone : e.handlers.find? (·.1 == s') = none := by
        rw [List.find?_eq_none]
        intro p hp hps
        exact hany (List.any_eq_true.2 ⟨p, hp, hps⟩)
      simp [List.find?_append, hnone]
  · split
    · simpa [hs'] using find?_replace_other h hs' e.handlers
    · simp [List.find?_append, Ne.symm hs']

/-- 枠の並びにあるのは、処理を置いた枠である。 -/
theorem mem_slots {e : Entry} {s : Slot} : s ∈ e.slots ↔ (e.handlers.find? (·.1 == s)).isSome := by
  rw [slots, List.mem_mergeSort, List.mem_map, List.find?_isSome]
  simp

end Entry

namespace Table

/-- 経路の中身があるのは、鍵の並びにあるときである。 -/
theorem mem_paths_iff {t : Table} {p : String} : p ∈ t.paths ↔ (t.entry? p).isSome :=
  Keyed.mem_keys_iff_isSome

@[simp] theorem entry_modify (t : Table) (p q : String) (f : Entry → Entry) :
    Table.entry? (t.modify p f) q = if q = p then some (f ((t.entry? p).getD {})) else t.entry? q := by
  simp [modify, entry?, Keyed.modify]

theorem mem_paths_modify {t : Table} {p q : String} {f : Entry → Entry} :
    q ∈ (t.modify p f).paths ↔ q = p ∨ q ∈ t.paths :=
  Keyed.mem_keys_insert

/-- 経路の中身に枠の処理を置いた後の、経路と枠の処理。 -/
theorem handler?_modify_put {t : Table} {p q : String} {s s' : Slot} {h : Handler}
    {f : Entry → Entry} (hf : ∀ e, (f e).handlers = (e.put s h).handlers) :
    (t.modify p f).handler? q s' = if q = p ∧ s' = s then some h else t.handler? q s' := by
  unfold handler?
  rw [entry_modify]
  by_cases hq : q = p
  · subst hq
    rw [if_pos rfl, Option.bind_some, hf, Entry.find?_put]
    by_cases hs : s' = s
    · simp [hs]
    · cases t.entry? q <;> simp [hs]
  · simp [hq]

@[simp] theorem handler?_addHandler (t : Table) (p q : String) (s s' : Slot) (h : Handler) :
    (t.addHandler p s h).handler? q s' = if q = p ∧ s' = s then some h else t.handler? q s' :=
  handler?_modify_put fun _ => rfl

@[simp] theorem handler?_addEndpoint (t : Table) (p q : String) (s s' : Slot) (h : Handler)
    (headers : List String) :
    (t.addEndpoint p s h headers).handler? q s' =
      if q = p ∧ s' = s then some h else t.handler? q s' :=
  handler?_modify_put fun e => by simp [Entry.put]; split <;> rfl

/-- 経路の枠の並びにあるのは、処理がある枠である。 -/
theorem mem_slots_iff {t : Table} {p : String} {s : Slot} : s ∈ t.slots p ↔ (t.handler? p s).isSome := by
  unfold slots handler?
  cases t.entry? p with
  | none => simp
  | some e => simp [Entry.mem_slots]

/-- 経路の method の並びにあるのは、専用の枠に処理がある method である。 -/
theorem mem_methods_iff {t : Table} {p : String} {m : Method} :
    m ∈ t.methods p ↔ (t.handler? p (.exact m)).isSome := by
  unfold methods
  rw [List.mem_filterMap]
  constructor
  · rintro ⟨s, hs, hm⟩
    cases s with
    | exact m' =>
      cases hm
      exact mem_slots_iff.mp hs
    | any => cases hm
  · intro h
    exact ⟨.exact m, mem_slots_iff.mpr h, rfl⟩

theorem mem_paths_addHandler {t : Table} {p q : String} {s : Slot} {h : Handler} :
    q ∈ (t.addHandler p s h).paths ↔ q = p ∨ q ∈ t.paths :=
  mem_paths_modify

theorem mem_paths_addEndpoint {t : Table} {p q : String} {s : Slot} {h : Handler}
    {headers : List String} :
    q ∈ (t.addEndpoint p s h headers).paths ↔ q = p ∨ q ∈ t.paths :=
  mem_paths_modify

end Table

end HttpRouting
