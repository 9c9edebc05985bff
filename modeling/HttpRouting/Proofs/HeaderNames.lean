import HttpRouting.Proofs.Table

/-!
# 大文字小文字を無視して名前を足す

`addHeaderNames known l` は、`l` の名前を順に見て、ASCII の大文字小文字を無視して同じ名前が
まだ無いものだけを `known` の後ろに足す。経路の表は経路の登録のたびにこれで router の名前を
足し（`Table.allowedHeaders_addEndpoint`）、preflight は既定の七つの名前にこれで表の名前を足す。

* `addHeaderNames_append` — 足すのは左からの畳み込み。
* `addHeaderNames_addHeaderNames` — 一度足して重複を除いた列を足すのは、元の列を足すのと同じ。
* `addHeaderNames_eq_eraseDupsBy` — 重複のない列に足すと、つないだ列から大文字小文字を無視した
  重複を除き、それぞれ最初のものを残した列（`List.eraseDupsBy`）になる。
* `pairwise_addHeaderNames` — 重複のない列に足しても、重複はない。
* `exists_same_mem_addHeaderNames_iff` — 大文字小文字を無視すれば、足した後の名前は、前の名前と
  足した名前を合わせたもの。

## 証明の形

`addHeaderNames` は足す列についての再帰なので、どの法則も足す列についての帰納法で、前の列を
一般にして示す。`List.eraseDupsBy` との一致は、その累積の列（逆順）が前の列と同じに動くことによる。
-/

namespace HttpRouting

/-! ## 大文字小文字を無視した比較 -/

/-- 二つの名前が、ASCII の大文字小文字を無視しても等しくない。 -/
abbrev CaseDistinct (a b : String) : Prop := sameIgnoringCase a b = false

theorem sameIgnoringCase_refl (a : String) : sameIgnoringCase a a = true := by
  simp [sameIgnoringCase]

theorem sameIgnoringCase_comm (a b : String) : sameIgnoringCase a b = sameIgnoringCase b a := by
  unfold sameIgnoringCase
  by_cases h : a.toLower = b.toLower
  · rw [h]
  · rw [beq_eq_false_iff_ne.mpr h, beq_eq_false_iff_ne.mpr (Ne.symm h)]

theorem sameIgnoringCase_trans {a b c : String} (h₁ : sameIgnoringCase a b = true)
    (h₂ : sameIgnoringCase b c = true) : sameIgnoringCase a c = true := by
  simp only [sameIgnoringCase, beq_iff_eq] at *
  exact h₁.trans h₂

/-- 文字の列のまま小文字にして比べても同じ。具体的な名前を比べるときは、こちらのほうが速く計算できる。 -/
theorem sameIgnoringCase_eq_toList :
    sameIgnoringCase = fun a b => a.toList.map Char.toLower == b.toList.map Char.toLower := by
  funext a b
  rw [sameIgnoringCase, ← String.toList_map, ← String.toList_map]
  exact Bool.eq_iff_iff.mpr (by simp only [beq_iff_eq, String.toList_inj]; rfl)

/-! ## 足す -/

section

variable {known l : List String} {x : String}

@[simp] theorem addHeaderNames_nil (known : List String) : addHeaderNames known [] = known := by
  simp [addHeaderNames]

theorem addHeaderNames_cons_of_any (h : known.any (sameIgnoringCase · x) = true) (l : List String) :
    addHeaderNames known (x :: l) = addHeaderNames known l := by
  simp [addHeaderNames, h]

theorem addHeaderNames_cons_of_not_any (h : known.any (sameIgnoringCase · x) = false) (l : List String) :
    addHeaderNames known (x :: l) = addHeaderNames (known ++ [x]) l := by
  simp [addHeaderNames, h]

/-- 足すのは左からの畳み込み。 -/
theorem addHeaderNames_append (known l₁ l₂ : List String) :
    addHeaderNames known (l₁ ++ l₂) = addHeaderNames (addHeaderNames known l₁) l₂ := by
  induction l₁ generalizing known with
  | nil => rfl
  | cons x l₁ ih =>
    cases h : known.any (sameIgnoringCase · x)
    · rw [List.cons_append, addHeaderNames_cons_of_not_any h, addHeaderNames_cons_of_not_any h, ih]
    · rw [List.cons_append, addHeaderNames_cons_of_any h, addHeaderNames_cons_of_any h, ih]

/-- 前の列は足した後の列の頭。 -/
theorem prefix_addHeaderNames (known l : List String) : known <+: addHeaderNames known l := by
  induction l generalizing known with
  | nil => exact List.prefix_refl known
  | cons x l ih =>
    cases h : known.any (sameIgnoringCase · x)
    · rw [addHeaderNames_cons_of_not_any h]
      exact (List.prefix_append known [x]).trans (ih _)
    · rw [addHeaderNames_cons_of_any h]
      exact ih _

/-- 足した後の名前は、前の名前か足した名前。 -/
theorem mem_addHeaderNames (hx : x ∈ addHeaderNames known l) : x ∈ known ∨ x ∈ l := by
  induction l generalizing known with
  | nil => exact .inl hx
  | cons y l ih =>
    cases h : known.any (sameIgnoringCase · y)
    · rw [addHeaderNames_cons_of_not_any h] at hx
      rcases ih hx with hx | hx
      · rcases List.mem_append.mp hx with hx | hx
        · exact .inl hx
        · exact .inr (List.mem_singleton.mp hx ▸ List.mem_cons_self)
      · exact .inr (List.mem_cons_of_mem _ hx)
    · rw [addHeaderNames_cons_of_any h] at hx
      exact (ih hx).imp_right (List.mem_cons_of_mem _)

/-- 前の名前と足した名前は、どれも足した後の列のどれかと大文字小文字を無視して等しい。 -/
theorem exists_same_of_mem (hx : x ∈ known ++ l) : ∃ y ∈ addHeaderNames known l, sameIgnoringCase y x := by
  induction l generalizing known x with
  | nil => exact ⟨x, by simpa using hx, sameIgnoringCase_refl x⟩
  | cons y l ih =>
    cases h : known.any (sameIgnoringCase · y)
    · rw [addHeaderNames_cons_of_not_any h]
      exact ih (by rwa [List.append_assoc, List.singleton_append])
    · rw [addHeaderNames_cons_of_any h]
      rcases List.mem_append.mp hx with hx | hx
      · exact ih (List.mem_append_left _ hx)
      · rcases List.mem_cons.mp hx with rfl | hx
        · -- 足さなかった名前は、前の名前のどれかと等しい
          obtain ⟨z, hz, hzx⟩ := List.any_eq_true.mp h
          obtain ⟨w, hw, hwz⟩ := ih (List.mem_append_left l hz)
          exact ⟨w, hw, sameIgnoringCase_trans hwz hzx⟩
        · exact ih (List.mem_append_right _ hx)

/-- どの名前も前の名前のどれかと等しければ、何も足さない。 -/
theorem addHeaderNames_of_covered (h : ∀ x ∈ l, known.any (sameIgnoringCase · x) = true) :
    addHeaderNames known l = known := by
  induction l with
  | nil => rfl
  | cons x l ih =>
    rw [addHeaderNames_cons_of_any (h x List.mem_cons_self)]
    exact ih fun y hy => h y (List.mem_cons_of_mem _ hy)

end

/-- 一度足して重複を除いた列を足すのは、元の列を足すのと同じ。 -/
theorem addHeaderNames_addHeaderNames (K J L : List String) :
    addHeaderNames K (addHeaderNames J L) = addHeaderNames K (J ++ L) := by
  induction L generalizing J with
  | nil => rw [addHeaderNames_nil, List.append_nil]
  | cons x L ih =>
    cases h : J.any (sameIgnoringCase · x)
    · rw [addHeaderNames_cons_of_not_any h, ih, List.append_assoc, List.singleton_append]
    · rw [addHeaderNames_cons_of_any h, ih, ← List.singleton_append, ← List.append_assoc,
        addHeaderNames_append K (J ++ [x]), addHeaderNames_append K J [x], addHeaderNames_append K J]
      congr 1
      -- `x` は `J` のどれかと等しく、それは `K` に `J` を足した列のどれかと等しい
      obtain ⟨z, hz, hzx⟩ := List.any_eq_true.mp h
      obtain ⟨w, hw, hwz⟩ := exists_same_of_mem (List.mem_append_right K hz)
      refine (addHeaderNames_of_covered fun y hy => ?_).symm
      rw [List.mem_singleton.mp hy]
      exact List.any_eq_true.mpr ⟨w, hw, sameIgnoringCase_trans hwz hzx⟩

/-- 同じ名前の列を二度足しても、一度足したのと同じ。 -/
theorem addHeaderNames_idem (K H : List String) :
    addHeaderNames (addHeaderNames K H) H = addHeaderNames K H :=
  addHeaderNames_of_covered fun x hx => by
    obtain ⟨y, hy, hyx⟩ := exists_same_of_mem (List.mem_append_right K hx)
    exact List.any_eq_true.mpr ⟨y, hy, hyx⟩

/-- 大文字小文字を無視すれば、足した後の名前は、前の名前と足した名前を合わせたもの。 -/
theorem exists_same_mem_addHeaderNames_iff (K L : List String) (x : String) :
    (∃ y ∈ addHeaderNames K L, sameIgnoringCase x y) ↔ ∃ y ∈ K ++ L, sameIgnoringCase x y := by
  constructor
  · rintro ⟨y, hy, hxy⟩
    exact ⟨y, List.mem_append.mpr (mem_addHeaderNames hy), hxy⟩
  · rintro ⟨y, hy, hxy⟩
    obtain ⟨z, hz, hzy⟩ := exists_same_of_mem hy
    exact ⟨z, hz, sameIgnoringCase_trans hxy (by rw [sameIgnoringCase_comm]; exact hzy)⟩

/-- 重複のない列に足しても、重複はない。 -/
theorem pairwise_addHeaderNames {K : List String} (hK : K.Pairwise CaseDistinct) (L : List String) :
    (addHeaderNames K L).Pairwise CaseDistinct := by
  induction L generalizing K with
  | nil => exact hK
  | cons x L ih =>
    cases h : K.any (sameIgnoringCase · x)
    · rw [addHeaderNames_cons_of_not_any h]
      refine ih (List.pairwise_append.mpr ⟨hK, List.pairwise_singleton _ x, fun a ha b hb => ?_⟩)
      rw [List.mem_singleton.mp hb]
      exact Bool.eq_false_iff.mpr (List.any_eq_false.mp h a ha)
    · rw [addHeaderNames_cons_of_any h]
      exact ih hK

/-! ## 最初のものを残す重複の除去 -/

/-- 足す関数は、`List.eraseDupsBy` の累積の列（逆順）を前の列とした計算と同じ。 -/
theorem eraseDupsBy_loop_reverse (K L : List String) :
    List.eraseDupsBy.loop sameIgnoringCase L K.reverse = addHeaderNames K L := by
  induction L generalizing K with
  | nil => simp [List.eraseDupsBy.loop]
  | cons x L ih =>
    -- 累積の列の中を探すのは、前の列の中を探すのと同じ
    have hany : K.reverse.any (sameIgnoringCase x) = K.any (sameIgnoringCase · x) := by
      rw [List.any_reverse]
      congr 1
      funext y
      exact sameIgnoringCase_comm x y
    unfold List.eraseDupsBy.loop
    rw [hany]
    cases h : K.any (sameIgnoringCase · x)
    · rw [addHeaderNames_cons_of_not_any h, ← ih, List.reverse_append, List.reverse_singleton,
        List.singleton_append]
    · rw [addHeaderNames_cons_of_any h, ih]

/-- 重複のない列の名前は、累積の列の名前のどれとも等しくなければ、そのまま積まれる。 -/
theorem eraseDupsBy_loop_append {K : List String} (hK : K.Pairwise CaseDistinct) (L : List String)
    {acc : List String} (hacc : ∀ k ∈ K, ∀ a ∈ acc, sameIgnoringCase k a = false) :
    List.eraseDupsBy.loop sameIgnoringCase (K ++ L) acc =
      List.eraseDupsBy.loop sameIgnoringCase L (K.reverse ++ acc) := by
  induction K generalizing acc with
  | nil => rfl
  | cons k K ih =>
    have hk : acc.any (sameIgnoringCase k) = false :=
      List.any_eq_false.mpr fun a ha => by simpa using hacc k List.mem_cons_self a ha
    have hK' := List.pairwise_cons.mp hK
    -- 積んだ `k` は、残りの `K` のどの名前とも等しくない
    have hacc' : ∀ k' ∈ K, ∀ a ∈ k :: acc, sameIgnoringCase k' a = false := by
      intro k' hk' a ha
      rcases List.mem_cons.mp ha with rfl | ha
      · rw [sameIgnoringCase_comm]
        exact hK'.1 k' hk'
      · exact hacc k' (List.mem_cons_of_mem _ hk') a ha
    rw [List.cons_append]
    conv => lhs; unfold List.eraseDupsBy.loop
    rw [hk, ih hK'.2 hacc']
    simp

/-- 重複のない列に足すと、つないだ列から大文字小文字を無視した重複を除き、それぞれ最初のものを
残した列になる。 -/
theorem addHeaderNames_eq_eraseDupsBy {K : List String} (hK : K.Pairwise CaseDistinct) (L : List String) :
    addHeaderNames K L = (K ++ L).eraseDupsBy sameIgnoringCase := by
  rw [List.eraseDupsBy, eraseDupsBy_loop_append hK L (by simp), List.append_nil,
    eraseDupsBy_loop_reverse]

/-! ## 経路の表の名前 -/

theorem Entry.allowedHeaders_put (e : Entry) (s : Slot) (h : Handler) :
    (e.put s h).allowedHeaders = e.allowedHeaders := by
  unfold Entry.put
  split <;> rfl

theorem Table.allowedHeaders_getD (t : Table) (p : String) :
    ((t.entry? p).getD {}).allowedHeaders = t.allowedHeaders p := by
  unfold Table.allowedHeaders
  cases t.entry? p <;> rfl

/-- 経路の登録は、その経路の名前に router の名前を足し、ほかの経路の名前は変えない。 -/
theorem Table.allowedHeaders_addEndpoint (t : Table) (p q : String) (s : Slot) (h : Handler)
    (hs : List String) :
    (t.addEndpoint p s h hs).allowedHeaders q =
      if q = p then addHeaderNames (t.allowedHeaders q) hs else t.allowedHeaders q := by
  unfold Table.allowedHeaders Table.addEndpoint
  rw [Table.entry_modify]
  split
  · subst q
    simp [Entry.allowedHeaders_put, Table.allowedHeaders_getD, Table.allowedHeaders]
  · rfl

/-- method を問わない枠への登録は、どの経路の名前も変えない。 -/
theorem Table.allowedHeaders_addHandler (t : Table) (p q : String) (s : Slot) (h : Handler) :
    (t.addHandler p s h).allowedHeaders q = t.allowedHeaders q := by
  unfold Table.allowedHeaders Table.addHandler
  rw [Table.entry_modify]
  split
  · subst q
    simp [Entry.allowedHeaders_put, Table.allowedHeaders_getD, Table.allowedHeaders]
  · rfl

end HttpRouting
