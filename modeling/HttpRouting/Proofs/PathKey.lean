import HttpRouting.Proofs.PathJoin
import HttpRouting.Proofs.Mounts

/-!
# 正規形の鍵

`Path.join` の返す鍵はどれも正規形である（`Path.IsKey`）。`/` で始まり、`/` そのものでなければ、
先頭の `/` の後を `/` で切った断片はどれも空でも `.` でも `..` でもない。最後の断片も空でないので、
`/` のほかは `/` で終わらない。

正規形の鍵は、残る断片の列を `/` でつないだもの（`Path.render`）にほかならない
（`Path.IsKey.eq_render`）。切って積み直せば同じ断片の列に戻るので、空の経路をどちら側に
つないでも鍵は変わらない。

`Path.joinMount` は `join` の結果が `/` で終わらないときだけ `/` を足す。`join` の結果が `/` で
終わるのは根の鍵 `/` のときだけなので（`Path.join_endsInSlash_iff`）、mount の鍵が `/` で終わるのは、
下位の経路が `/` で終わるか、鍵が根の `/` のときである。

* `Path.flatMap_split` — 切った断片を `/` を前に置いてつなぐと、`/` を前に置いた元の列に戻る。
* `Path.IsKey.join_empty`, `Path.IsKey.empty_join` — 正規形の鍵は空の経路とつないでも変わらない。
* `join_yields_normal_key` — `join` の鍵は正規形で、`joinMount` はそれに末尾の `/` を足すだけ。
-/

namespace HttpRouting

namespace Path

/-- 切った断片を `/` を前に置いてつなぐと、`/` を前に置いた元の列に戻る。 -/
theorem flatMap_split (cs : List Char) : (split cs).flatMap ('/' :: ·) = '/' :: cs := by
  induction cs with
  | nil => rfl
  | cons c cs ih =>
    by_cases hc : c = '/'
    · simp [split, hc, ih]
    · obtain ⟨w, ws, hw⟩ := List.exists_cons_of_ne_nil (split_ne_nil cs)
      -- 元の列は最初の断片と、残りの断片を `/` でつないだもの
      have hcs : w ++ ws.flatMap ('/' :: ·) = cs := by
        rw [hw] at ih
        simpa using ih
      simp [split, hc, hw, hcs]

/-- 正規形の鍵。`/` で始まり、`/` でなければ、先頭の `/` の後を `/` で切った断片がどれも
残る断片（空でも `.` でも `..` でもない）。 -/
structure IsKey (key : String) : Prop where
  head_slash : key.toList.head? = some '/'
  segments : key = "/" ∨ ∀ w ∈ split (key.toList.drop 1), IsSegment w

/-- 残る断片の列を `/` でつないだ鍵は正規形である。 -/
theorem isKey_render {segs : List (List Char)} (h : ∀ w ∈ segs, IsSegment w) :
    IsKey (render segs) := by
  cases segs with
  | nil => exact ⟨rfl, .inl rfl⟩
  | cons w ws =>
    have hslash : ∀ v ∈ w :: ws, '/' ∉ v := fun v hv => (h v hv).2.2.2
    have hkey : (render (w :: ws)).toList = '/' :: (w ++ ws.flatMap ('/' :: ·)) := by
      simp [render]
    -- 先頭の `/` の後を切ると、つないだ断片の列に戻る
    have hsplit : split (w ++ ws.flatMap ('/' :: ·)) = w :: ws := by
      have h₀ := split_flatMap hslash
      simp only [List.flatMap_cons, List.cons_append, split, if_true] at h₀
      exact List.cons.inj h₀ |>.2
    refine ⟨by rw [hkey]; rfl, .inr ?_⟩
    rw [hkey, List.drop_one, List.tail_cons, hsplit]
    exact h

/-- 正規形の鍵は、残る断片の列を `/` でつないだものである。 -/
theorem IsKey.eq_render {key : String} (h : IsKey key) :
    ∃ segs, (∀ w ∈ segs, IsSegment w) ∧ render segs = key := by
  rcases h.segments with rfl | hsegs
  · exact ⟨[], by simp, rfl⟩
  · refine ⟨split (key.toList.drop 1), hsegs, ?_⟩
    obtain ⟨w, ws, hw⟩ := List.exists_cons_of_ne_nil (split_ne_nil (key.toList.drop 1))
    have hhead := h.head_slash
    -- 先頭の `/` を戻すと鍵の文字の列
    have hkey : '/' :: key.toList.drop 1 = key.toList := by
      cases hk : key.toList with
      | nil => rw [hk] at hhead; cases hhead
      | cons c cs =>
        rw [hk] at hhead
        cases hhead
        rfl
    rw [hw]
    show String.ofList ((w :: ws).flatMap ('/' :: ·)) = key
    rw [← hw, flatMap_split, hkey, String.ofList_toList]

theorem isKey_join (pre sub : String) : IsKey (join pre sub) :=
  isKey_render (isSegment_segments pre sub)

/-- 正規形の鍵は、`/` のほかは `/` で終わらない。 -/
theorem IsKey.getLast?_ne_slash {key : String} (h : IsKey key) :
    key = "/" ∨ key.toList.getLast? ≠ some '/' := by
  obtain ⟨segs, hsegs, rfl⟩ := h.eq_render
  cases segs with
  | nil => exact .inl rfl
  | cons w ws =>
    have hclean : Clean (w :: ws) := fun v hv => ⟨(hsegs v hv).1, (hsegs v hv).2.2.2⟩
    refine .inr ?_
    simpa [render] using getLast?_flatMap_ne_slash hclean (List.cons_ne_nil w ws)

/-- 正規形の鍵の後に空の経路をつないでも変わらない。 -/
theorem IsKey.join_empty {key : String} (h : IsKey key) : join key "" = key := by
  obtain ⟨segs, hsegs, rfl⟩ := h.eq_render
  show render ((split (render segs).toList ++ split []).foldl push []).reverse = render segs
  rw [List.foldl_append, foldl_push_split_render hsegs]
  simp [split]

/-- 空の経路の後に正規形の鍵をつないでも変わらない。 -/
theorem IsKey.empty_join {key : String} (h : IsKey key) : join "" key = key := by
  obtain ⟨segs, hsegs, rfl⟩ := h.eq_render
  show render ((split [] ++ split (render segs).toList).foldl push []).reverse = render segs
  rw [List.foldl_append]
  simp only [split, List.foldl_cons, List.foldl_nil, push_nil]
  rw [foldl_push_split_render hsegs]
  simp

/-- `joinMount` は、下位の経路が `/` で終わり `join` の結果が `/` でないときだけ `/` を足す。 -/
theorem joinMount_eq (pre sub : String) :
    joinMount pre sub =
      if sub.toList.getLast? = some '/' ∧ join pre sub ≠ "/" then join pre sub ++ "/" else join pre sub := by
  simp only [joinMount, ne_eq, join_endsInSlash_iff]

/-- mount の鍵が `/` で終わるのは、下位の経路が `/` で終わるか、`join` の結果が根の `/` のとき。 -/
theorem joinMount_endsInSlash_iff (pre sub : String) :
    (joinMount pre sub).toList.getLast? = some '/' ↔
      sub.toList.getLast? = some '/' ∨ join pre sub = "/" := by
  rw [joinMount_eq]
  by_cases hcond : sub.toList.getLast? = some '/' ∧ join pre sub ≠ "/"
  · rw [if_pos hcond]
    simp [hcond.1]
  · rw [if_neg hcond, join_endsInSlash_iff]
    -- 足さなかったのは、下位の経路が `/` で終わらないか、結果がすでに `/` だから
    constructor
    · exact .inr
    · rintro (hsub | hroot)
      · exact Decidable.byContradiction fun hne => hcond ⟨hsub, hne⟩
      · exact hroot

end Path

/-- `Path.join` の鍵は正規形である。`/` で始まり、`/` でなければ `/` で終わらず、先頭の `/` の後を
`/` で切った断片はどれも空でも `.` でも `..` でもない。空の経路をどちら側につないでも変わらない。
`Path.joinMount` の鍵は、下位の経路が `/` で終わり `join` の鍵が `/` でなければ `join` の鍵に `/` を
足したもの、そうでなければ `join` の鍵そのもので、`/` で終わるのは下位の経路が `/` で終わるか
`join` の鍵が `/` のときである。 -/
theorem join_yields_normal_key (pre sub : String) :
    (Path.join pre sub).toList.head? = some '/' ∧
    (Path.join pre sub = "/" ∨ (Path.join pre sub).toList.getLast? ≠ some '/') ∧
    (Path.join pre sub = "/" ∨
      ∀ w ∈ Path.split ((Path.join pre sub).toList.drop 1), Path.IsSegment w) ∧
    Path.join (Path.join pre sub) "" = Path.join pre sub ∧
    Path.join "" (Path.join pre sub) = Path.join pre sub ∧
    Path.joinMount pre sub =
      (if sub.toList.getLast? = some '/' ∧ Path.join pre sub ≠ "/" then Path.join pre sub ++ "/"
        else Path.join pre sub) ∧
    ((Path.joinMount pre sub).toList.getLast? = some '/' ↔
      sub.toList.getLast? = some '/' ∨ Path.join pre sub = "/") := by
  have hkey := Path.isKey_join pre sub
  exact ⟨hkey.head_slash, hkey.getLast?_ne_slash, hkey.segments, hkey.join_empty, hkey.empty_join,
    Path.joinMount_eq pre sub, Path.joinMount_endsInSlash_iff pre sub⟩

end HttpRouting
