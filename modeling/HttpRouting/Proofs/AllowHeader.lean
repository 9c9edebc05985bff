import Mathlib
import HttpRouting.Proofs.Headers
import HttpRouting.Proofs.Table
import HttpRouting.Server.Basic

/-!
# 許す method の一覧は経路の答え方と合う

経路 `k` に method を問わない枠がなければ、要求の method の専用の枠に処理がないときだけ server は
自分で答える。OPTIONS の要求には preflight、ほかは 405 である。どちらの `allow`（と preflight の
`access-control-allow-methods`）も `allowList (t.methods k)` で、次の性質を持つ
（`allow_header_lists_served_methods`）。

* 名前を byte の順（`String` の順は code point の順で、UTF-8 の byte の順と同じ）に狭義に並べた列を
  `,` でつないだもの。重複はない。
* `,` で切ると元の列に戻る。method の名前は token なので `,` を含まない。
* 列の名前は、`k` に着いてその method で来た要求に登録した処理が答える method の名前と、`OPTIONS`。

並べ替え（`List.mergeSort`）の後の重複の除去（`List.eraseDups`）が狭義の順を作る
（`pairwise_lt_eraseDups`）。一覧の文字はすべて見える ASCII なので、組み立てが header を落とす
ことはなく、書いた文字列がそのまま読める（`Proofs/Headers`）。
-/

namespace HttpRouting

/-! ## method の名前の文字 -/

/-- token の文字は見える ASCII である。 -/
theorem isTokenChar_bounds {c : Char} (h : isTokenChar c = true) : 32 ≤ c.toNat ∧ c.toNat < 127 := by
  simp [isTokenChar, Char.isAlphanum, Char.isAlpha, Char.isUpper, Char.isLower, Char.isDigit] at h
  rcases h with ((⟨h₁, h₂⟩ | ⟨h₁, h₂⟩) | ⟨h₁, h₂⟩) | h
  · simp only [UInt32.le_iff_toNat_le] at h₁ h₂
    simp at h₁ h₂
    omega
  · simp only [UInt32.le_iff_toNat_le] at h₁ h₂
    simp at h₁ h₂
    omega
  · simp only [UInt32.le_iff_toNat_le] at h₁ h₂
    simp at h₁ h₂
    omega
  · rcases h with rfl | rfl | rfl | rfl | rfl | rfl | rfl | rfl | rfl | rfl | rfl | rfl | rfl | rfl | rfl <;>
      decide

theorem Method.isTokenChar_of_mem_name (m : Method) {c : Char} (hc : c ∈ m.name.toList) :
    isTokenChar c = true := by
  have h := m.token
  simp only [isToken, Bool.and_eq_true, Bool.not_eq_true', List.all_eq_true] at h
  exact h.2 c hc

theorem Method.comma_not_mem_name (m : Method) : ',' ∉ m.name.toList := fun h => by
  have := m.isTokenChar_of_mem_name h
  revert this
  decide

/-! ## 並べて重複を除く -/

/-- 順に並んだ列から重複を除くと、狭義に増える列になる。 -/
theorem pairwise_lt_eraseDups : ∀ {l : List String}, l.Pairwise (· ≤ ·) → l.eraseDups.Pairwise (· < ·)
  | [], _ => by simp [List.eraseDups, List.eraseDupsBy, List.eraseDupsBy.loop]
  | a :: as, h => by
    rw [List.eraseDups_cons]
    have hs := List.pairwise_cons.mp h
    refine List.pairwise_cons.mpr ⟨fun b hb => ?_, pairwise_lt_eraseDups (hs.2.filter _)⟩
    rw [List.mem_eraseDups, List.mem_filter] at hb
    have hne : b ≠ a := by simpa using hb.2
    exact String.not_le.mp fun hba => hne (String.le_antisymm hba (hs.1 b hb.1))
termination_by l => l.length
decreasing_by exact Nat.lt_succ_of_le (List.length_filter_le _ _)

theorem mem_sortedNames {x : String} {names : List String} : x ∈ sortedNames names ↔ x ∈ names := by
  simp [sortedNames, List.mem_eraseDups, List.mem_mergeSort]

theorem pairwise_lt_sortedNames (names : List String) : (sortedNames names).Pairwise (· < ·) := by
  refine pairwise_lt_eraseDups ((List.pairwise_mergeSort ?_ ?_ names).imp fun h => by simpa using h)
  · intro a b c hab hbc
    simp only [decide_eq_true_eq] at *
    exact String.le_trans hab hbc
  · intro a b
    simpa using String.le_total a b

/-! ## 一覧の文字列 -/

/-- 一覧に並ぶ名前。登録された method と OPTIONS の名前を並べて重複を除いたもの。 -/
theorem allowList_eq (ms : List Method) :
    allowList ms = ",".intercalate (sortedNames ((ms ++ [Method.options]).map (·.name))) := by
  simp [allowList]

theorem mem_allowNames {ms : List Method} {x : String} :
    x ∈ sortedNames ((ms ++ [Method.options]).map (·.name)) ↔
      x = Method.options.name ∨ ∃ m ∈ ms, m.name = x := by
  rw [mem_sortedNames, List.map_append, List.mem_append, List.mem_map]
  simp [or_comm, eq_comm]

/-- 一覧の名前はどれも method の名前で、`,` を含まず、見える ASCII だけからなる。 -/
theorem allowNames_token {ms : List Method} {x : String}
    (hx : x ∈ sortedNames ((ms ++ [Method.options]).map (·.name))) :
    ∀ c ∈ x.toList, isTokenChar c = true := by
  rw [mem_sortedNames, List.mem_map] at hx
  obtain ⟨m, -, rfl⟩ := hx
  exact fun c hc => m.isTokenChar_of_mem_name hc

/-- つないだ文字列の文字は、つなぎの文字か、どれかの部分の文字。 -/
theorem mem_toList_intercalate {sep : String} {l : List String} {c : Char}
    (h : c ∈ (sep.intercalate l).toList) : c ∈ sep.toList ∨ ∃ x ∈ l, c ∈ x.toList := by
  induction l with
  | nil => simp at h
  | cons x xs ih =>
    cases xs with
    | nil => exact .inr ⟨x, List.mem_singleton_self x, by simpa using h⟩
    | cons y ys =>
      rw [String.intercalate_cons_cons, String.toList_append, String.toList_append] at h
      rcases List.mem_append.mp h with h | h
      · rcases List.mem_append.mp h with h | h
        · exact .inr ⟨x, List.mem_cons_self, h⟩
        · exact .inl h
      · rcases ih h with h | ⟨z, hz, hc⟩
        · exact .inl h
        · exact .inr ⟨z, List.mem_cons_of_mem _ hz, hc⟩

theorem visibleAscii_allowList (ms : List Method) : VisibleAscii (allowList ms) := by
  intro c hc
  rw [allowList_eq] at hc
  rcases mem_toList_intercalate hc with hsep | ⟨x, hx, hcx⟩
  · simp at hsep
    subst hsep
    decide
  · exact isTokenChar_bounds (allowNames_token hx c hcx)

/-- 一覧を `,` で切ると、並べた名前に戻る。 -/
theorem split_allowList (ms : List Method) :
    ((allowList ms).split ',').toList.map (·.copy) =
      sortedNames ((ms ++ [Method.options]).map (·.name)) := by
  have hne : sortedNames ((ms ++ [Method.options]).map (·.name)) ≠ [] :=
    List.ne_nil_of_mem (mem_allowNames.mpr (.inl rfl))
  rw [allowList_eq, show "," = String.singleton ',' from rfl, String.toList_split_intercalate, if_neg hne]
  -- どの名前も method の名前なので `,` を含まない
  intro x hx hc
  rw [mem_sortedNames, List.mem_map] at hx
  obtain ⟨m, -, rfl⟩ := hx
  exact m.comma_not_mem_name hc

/-! ## 405 と preflight の header -/

theorem HeaderName.parse?_allow : HeaderName.parse? "allow" = some ⟨"allow"⟩ :=
  HeaderName.parse?_of_lower (by decide) (by decide) (by simp)

theorem HeaderName.parse?_allowMethods :
    HeaderName.parse? "access-control-allow-methods" = some ⟨"access-control-allow-methods"⟩ :=
  HeaderName.parse?_of_lower (by decide) (by decide) (by simp)

theorem HeaderName.parse?_allowHeaders :
    HeaderName.parse? "access-control-allow-headers" = some ⟨"access-control-allow-headers"⟩ :=
  HeaderName.parse?_of_lower (by decide) (by decide) (by simp)

theorem parse?_allowList (ms : List Method) :
    HeaderValue.parse? (allowList ms) = some ⟨Utf8.encode (allowList ms)⟩ :=
  HeaderValue.parse?_of_visible (visibleAscii_allowList ms)

theorem text?_allowList (ms : List Method) :
    HeaderValue.text? ⟨Utf8.encode (allowList ms)⟩ = some (allowList ms) :=
  HeaderValue.text?_of_visible (visibleAscii_allowList ms)

theorem methodNotAllowed_allow (ms : List Method) :
    (methodNotAllowed ms).header? "allow" = some (allowList ms) := by
  simp [methodNotAllowed, Response.Builder.get?_header, Response.builder,
    HeaderName.parse?_allow, parse?_allowList, text?_allowList]

theorem preflight_allow (req : Request) (ms : List Method) (extra : List String) :
    (preflight req ms extra).header? "allow" = some (allowList ms) ∧
      (preflight req ms extra).header? "access-control-allow-methods" = some (allowList ms) := by
  constructor <;>
    simp [preflight, Response.Builder.get?_header, Response.builder,
      HeaderName.parse?_allow, HeaderName.parse?_allowMethods, HeaderName.parse?_allowHeaders,
      parse?_allowList, text?_allowList]

/-! ## server が自分で答えるとき -/

/-- 答える鍵に、要求の method の専用の枠も method を問わない枠もなければ、server は OPTIONS に
preflight、ほかに 405 を、時間をかけずに返す。 -/
theorem Table.dispatch_of_no_handler {t : Table} {req : Request} {k : String}
    (hroute : t.resolve req.path = some k) (hexact : t.handler? k (.exact req.method) = none)
    (hany : t.handler? k .any = none) :
    t.dispatch req =
      pure (if req.method = Method.options then preflight req (t.methods k) (t.allowedHeaders k)
        else methodNotAllowed (t.methods k)) := by
  unfold dispatch
  rw [hroute]
  simp only [hexact, hany, Option.orElse_none]
  split <;> rfl

theorem Server.handle_of_no_handler {s : Server} {req : Request} {k : String}
    (hroute : s.table.resolve req.path = some k) (hexact : s.table.handler? k (.exact req.method) = none)
    (hany : s.table.handler? k .any = none) :
    s.handle req =
      if req.method = Method.options then
        preflight req (s.table.methods k) (s.table.allowedHeaders k)
      else methodNotAllowed (s.table.methods k) := by
  unfold Server.handle
  rw [Table.dispatch_of_no_handler hroute hexact hany]
  simp [ReaderT.run, pure, ReaderT.pure, Timed.pure]

/-- 経路 `k` に method を問わない枠がなく、`k` に着いた要求の method に専用の枠もなければ、server の
405 と preflight の `allow`（preflight では `access-control-allow-methods` も）は、狭義に増える
名前の列を `,` でつないだもので、`,` で切るとその列に戻る。列の名前は、`k` に着いた要求に登録した
処理が答える method の名前と `OPTIONS` である。 -/
theorem allow_header_lists_served_methods (s : Server) (req : Request) {k : String}
    (hroute : s.table.resolve req.path = some k) (hany : s.table.handler? k .any = none)
    (hexact : s.table.handler? k (.exact req.method) = none) :
    ∃ names : List String,
      (s.handle req).header? "allow" = some (",".intercalate names) ∧
      (req.method = Method.options →
        (s.handle req).header? "access-control-allow-methods" = some (",".intercalate names)) ∧
      names.Pairwise (· < ·) ∧
      (((",".intercalate names).split ',').toList.map (·.copy)) = names ∧
      ∀ x, x ∈ names ↔
        x = Method.options.name ∨ ∃ m : Method, m.name = x ∧ (s.table.handler? k (.exact m)).isSome := by
  refine ⟨sortedNames ((s.table.methods k ++ [Method.options]).map (·.name)), ?_, ?_,
    pairwise_lt_sortedNames _, ?_, fun x => ?_⟩
  · rw [← allowList_eq, Server.handle_of_no_handler hroute hexact hany]
    split
    · exact (preflight_allow req _ _).1
    · exact methodNotAllowed_allow _
  · intro hopt
    rw [← allowList_eq, Server.handle_of_no_handler hroute hexact hany, if_pos hopt]
    exact (preflight_allow req _ _).2
  · rw [← allowList_eq]
    exact split_allowList _
  · rw [mem_allowNames]
    simp only [Table.mem_methods_iff]
    constructor
    · rintro (h | ⟨m, hm, rfl⟩)
      · exact .inl h
      · exact .inr ⟨m, rfl, hm⟩
    · rintro (h | ⟨m, rfl, hm⟩)
      · exact .inl h
      · exact .inr ⟨m, hm, rfl⟩

/-- `/users` に GET と POST の処理だけを置いた表で答える server。 -/
def usersServer : Server :=
  { address := .v4 [0, 0, 0, 0] 0
    table := (Table.addHandler [] "/users" (.exact Method.get) fun _ => pure (Response.ofStatus Status.ok)).addHandler
      "/users" (.exact Method.post) fun _ => pure (Response.ofStatus Status.ok)
    catalog := Catalog.empty
    timeouts := {} }

/-- `/users` への DELETE は 405 になり、その `allow` は GET、OPTIONS、POST を並べたもの。 -/
theorem delete_users_allow_lists_get_options_post :
    usersServer.table.resolve "/users" = some "/users" ∧ usersServer.table.handler? "/users" .any = none ∧
      usersServer.table.handler? "/users" (.exact Method.delete) = none ∧
      ∃ names : List String,
        (usersServer.handle { method := Method.delete, uri := .origin { path := "/users" } }).header? "allow" =
          some (",".intercalate names) ∧
        (Method.delete = Method.options →
          (usersServer.handle { method := Method.delete, uri := .origin { path := "/users" } }).header?
            "access-control-allow-methods" = some (",".intercalate names)) ∧
        names.Pairwise (· < ·) ∧
        (((",".intercalate names).split ',').toList.map (·.copy)) = names ∧
        ∀ x, x ∈ names ↔ x = Method.options.name ∨
          ∃ m : Method, m.name = x ∧ (usersServer.table.handler? "/users" (.exact m)).isSome := by
  have hroute : usersServer.table.resolve "/users" = some "/users" := by decide
  have hany : usersServer.table.handler? "/users" .any = none := rfl
  have hexact : usersServer.table.handler? "/users" (.exact Method.delete) = none := rfl
  exact ⟨hroute, hany, hexact,
    allow_header_lists_served_methods usersServer { method := Method.delete, uri := .origin { path := "/users" } }
      hroute hany hexact⟩

end HttpRouting
