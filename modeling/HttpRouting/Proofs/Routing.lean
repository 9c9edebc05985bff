import HttpRouting.Proofs.Registration

/-!
# 経路の選び方

要求の経路 `p` に答える鍵を、登録された鍵の集まり `K` の上の関係 `Route K p` として述べる。

* `p` が `K` にあれば `p`。
* 無ければ、`/` で終わる鍵（mount）のうち UTF-8 の byte の列が `p` の頭になるものの中で、
  byte の数が最も多いもの。
* どちらも無ければ鍵はない。

`Table.resolve` は mount の鍵を長い順に並べ、最初に頭になるものを取る。並べ替えの後では
見つかったものより後ろはどれも短くないことはないので、それが最も長い（`Table.resolve_route`）。
同じ経路の頭になる二つの鍵は、byte の数が同じなら同じ鍵なので、最も長いものは一つに決まる
（`Route.unique`）。入れ子の mount、根の mount `/`、mount でもあり経路そのものでもある鍵も
この一つの関係で扱う。

選んだ鍵の上で、server は専用の枠、method を問わない枠、OPTIONS への preflight、405 の順に
答え、鍵がなければ本文のない 404 を返す（`referenceAnswer`）。組み立てた後の呼び出しは登録簿を
変えないので、server が組み立てのときに写した表は、その後いつ見ても登録簿の表と同じである
（`handle_eq_referenceAnswer`）。
-/

namespace HttpRouting

/-! ## byte の頭 -/

/-- `k` の UTF-8 の byte の列が `p` の byte の列の頭である。 -/
def BytePrefix (k p : String) : Prop := ∃ rest : ByteArray, k.toByteArray ++ rest = p.toByteArray

/-- UTF-8 の符号は頭で区切れるので、byte の頭は文字の頭と同じである。 -/
theorem bytePrefix_iff {k p : String} : BytePrefix k p ↔ k.toList <+: p.toList := by
  constructor
  · rintro ⟨rest, h⟩
    rw [← String.utf8Encode_toList, ← String.utf8Encode_toList] at h
    exact List.isPrefix_of_utf8Encode_append_eq_utf8Encode rest h
  · rintro ⟨t, ht⟩
    refine ⟨(String.ofList t).toByteArray, ?_⟩
    have hp : p = k ++ String.ofList t := by
      rw [← String.toList_inj, String.toList_append, String.toList_ofList, ht]
    rw [hp, String.toByteArray_append]

theorem startsWith_iff_bytePrefix {k p : String} : p.startsWith k = true ↔ BytePrefix k p := by
  rw [String.startsWith_string_iff, bytePrefix_iff]

theorem BytePrefix.utf8ByteSize_le {k p : String} (h : BytePrefix k p) :
    k.utf8ByteSize ≤ p.utf8ByteSize := by
  obtain ⟨t, ht⟩ := bytePrefix_iff.mp h
  have hp : p = k ++ String.ofList t := by
    rw [← String.toList_inj, String.toList_append, String.toList_ofList, ht]
  rw [hp, String.utf8ByteSize_append]
  omega

/-- 同じ経路の頭になる二つの文字列は、byte の数が同じなら等しい。 -/
theorem BytePrefix.eq_of_utf8ByteSize_eq {a b p : String} (ha : BytePrefix a p)
    (hb : BytePrefix b p) (hs : a.utf8ByteSize = b.utf8ByteSize) : a = b := by
  have key : ∀ {a b : String}, a.toList <+: b.toList → a.utf8ByteSize = b.utf8ByteSize → a = b := by
    intro a b ⟨t, ht⟩ hs
    have hb : b = a ++ String.ofList t := by
      rw [← String.toList_inj, String.toList_append, String.toList_ofList, ht]
    have ht0 : (String.ofList t).utf8ByteSize = 0 := by
      rw [hb, String.utf8ByteSize_append] at hs
      omega
    rw [hb, String.utf8ByteSize_eq_zero_iff.mp ht0, String.append_empty]
  rcases List.prefix_or_prefix_of_prefix (bytePrefix_iff.mp ha) (bytePrefix_iff.mp hb) with h | h
  · exact key h hs
  · exact (key h hs.symm).symm

/-! ## 答える鍵 -/

/-- 鍵の集まり `keys` の中で、要求の経路 `p` に答える鍵（なければ `none`）。 -/
inductive Route (keys : List String) (p : String) : Option String → Prop
  /-- 経路そのものが鍵。 -/
  | exact : p ∈ keys → Route keys p (some p)
  /-- `/` で終わり、byte の列が経路の頭になる鍵のうち、最も長いもの。 -/
  | mount {k : String} : p ∉ keys → k ∈ keys → k.toList.getLast? = some '/' → BytePrefix k p →
      (∀ k' ∈ keys, k'.toList.getLast? = some '/' → BytePrefix k' p →
        k'.utf8ByteSize ≤ k.utf8ByteSize) →
      Route keys p (some k)
  /-- 答える鍵がない。 -/
  | none : p ∉ keys → (∀ k ∈ keys, k.toList.getLast? = some '/' → ¬ BytePrefix k p) →
      Route keys p none

theorem Path.isMount_iff {k : String} : Path.isMount k = true ↔ k.toList.getLast? = some '/' := by
  simp [Path.isMount]

/-- 答える鍵は一つに決まる。 -/
theorem Route.unique {keys : List String} {p : String} {a b : Option String}
    (ha : Route keys p a) (hb : Route keys p b) : a = b := by
  cases ha with
  | exact hp =>
    cases hb with
    | exact => rfl
    | mount hp' => exact absurd hp hp'
    | none hp' => exact absurd hp hp'
  | mount hp hk hm hpre hlong =>
    cases hb with
    | exact hp' => exact absurd hp' hp
    | mount _ hk' hm' hpre' hlong' =>
      have hle := hlong _ hk' hm' hpre'
      have hge := hlong' _ hk hm hpre
      exact congrArg some (BytePrefix.eq_of_utf8ByteSize_eq hpre hpre' (by omega))
    | none _ hno => exact absurd hpre (hno _ hk hm)
  | none hp hno =>
    cases hb with
    | exact hp' => exact absurd hp' hp
    | mount _ hk hm hpre _ => exact absurd hpre (hno _ hk hm)
    | none => rfl

namespace Table

/-- 長い順に並べた mount の鍵。 -/
private theorem pairwise_mounts (t : Table) :
    ((t.paths.filter Path.isMount).mergeSort fun a b => b.utf8ByteSize ≤ a.utf8ByteSize).Pairwise
      fun a b => decide (b.utf8ByteSize ≤ a.utf8ByteSize) :=
  List.pairwise_mergeSort (fun _ _ _ hab hbc => by simp only [decide_eq_true_eq] at *; omega)
    (fun a b => by simpa using Nat.le_total b.utf8ByteSize a.utf8ByteSize) _

/-- `resolve` は答える鍵を選ぶ。 -/
theorem resolve_route (t : Table) (p : String) : Route t.paths p (t.resolve p) := by
  unfold resolve
  split
  · exact .exact (mem_paths_iff.mpr ‹_›)
  · rename_i hp
    have hp : p ∉ t.paths := fun h => hp (mem_paths_iff.mp h)
    have hmem : ∀ k, k ∈ (t.paths.filter Path.isMount).mergeSort
        (fun a b => b.utf8ByteSize ≤ a.utf8ByteSize) ↔
          k ∈ t.paths ∧ k.toList.getLast? = some '/' := by
      intro k
      rw [List.mem_mergeSort, List.mem_filter, Path.isMount_iff]
    cases hf : ((t.paths.filter Path.isMount).mergeSort
        fun a b => b.utf8ByteSize ≤ a.utf8ByteSize).find? (p.startsWith ·) with
    | none =>
      refine .none hp fun k hk hm hpre => ?_
      have := List.find?_eq_none.mp hf k ((hmem k).mpr ⟨hk, hm⟩)
      exact this (startsWith_iff_bytePrefix.mpr hpre)
    | some k =>
      obtain ⟨hpre, as, bs, hsplit, hbefore⟩ := List.find?_eq_some_iff_append.mp hf
      have hk := (hmem k).mp (hsplit ▸ List.mem_append_right _ List.mem_cons_self)
      refine .mount hp hk.1 hk.2 (startsWith_iff_bytePrefix.mp hpre) fun k' hk' hm' hpre' => ?_
      -- `k'` も頭になるので `k` より前にはない。後ろにあれば並べ替えの順で `k` より短い。
      have hin : k' ∈ as ++ k :: bs := hsplit ▸ (hmem k').mpr ⟨hk', hm'⟩
      have hsorted := hsplit ▸ pairwise_mounts t
      rcases List.mem_append.mp hin with hin | hin
      · have := hbefore k' hin
        simp [startsWith_iff_bytePrefix.mpr hpre'] at this
      · rcases List.mem_cons.mp hin with rfl | hin
        · exact Nat.le_refl _
        · have := (List.pairwise_cons.mp (List.pairwise_append.mp hsorted).2.1).1 k' hin
          simpa using this

/-- 答える鍵であることと、`resolve` が選ぶことは同じである。 -/
theorem resolve_eq_iff {t : Table} {p : String} {r : Option String} :
    t.resolve p = r ↔ Route t.paths p r :=
  ⟨fun h => h ▸ t.resolve_route p, fun h => (t.resolve_route p).unique h⟩

end Table

/-! ## 答え方 -/

/-- 答える鍵を選んだ後の答え。鍵がなければ header も本文もない 404。鍵があれば、要求の method の
専用の枠の処理、method を問わない枠の処理、OPTIONS なら `methods` と `allowedHeaders` から作る
preflight、ほかは `allow` に method の一覧を載せた 405 の順。 -/
def referenceAnswer (t : Table) (req : Request) : Option String → Serve Response
  | none => pure { status := Status.notFound }
  | some k =>
    match t.handler? k (.exact req.method), t.handler? k .any with
    | some h, _ => h req
    | none, some h => h req
    | none, none =>
      if req.method = Method.options then pure (preflight req (t.methods k) (t.allowedHeaders k))
      else pure (methodNotAllowed (t.methods k))

theorem Table.dispatch_eq_referenceAnswer (t : Table) (req : Request) :
    t.dispatch req = referenceAnswer t req (t.resolve req.path) := by
  unfold dispatch
  cases t.resolve req.path with
  | none => rfl
  | some k =>
    simp only [referenceAnswer]
    cases t.handler? k (.exact req.method) <;> cases t.handler? k .any <;> rfl

variable {T : Type}

/-- 組み立てに成功した server は、その後にどの呼び出しを行っても、そのときの登録簿の表の上で
答える鍵を選び、`referenceAnswer` のとおりに答える。処理が書き込みの期限を超えたときだけ 503
になる。 -/
theorem handle_eq_referenceAnswer {reg reg' : Registry} {s : Server}
    {interfaces : List (String × Nat)} {address : String} {timeouts : Option Timeouts}
    (hb : reg.build interfaces address timeouts = .ok (s, reg')) (later : List (Call T))
    (req : Request) {route : Option String}
    (hr : Route (Call.run later reg').table.paths req.path route) :
    s.handle req =
      if ((referenceAnswer (Call.run later reg').table req route).run
          (Call.run later reg').catalog).elapsed > s.timeouts.writeMs then
        Response.ofStatus Status.serviceUnavailable
      else
        ((referenceAnswer (Call.run later reg').table req route).run
          (Call.run later reg').catalog).value := by
  obtain ⟨_, rfl, htable, hcatalog, -⟩ := Registry.build_eq_ok hb
  -- 組み立ての後の登録簿は凍結しているので、後の呼び出しでは変わらない。
  have hlive : Call.run later { reg with frozen := true } = { reg with frozen := true } :=
    Call.run_of_frozen later rfl
  rw [hlive] at hr ⊢
  have hroute : s.table.resolve req.path = route := Table.resolve_eq_iff.mpr (htable ▸ hr)
  unfold Server.handle
  rw [Table.dispatch_eq_referenceAnswer, hroute, htable, hcatalog]
  rfl

/-- `/static/` にだけ method を問わない処理を置いた登録簿。 -/
def staticRegistry : Registry :=
  { table := Table.addHandler [] "/static/" .any fun _ => pure (Response.ofStatus Status.ok)
    document := OpenApi.Document.ofConfig {} }

/-- `/static/` の下の経路への要求には、mount の処理が答える。 -/
theorem handle_under_static_mount :
    staticRegistry.build [] ":0" none =
        .ok (⟨.v4 [0, 0, 0, 0] 0, staticRegistry.table, staticRegistry.catalog,
          ({} : Timeouts).normalized⟩, { staticRegistry with frozen := true }) ∧
      Route (Call.run ([] : List (Call Handler)) { staticRegistry with frozen := true }).table.paths
        "/static/app.css" (some "/static/") ∧
      Server.handle ⟨.v4 [0, 0, 0, 0] 0, staticRegistry.table, staticRegistry.catalog,
          ({} : Timeouts).normalized⟩
        { method := Method.get, uri := .origin { path := "/static/app.css" } } =
        Response.ofStatus Status.ok := by
  have hb : staticRegistry.build [] ":0" none =
      .ok (⟨.v4 [0, 0, 0, 0] 0, staticRegistry.table, staticRegistry.catalog,
        ({} : Timeouts).normalized⟩, { staticRegistry with frozen := true }) :=
    Registry.build_of_open _ _ _ _ (by decide) rfl
  have hr : Route (Call.run ([] : List (Call Handler)) { staticRegistry with frozen := true }).table.paths
      "/static/app.css" (some "/static/") :=
    .mount (by decide) (by decide) (by decide)
      ⟨"app.css".toByteArray, by rw [← String.toByteArray_append]; rfl⟩
      (fun k hk _ _ => by
        rcases Table.mem_paths_addHandler.mp hk with rfl | hk
        · exact Nat.le_refl _
        · cases hk)
  exact ⟨hb, hr, (handle_eq_referenceAnswer hb [] _ hr).trans rfl⟩

end HttpRouting
