import HttpRouting.Proofs.HeaderNames
import HttpRouting.Proofs.AllowHeader
import HttpRouting.Proofs.PathJoin

/-!
# preflight が許す header 名

OPTIONS の要求が、method の枠も method を問わない枠もない鍵 `k` に着くと、server は preflight で
答える。その header の並びは決まっている（`preflight_headers`）。

* `access-control-allow-headers` は、既定の七つの名前の後に、`k` に経路を登録できた router の追加の
  header 名（router ごとに根から受け継いだ順、router は登録の順）を並べ、ASCII の大文字小文字を
  無視して等しい名前は最初のものだけを残した列を `,` でつないだもの。名前に header の値に使えない
  文字があれば、組み立てが header ごと落とすので、一つも無い（`isSome_parse?_intercalate`）。
* `access-control-allow-origin` は、要求の最初の `origin` の値が空でなく見える ASCII（と tab）だけ
  ならその byte のまま、ほかは `*`。

表は登録のたびに名前を足し（`Table.allowedHeaders_addEndpoint`）、preflight は既定の名前にそれを
足す。二度の足し算は一度にまとめられ（`addHeaderNames_addHeaderNames`）、最初のものを残す重複の
除去（`List.eraseDupsBy`）になる。大文字小文字だけが違う名前は、header の値に使えるかどうかも同じ
（`isSome_parse?_of_same`）なので、header があるかどうかは宣言した名前だけで決まる。
-/

namespace HttpRouting

/-! ## header の値に使える文字 -/

/-- `Char.toLower` は ASCII の大文字だけを 32 先の小文字に移す。 -/
theorem char_toLower_cases (c : Char) :
    c.toLower = c ∨ (65 ≤ c.toNat ∧ c.toNat ≤ 90 ∧ c.toLower.toNat = c.toNat + 32) := by
  unfold Char.toLower
  split
  · rename_i h
    right
    have hA : 'A'.val.toNat = 65 := rfl
    have hZ : 'Z'.val.toNat = 90 := rfl
    have hd : ('a'.val - 'A'.val).toNat = 32 := rfl
    rw [GE.ge, UInt32.le_iff_toNat_le, UInt32.le_iff_toNat_le, hA, hZ] at h
    have hlt : c.val.toNat < 2 ^ 32 := c.val.toNat_lt
    refine ⟨h.1, h.2, ?_⟩
    show (c.val + ('a'.val - 'A'.val)).toNat = c.val.toNat + 32
    rw [UInt32.toNat_add, hd]
    omega
  · exact .inl rfl

/-- UTF-8 の byte がどれも header の値に使える文字。 -/
def valueChar (c : Char) : Bool := (String.utf8EncodeChar c).all isValueByte

theorem valueChar_of_visible {c : Char} (h₁ : 32 ≤ c.toNat) (h₂ : c.toNat < 127) : valueChar c = true := by
  have hb : (UInt8.ofNat c.toNat).toNat = c.toNat := by simp; omega
  rw [valueChar, utf8EncodeChar_ascii (by omega)]
  simp [(isValueByte_of_visible (by omega : 32 ≤ (UInt8.ofNat c.toNat).toNat) (by omega)).1]

/-- 大文字小文字だけが違う文字は、どちらも値に使えるか、どちらも使えない。 -/
theorem valueChar_eq_of_toLower_eq {c d : Char} (h : c.toLower = d.toLower) : valueChar c = valueChar d := by
  -- ASCII の英字はどれも値に使えるので、片方が大文字なら両方とも使える
  have hletter : ∀ e : Char, 65 ≤ e.toNat → e.toNat ≤ 122 → valueChar e = true :=
    fun e h₁ h₂ => valueChar_of_visible (by omega) (by omega)
  rcases char_toLower_cases c with hc | ⟨hc₁, hc₂, hc₃⟩ <;>
    rcases char_toLower_cases d with hd | ⟨hd₁, hd₂, hd₃⟩
  · rw [← hc, h, hd]
  · have : c.toNat = d.toNat + 32 := by rw [← hc, h, hd₃]
    rw [hletter c (by omega) (by omega), hletter d hd₁ (by omega)]
  · have : d.toNat = c.toNat + 32 := by rw [← hd, ← h, hc₃]
    rw [hletter c hc₁ (by omega), hletter d (by omega) (by omega)]
  · rw [hletter c hc₁ (by omega), hletter d hd₁ (by omega)]

/-- 文字列が値に使えるのは、どの文字も値に使えるとき。 -/
theorem isSome_parse? (s : String) : (HeaderValue.parse? s).isSome = s.toList.all valueChar := by
  have hall : (Utf8.encode s).all isValueByte = s.toList.all valueChar := List.all_flatMap
  unfold HeaderValue.parse? HeaderValue.ofBytes?
  rw [hall]
  cases s.toList.all valueChar <;> rfl

/-- 値に使える文字列の値は、その UTF-8 の byte 列。 -/
theorem toList_parse? (s : String) :
    (HeaderValue.parse? s).toList = if (HeaderValue.parse? s).isSome then [⟨Utf8.encode s⟩] else [] := by
  cases hp : HeaderValue.parse? s with
  | none => rfl
  | some v =>
    simp only [HeaderValue.parse?, HeaderValue.ofBytes?] at hp
    split at hp
    · cases hp
      rfl
    · cases hp

/-- ASCII の大文字小文字を無視して等しい名前は、どちらも値に使えるか、どちらも使えない。 -/
theorem isSome_parse?_of_same {x y : String} (h : sameIgnoringCase x y = true) :
    (HeaderValue.parse? x).isSome = (HeaderValue.parse? y).isSome := by
  have hmap : x.toList.map Char.toLower = y.toList.map Char.toLower := by
    simp only [sameIgnoringCase, beq_iff_eq] at h
    rw [← String.toList_map, ← String.toList_map]
    exact congrArg String.toList h
  rw [isSome_parse?, isSome_parse?]
  -- 文字ごとに小文字が等しいので、文字ごとに値に使えるかが等しい
  generalize x.toList = xs at hmap
  generalize y.toList = ys at hmap
  induction xs generalizing ys with
  | nil => cases ys <;> simp_all
  | cons a xs ih =>
    cases ys with
    | nil => simp at hmap
    | cons b ys =>
      rw [List.map_cons, List.map_cons, List.cons.injEq] at hmap
      rw [List.all_cons, List.all_cons, valueChar_eq_of_toLower_eq hmap.1, ih ys hmap.2]

/-- `,` でつないだ文字列が値に使えるのは、どの名前も値に使えるとき。 -/
theorem isSome_parse?_intercalate (names : List String) :
    (HeaderValue.parse? (",".intercalate names)).isSome = names.all fun x => (HeaderValue.parse? x).isSome := by
  induction names with
  | nil => rfl
  | cons x xs ih =>
    cases xs with
    | nil => simp
    | cons y ys =>
      have hcomma : valueChar ',' = true := by decide
      rw [String.intercalate_cons_cons, isSome_parse?, String.toList_append, String.toList_append,
        List.all_append, List.all_append, ← isSome_parse? x, ← isSome_parse? (",".intercalate (y :: ys)), ih]
      simp [hcomma]

/-- 大文字小文字を無視して名前を足した列が値に使えるかは、前の名前と足した名前の全部で決まる。 -/
theorem all_isSome_addHeaderNames (K L : List String) :
    (addHeaderNames K L).all (fun x => (HeaderValue.parse? x).isSome) =
      (K ++ L).all fun x => (HeaderValue.parse? x).isSome := by
  rw [Bool.eq_iff_iff, List.all_eq_true, List.all_eq_true]
  constructor
  · intro h x hx
    obtain ⟨y, hy, hyx⟩ := exists_same_of_mem hx
    rw [← isSome_parse?_of_same hyx]
    exact h y hy
  · intro h x hx
    exact h x (List.mem_append.mpr (mem_addHeaderNames hx))

/-! ## 要求の `origin` -/

/-- preflight が `access-control-allow-origin` に書く値：要求の最初の `origin` の値が空でなく見える
ASCII（と tab）だけならその値、ほかは `*`。 -/
def preflightOrigin (req : Request) : HeaderValue :=
  match req.headers.get? "origin" with
  | some v => if v.bytes ≠ [] ∧ v.bytes.all isVisibleByte = true then v else ⟨Utf8.encode "*"⟩
  | none => ⟨Utf8.encode "*"⟩

theorem parse?_star : HeaderValue.parse? "*" = some ⟨Utf8.encode "*"⟩ := by decide

/-- `origin` を文字列として読めなければ、`*` を書く。 -/
theorem parse?_preflightOrigin_of_none {req : Request} (h : req.header? "origin" = none) :
    HeaderValue.parse? "*" = some (preflightOrigin req) := by
  unfold Request.header? Headers.text? at h
  unfold preflightOrigin
  cases hv : req.headers.get? "origin" with
  | none => exact parse?_star
  | some v =>
    rw [hv, Option.bind_some, HeaderValue.text?] at h
    have hvis : ¬v.bytes.all isVisibleByte = true := fun e => by rw [if_pos e] at h; cases h
    dsimp only
    rw [if_neg fun e => hvis e.2]
    exact parse?_star

/-- `origin` を文字列 `o` として読めれば、空なら `*` を、ほかは `o` を書き、それは元の値の byte の
まま。 -/
theorem parse?_preflightOrigin_of_some {req : Request} {o : String} (h : req.header? "origin" = some o) :
    HeaderValue.parse? (if o.isEmpty then "*" else o) = some (preflightOrigin req) := by
  unfold Request.header? Headers.text? at h
  unfold preflightOrigin
  cases hv : req.headers.get? "origin" with
  | none => rw [hv] at h; cases h
  | some v =>
    rw [hv, Option.bind_some, HeaderValue.text?] at h
    have hvis : v.bytes.all isVisibleByte = true := by
      cases e : v.bytes.all isVisibleByte
      · simp [e] at h
      · rfl
    rw [if_pos hvis] at h
    cases h
    obtain ⟨henc, hempty⟩ := encode_decodeLossy_of_visible hvis
    dsimp only
    by_cases hnil : v.bytes = []
    · rw [if_pos (String.isEmpty_iff.mpr (hempty.mpr hnil)), if_neg fun e => e.1 hnil]
      exact parse?_star
    · have hne : ¬(Utf8.decodeLossy v.bytes).isEmpty = true := fun e => hnil (hempty.mp (String.isEmpty_iff.mp e))
      have hval : v.bytes.all isValueByte = true :=
        List.all_eq_true.mpr fun b hb => isValueByte_of_isVisibleByte (List.all_eq_true.mp hvis b hb)
      rw [if_neg hne, if_pos ⟨hnil, hvis⟩, HeaderValue.parse?, HeaderValue.ofBytes?, henc, if_pos hval]

/-! ## preflight の header の並び -/

theorem HeaderName.parse?_allowOrigin :
    HeaderName.parse? "access-control-allow-origin" = some ⟨"access-control-allow-origin"⟩ :=
  HeaderName.parse?_of_lower (by decide) (by decide) (by simp)

theorem HeaderName.parse?_allowCredentials :
    HeaderName.parse? "access-control-allow-credentials" = some ⟨"access-control-allow-credentials"⟩ :=
  HeaderName.parse?_of_lower (by decide) (by decide) (by simp)

theorem HeaderName.parse?_contentType : HeaderName.parse? "content-type" = some ⟨"content-type"⟩ :=
  HeaderName.parse?_of_lower (by decide) (by decide) (by simp)

theorem HeaderName.parse?_maxAge :
    HeaderName.parse? "access-control-max-age" = some ⟨"access-control-max-age"⟩ :=
  HeaderName.parse?_of_lower (by decide) (by decide) (by simp)

/-- preflight の応答の header の並び。許す header 名は値に使えるときだけ先頭に一つ置かれ、その後に
method の一覧（二つ）、origin、credentials、content-type、max-age が一つずつ並ぶ。 -/
theorem preflight_headers (req : Request) (ms : List Method) (extra : List String) :
    (preflight req ms extra).headers =
      (HeaderValue.parse? (allowedHeaders extra)).toList.map (fun v => (⟨"access-control-allow-headers"⟩, v)) ++
        [(⟨"access-control-allow-methods"⟩, ⟨Utf8.encode (allowList ms)⟩),
         (⟨"allow"⟩, ⟨Utf8.encode (allowList ms)⟩),
         (⟨"access-control-allow-origin"⟩, preflightOrigin req),
         (⟨"access-control-allow-credentials"⟩, ⟨Utf8.encode "true"⟩),
         (⟨"content-type"⟩, ⟨Utf8.encode "application/json"⟩),
         (⟨"access-control-max-age"⟩, ⟨Utf8.encode "600"⟩)] := by
  have htrue : HeaderValue.parse? "true" = some ⟨Utf8.encode "true"⟩ := by decide
  have hjson : HeaderValue.parse? "application/json" = some ⟨Utf8.encode "application/json"⟩ := by decide
  have hage : HeaderValue.parse? (toString preflightMaxAge) = some ⟨Utf8.encode "600"⟩ := by decide
  unfold preflight
  simp only [Response.Builder.noBody, Response.Builder.headers_header, Response.builder,
    HeaderName.parse?_allowHeaders, HeaderName.parse?_allowMethods, HeaderName.parse?_allow,
    HeaderName.parse?_allowOrigin, HeaderName.parse?_allowCredentials, HeaderName.parse?_contentType,
    HeaderName.parse?_maxAge, parse?_allowList, htrue, hjson, hage, Option.bind_some,
    Option.map_some, Option.toList_some, List.nil_append, List.append_assoc, List.singleton_append]
  -- origin は要求の header を文字列として読めたかで分かれる
  split
  · rename_i o ho
    rw [parse?_preflightOrigin_of_some ho]
    cases HeaderValue.parse? (allowedHeaders extra) <;> rfl
  · rename_i ho
    rw [parse?_preflightOrigin_of_none ho]
    cases HeaderValue.parse? (allowedHeaders extra) <;> rfl

/-- preflight の `access-control-allow-headers` は、値に使えるときだけ一つある。 -/
theorem getAll_allowHeaders (req : Request) (ms : List Method) (extra : List String) :
    (preflight req ms extra).headers.getAll ⟨"access-control-allow-headers"⟩ =
      (HeaderValue.parse? (allowedHeaders extra)).toList := by
  rw [preflight_headers]
  cases HeaderValue.parse? (allowedHeaders extra) <;> simp [Headers.getAll]

/-- preflight の `access-control-allow-origin` はいつも一つある。 -/
theorem getAll_allowOrigin (req : Request) (ms : List Method) (extra : List String) :
    (preflight req ms extra).headers.getAll ⟨"access-control-allow-origin"⟩ =
      [preflightOrigin req] := by
  rw [preflight_headers]
  cases HeaderValue.parse? (allowedHeaders extra) <;> simp [Headers.getAll]

/-- method の枠も method を問わない枠もない鍵への OPTIONS の応答の `access-control-allow-headers` は、
その鍵の追加の header 名から作った値。 -/
theorem Server.getAll_allowHeaders_of_no_handler {s : Server} {req : Request} {k : String}
    (hopt : req.method = Method.options) (hroute : s.table.resolve req.path = some k)
    (hexact : s.table.handler? k (.exact req.method) = none) (hany : s.table.handler? k .any = none) :
    (s.handle req).headers.getAll ⟨"access-control-allow-headers"⟩ =
      (HeaderValue.parse? (allowedHeaders (s.table.allowedHeaders k))).toList := by
  rw [Server.handle_of_no_handler hroute hexact hany, if_pos hopt, getAll_allowHeaders]

/-! ## 経路の登録の列 -/

variable {T : Type}

/-- 根の router から設定の鎖 `chain` をたどった router への、経路の登録。 -/
structure Registration (T : Type) where
  chain : List (RouterConfig T)
  sub : String
  method : Method
  handler : T
  doc : Option Documentation

namespace Registration

/-- 根 `r₀` から鎖をたどった router。 -/
def router (r₀ : Router T) (g : Registration T) : Router T := g.chain.foldl Router.subrouter r₀

/-- 根 `r₀` の木での呼び出し。 -/
def call (r₀ : Router T) (g : Registration T) : Call T :=
  .endpoint (g.router r₀) g.sub g.method g.handler g.doc

/-- 根の設定 `c₀` の木での鍵：根の接頭辞に、鎖の接頭辞と下位の経路を `/` でつないだものをつなぐ。 -/
def key (c₀ : RouterConfig T) (g : Registration T) : String :=
  Path.join c₀.pathPrefix ("/".intercalate (g.chain.map (·.pathPrefix) ++ [g.sub]))

/-- 根の設定 `c₀` から鎖の設定までの追加の header 名を、根から順に並べたもの。 -/
def declared (c₀ : RouterConfig T) (g : Registration T) : List String :=
  (c₀ :: g.chain).flatMap RouterConfig.allowedHeaders

/-- 説明が無いか、作れた。 -/
def documentable (g : Registration T) : Bool :=
  match g.doc with
  | some (.error _) => false
  | _ => true

/-- 鍵 `k` に経路を登録できる。 -/
def registersAt (c₀ : RouterConfig T) (k : String) (g : Registration T) : Bool :=
  decide (g.key c₀ = k) && g.documentable

end Registration

/-- 鍵 `k` に経路を登録できた router の追加の header 名を、登録の順に並べたもの。 -/
def declaredAt (c₀ : RouterConfig T) (regs : List (Registration T)) (k : String) : List String :=
  (regs.filter (·.registersAt c₀ k)).flatMap (·.declared c₀)

theorem declaredAt_cons (c₀ : RouterConfig T) (g : Registration T) (gs : List (Registration T)) (k : String) :
    declaredAt c₀ (g :: gs) k = (if g.registersAt c₀ k then g.declared c₀ else []) ++ declaredAt c₀ gs k := by
  unfold declaredAt
  rw [List.filter_cons]
  split <;> simp

theorem Router.allowedHeaders_foldl_subrouter (r : Router T) (cs : List (RouterConfig T)) :
    (cs.foldl Router.subrouter r).allowedHeaders = r.allowedHeaders ++ cs.flatMap RouterConfig.allowedHeaders := by
  induction cs generalizing r with
  | nil => simp
  | cons c cs ih =>
    rw [List.foldl_cons, ih, List.flatMap_cons, ← List.append_assoc]
    rfl

namespace Registration

variable {c₀ : RouterConfig T} {doc : OpenApi.Config} {r₀ : Router T} {reg₀ : Registry}

/-- 根を作れた木では、登録の鍵は鎖の先の接頭辞に下位の経路をつないだもの、router の追加の header
名は鎖の設定の名前を根から並べたもの。 -/
theorem key_router_allowedHeaders (hroot : Router.root c₀ doc = .ok (r₀, reg₀)) (g : Registration T) :
    Path.join (g.router r₀).pathPrefix g.sub = g.key c₀ ∧ (g.router r₀).allowedHeaders = g.declared c₀ := by
  obtain ⟨f, -, hr⟩ := Router.root_eq_ok hroot
  have hkey : r₀.pathPrefix = Path.join c₀.pathPrefix ("/".intercalate []) := by rw [hr]; rfl
  constructor
  · rw [router, Router.pathPrefix_foldl_subrouter hkey, List.nil_append, key,
      Path.join_intercalate_append_singleton]
  · rw [router, Router.allowedHeaders_foldl_subrouter, declared, List.flatMap_cons, hr]

/-- 凍結していない登録簿への経路の登録は、凍結の印を変えず、説明を作れたときだけ表に書く。 -/
theorem apply_call_of_open (g : Registration T) {reg : Registry} (hf : reg.frozen = false) :
    ((g.call r₀).apply reg).frozen = false ∧
      ((g.call r₀).apply reg).table =
        if g.documentable then
          reg.table.addEndpoint (Path.join (g.router r₀).pathPrefix g.sub) (.exact g.method)
            ((g.router r₀).wrap g.method (Path.join (g.router r₀).pathPrefix g.sub) g.handler)
            (g.router r₀).allowedHeaders
        else reg.table := by
  obtain ⟨chain, sub, m, h, d⟩ := g
  rcases d with _ | ⟨reason⟩ | ⟨op⟩
  · simp only [call, Call.apply, Call.perform, Router.endpoint_of_open _ _ _ _ _ hf, Except.map]
    exact ⟨hf, rfl⟩
  · simp only [call, Call.apply, Call.perform, Router.endpoint_undocumentable _ _ _ _ _ _ hf, Except.map]
    exact ⟨hf, rfl⟩
  · simp only [call, Call.apply, Call.perform, Router.endpoint_documented _ _ _ _ _ _ hf, Except.map]
    exact ⟨hf, rfl⟩

/-- 凍結していない登録簿に経路の登録を順に行うと、凍結の印は変わらず、鍵 `q` の追加の header 名は、
`q` に登録できた router の名前を登録の順に足したもの。 -/
theorem run_calls (hroot : Router.root c₀ doc = .ok (r₀, reg₀)) (regs : List (Registration T))
    {reg : Registry} (hf : reg.frozen = false) :
    (Call.run (regs.map (·.call r₀)) reg).frozen = false ∧
      ∀ q, (Call.run (regs.map (·.call r₀)) reg).table.allowedHeaders q =
        addHeaderNames (reg.table.allowedHeaders q) (declaredAt c₀ regs q) := by
  induction regs generalizing reg with
  | nil => exact ⟨hf, fun q => by simp [declaredAt]⟩
  | cons g gs ih =>
    obtain ⟨hf', htable⟩ := g.apply_call_of_open hf
    obtain ⟨hkey, hnames⟩ := g.key_router_allowedHeaders hroot
    obtain ⟨hfrozen, hheaders⟩ := ih hf'
    refine ⟨hfrozen, fun q => ?_⟩
    rw [List.map_cons, Call.run_cons, hheaders, htable]
    -- 一つ目の登録が `q` に書いた名前を、残りの登録の名前の前に足す
    have hone : (if g.documentable then
          reg.table.addEndpoint (Path.join (g.router r₀).pathPrefix g.sub) (.exact g.method)
            ((g.router r₀).wrap g.method (Path.join (g.router r₀).pathPrefix g.sub) g.handler)
            (g.router r₀).allowedHeaders
        else reg.table).allowedHeaders q =
        addHeaderNames (reg.table.allowedHeaders q) (if g.registersAt c₀ q then g.declared c₀ else []) := by
      unfold registersAt
      split
      · rw [Table.allowedHeaders_addEndpoint, hkey, hnames]
        by_cases hq : q = g.key c₀
        · simp [*]
        · simp [hq, Ne.symm hq]
      · simp [*]
    rw [hone, ← addHeaderNames_append, declaredAt_cons]

end Registration

/-! ## 許す header 名 -/

/-- 既定の七つの名前は、大文字小文字を無視しても重ならない。 -/
theorem pairwise_defaultAllowedHeaders : defaultAllowedHeaders.Pairwise CaseDistinct := by
  -- 文字の列の形で比べるほうが、kernel で `String.toLower` を計算するより速い
  show defaultAllowedHeaders.Pairwise fun a b => sameIgnoringCase a b = false
  rw [sameIgnoringCase_eq_toList]
  decide +kernel

/-- 根 `c₀` の木に経路の登録を順に行ってから組み立てた server に、OPTIONS の要求が、method の枠も
method を問わない枠もない鍵 `k` に着いたとする。既定の七つの名前の後に、`k` に経路を登録できた
router の追加の header 名（router ごとに根から受け継いだ順、router は登録の順）を並べ、ASCII の
大文字小文字を無視して等しい名前は最初のものだけを残した列を `names` とする。`names` のどの二つも
大文字小文字を無視して等しくない。宣言した名前がどれも header の値に使えるなら、応答には
`access-control-allow-headers` がちょうど一つあり、その値は `names` を `,` でつないだもので、`,` を
含む名前がなければ `,` で切ると `names` に戻る。使えない名前があれば、その header は無い。
`access-control-allow-origin` はちょうど一つあり、要求の最初の `origin` の値が空でなく見える ASCII
（と tab）だけならその値、ほかは `*`。 -/
theorem preflight_allow_headers_follow_registrations {c₀ : RouterConfig T} {doc : OpenApi.Config}
    {r₀ : Router T} {reg₀ : Registry} (hroot : Router.root c₀ doc = .ok (r₀, reg₀))
    (regs : List (Registration T)) {ifs : List (String × Nat)} {address : String}
    {timeouts : Option Timeouts} {s : Server} {reg' : Registry}
    (hbuild : (Call.run (regs.map (·.call r₀)) reg₀).build ifs address timeouts = .ok (s, reg'))
    {req : Request} {k : String} (hopt : req.method = Method.options)
    (hroute : s.table.resolve req.path = some k) (hexact : s.table.handler? k (.exact req.method) = none)
    (hany : s.table.handler? k .any = none) :
    ((defaultAllowedHeaders ++ declaredAt c₀ regs k).eraseDupsBy sameIgnoringCase).Pairwise CaseDistinct ∧
    (s.handle req).headers.getAll ⟨"access-control-allow-headers"⟩ =
      (if ∀ x ∈ declaredAt c₀ regs k, (HeaderValue.parse? x).isSome then
        [⟨Utf8.encode (",".intercalate
          ((defaultAllowedHeaders ++ declaredAt c₀ regs k).eraseDupsBy sameIgnoringCase))⟩]
      else []) ∧
    ((∀ x ∈ declaredAt c₀ regs k, ',' ∉ x.toList) →
      ((",".intercalate ((defaultAllowedHeaders ++ declaredAt c₀ regs k).eraseDupsBy sameIgnoringCase)).split
        ',').toList.map (·.copy) =
        (defaultAllowedHeaders ++ declaredAt c₀ regs k).eraseDupsBy sameIgnoringCase) ∧
    (s.handle req).headers.getAll ⟨"access-control-allow-origin"⟩ =
      [preflightOrigin req] := by
  have hreg₀ := Router.root_registry hroot
  obtain ⟨-, -, htable, -, -⟩ := Registry.build_eq_ok hbuild
  obtain ⟨-, hheaders⟩ := Registration.run_calls hroot regs (show reg₀.frozen = false by rw [hreg₀])
  -- 表の名前は空の列に宣言した名前を足したもので、preflight はそれを既定の名前に足す
  have hextra : s.table.allowedHeaders k = addHeaderNames [] (declaredAt c₀ regs k) := by
    rw [htable, hheaders, hreg₀]
    rfl
  have hnames : addHeaderNames defaultAllowedHeaders (s.table.allowedHeaders k) =
      (defaultAllowedHeaders ++ declaredAt c₀ regs k).eraseDupsBy sameIgnoringCase := by
    rw [hextra, addHeaderNames_addHeaderNames, List.nil_append,
      addHeaderNames_eq_eraseDupsBy pairwise_defaultAllowedHeaders]
  have hhandle : s.handle req = preflight req (s.table.methods k) (s.table.allowedHeaders k) := by
    rw [Server.handle_of_no_handler hroute hexact hany, if_pos hopt]
  refine ⟨?_, ?_, fun hcomma => ?_, ?_⟩
  · rw [← hnames]
    exact pairwise_addHeaderNames pairwise_defaultAllowedHeaders _
  · -- つないだ文字列が値に使えるのは、宣言した名前がどれも使えるとき
    have hvalid : (HeaderValue.parse? (",".intercalate
        ((defaultAllowedHeaders ++ declaredAt c₀ regs k).eraseDupsBy sameIgnoringCase))).isSome =
        decide (∀ x ∈ declaredAt c₀ regs k, (HeaderValue.parse? x).isSome) := by
      rw [isSome_parse?_intercalate, ← addHeaderNames_eq_eraseDupsBy pairwise_defaultAllowedHeaders,
        all_isSome_addHeaderNames, List.all_append]
      have hdefaults : defaultAllowedHeaders.all (fun x => (HeaderValue.parse? x).isSome) = true := by
        decide
      rw [hdefaults, Bool.true_and, List.all_eq]
    rw [Server.getAll_allowHeaders_of_no_handler hopt hroute hexact hany, allowedHeaders, hnames, toList_parse?,
      hvalid]
    simp only [decide_eq_true_eq]
  · rw [← hnames]
    have hne : addHeaderNames defaultAllowedHeaders (s.table.allowedHeaders k) ≠ [] :=
      List.ne_nil_of_mem ((prefix_addHeaderNames _ _).subset (by decide : "Content-Type" ∈ defaultAllowedHeaders))
    rw [show "," = String.singleton ',' from rfl, String.toList_split_intercalate, if_neg hne]
    -- 名前は既定の名前か宣言した名前で、どれも `,` を含まない
    intro x hx hc
    rw [hextra, addHeaderNames_addHeaderNames, List.nil_append] at hx
    rcases mem_addHeaderNames hx with hx | hx
    · exact (by decide : ∀ y ∈ defaultAllowedHeaders, ',' ∉ y.toList) x hx hc
    · exact hcomma x hx hc
  · rw [hhandle, getAll_allowOrigin]

/-! ## 例 -/

theorem listen_any : ListenAddress.parse? [] ":0" = some (.v4 [0, 0, 0, 0] 0) := by decide

/-- 許す名前が値に使えない文字（U+0001）を含めば、preflight には `access-control-allow-headers` が無い。 -/
theorem preflight_drops_invalid_allow_headers :
    Router.root ({ pathPrefix := "/", allowedHeaders := ["X-Bad\x01"], conversion := some id } : RouterConfig Handler)
        (OpenApi.Config.new "svc" "test service" "0.0.1") =
        .ok ({ slashRouter with allowedHeaders := ["X-Bad\x01"] }, slashRegistry) ∧
    ∃ s reg', (Call.run [.endpoint { slashRouter with allowedHeaders := ["X-Bad\x01"] } "x" Method.get okHandler none]
        slashRegistry).build [] ":0" none = .ok (s, reg') ∧
      s.table.resolve "/x" = some "/x" ∧
      (s.handle { method := Method.options, uri := .origin { path := "/x" } }).headers.getAll
        ⟨"access-control-allow-headers"⟩ = [] := by
  have hroute : (Call.run [.endpoint { slashRouter with allowedHeaders := ["X-Bad\x01"] } "x" Method.get okHandler
      none] slashRegistry).table.resolve "/x" = some "/x" := by decide +kernel
  refine ⟨rfl, _, _, Registry.build_of_open _ _ _ _ listen_any (by decide), hroute, ?_⟩
  rw [Server.getAll_allowHeaders_of_no_handler rfl hroute rfl rfl]
  decide +kernel

/-- `X-Tenant` を許す、接頭辞 `/` の根の設定と router。 -/
def tenantConfig : RouterConfig Handler := { pathPrefix := "/", allowedHeaders := ["X-Tenant"], conversion := some id }

def tenantRouter : Router Handler := { slashRouter with allowedHeaders := ["X-Tenant"] }

/-- `/api/users` に、`x-tenant` と `X-Trace` を許す下位の router から GET を、根から POST を登録する。 -/
def tenantRegistrations : List (Registration Handler) :=
  [{ chain := [{ pathPrefix := "api", allowedHeaders := ["x-tenant", "X-Trace"] }], sub := "users",
      method := Method.get, handler := okHandler, doc := none },
    { chain := [], sub := "api/users", method := Method.post, handler := okHandler, doc := none }]

/-- `https://app.example` から `/api/users` への OPTIONS の要求。 -/
def tenantPreflight : Request :=
  { method := Method.options, uri := .origin { path := "/api/users" },
    headers := [(⟨"origin"⟩, ⟨Utf8.encode "https://app.example"⟩)] }

/-- 大文字小文字だけが違う `X-Tenant` と `x-tenant` は、既定の名前の後に最初の一つだけが残り、origin は
そのまま返る。 -/
theorem preflight_allows_tenant_once :
    Router.root tenantConfig (OpenApi.Config.new "svc" "test service" "0.0.1") = .ok (tenantRouter, slashRegistry) ∧
      ∃ s reg', (Call.run (tenantRegistrations.map (·.call tenantRouter)) slashRegistry).build [] ":0" none =
          .ok (s, reg') ∧
        s.table.resolve tenantPreflight.path = some "/api/users" ∧
        (s.handle tenantPreflight).headers.getAll ⟨"access-control-allow-headers"⟩ =
          [⟨Utf8.encode ("Content-Type,Cache-Control,Authorization,X-Amz-Date,X-Api-Key," ++
            "X-Amz-Security-Token,X-Requested-With,X-Tenant,X-Trace")⟩] ∧
        (s.handle tenantPreflight).headers.getAll ⟨"access-control-allow-origin"⟩ =
          [⟨Utf8.encode "https://app.example"⟩] := by
  have hroot : Router.root tenantConfig (OpenApi.Config.new "svc" "test service" "0.0.1") =
      .ok (tenantRouter, slashRegistry) := rfl
  have hbuild := Registry.build_of_open (Call.run (tenantRegistrations.map (·.call tenantRouter)) slashRegistry)
    [] ":0" none listen_any (by decide)
  have hroute : (Call.run (tenantRegistrations.map (·.call tenantRouter)) slashRegistry).table.resolve
      tenantPreflight.path = some "/api/users" := by decide +kernel
  have hexact : (Call.run (tenantRegistrations.map (·.call tenantRouter)) slashRegistry).table.handler?
      "/api/users" (.exact tenantPreflight.method) = none := rfl
  have hany : (Call.run (tenantRegistrations.map (·.call tenantRouter)) slashRegistry).table.handler?
      "/api/users" .any = none := rfl
  obtain ⟨-, hheaders, -, horigin⟩ := preflight_allow_headers_follow_registrations hroot tenantRegistrations
    hbuild rfl hroute hexact hany
  -- 宣言した名前は根の `X-Tenant` が二度と、下位の router の二つ
  have hdeclared : declaredAt tenantConfig tenantRegistrations "/api/users" =
      ["X-Tenant", "x-tenant", "X-Trace", "X-Tenant"] := by decide +kernel
  have hnames : (defaultAllowedHeaders ++ ["X-Tenant", "x-tenant", "X-Trace", "X-Tenant"]).eraseDupsBy
      sameIgnoringCase = defaultAllowedHeaders ++ ["X-Tenant", "X-Trace"] := by
    rw [sameIgnoringCase_eq_toList]
    decide +kernel
  have hjoin : ",".intercalate (defaultAllowedHeaders ++ ["X-Tenant", "X-Trace"]) =
      "Content-Type,Cache-Control,Authorization,X-Amz-Date,X-Api-Key," ++
        "X-Amz-Security-Token,X-Requested-With,X-Tenant,X-Trace" := by decide +kernel
  refine ⟨hroot, _, _, hbuild, hroute, ?_, ?_⟩
  · rw [hheaders, hdeclared, if_pos (by decide +kernel), hnames, hjoin]
  · rw [horigin]
    decide +kernel

end HttpRouting
