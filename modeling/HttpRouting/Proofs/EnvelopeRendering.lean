import HttpRouting.Proofs.PrettyReading
import HttpRouting.Proofs.TrimSpaces
import HttpRouting.Proofs.Headers
import HttpRouting.Envelope

/-!
# 結果を封筒に入れた応答

`Envelope.toHandler` は業務の処理の結果を JSON の応答にする。結果の値が書いて読み戻せる形なら
（`Envelope.Readable`: 小数を含まず、整数は読み手が整数として読む範囲、object の名前は並ぶ）、
応答は次のとおり。

* 状態は結果の状態、header は `content-type: application/json` の一つだけ。
* 本文は、要求の `indent` header の最初の値が `1 t T true TRUE True` のどれか
  （`Envelope.IndentRequested`）なら tab で字下げした書き表し、そうでなければ空白のない書き表し。
* どちらの書き表しも、byte 列全体で `Envelope.value` を表す。成功なら `data`（データがあれば）、
  `meta`（付帯情報があれば）と `success: true`、失敗なら `error: {message: 文}` と
  `success: false`。

本文の object は `success` を先に書くが、読み手は名前の順に並べるので、表す値は名前の順に
並んだ `Envelope.value` になる（`Envelope.object_ok`、`Envelope.object_error`）。

主な結果は `Envelope.envelope_response_encodes_outcome`。
-/

namespace HttpRouting

namespace Envelope

open Json

/-! ## 本文が表す値 -/

/-- 結果のデータと付帯情報が、書いて読み戻せる値で、入れ子が深さ `d` まで。失敗の文はどれでもよい。 -/
def Readable (d : Nat) : Outcome → Prop
  | .ok r => (∀ v ∈ r.data, v.Plain d) ∧ (∀ v ∈ r.metadata, v.Plain d)
  | .error _ => True

/-- 本文が表す値。名前の順に並べた object。 -/
def value : Outcome → Json
  | .ok r => .obj (entry "data" r.data ++ entry "meta" r.metadata ++ [("success", .bool true)])
  | .error f => .obj [("error", .obj [("message", .str f.message)]), ("success", .bool false)]

/-- 成功の本文の組を書いた順に入れると、名前の順に並んだ値になる。 -/
theorem object_ok (r : Reply) :
    Json.object ([("success", .bool true)] ++ entry "data" r.data ++ entry "meta" r.metadata) = value (.ok r) := by
  -- データと付帯情報の有無の四通り。どれも `data` `meta` `success` の順に並ぶ
  have hds : "data" < "success" := by decide +kernel
  have hms : "meta" < "success" := by decide +kernel
  have hmd : ¬"meta" < "data" := by decide +kernel
  rw [value]
  cases r.data <;> cases r.metadata <;> simp [Json.object, entry, Fields.insert, Keyed.insert, hds, hms, hmd]

theorem object_error (f : Failure) :
    Json.object [("success", .bool false), ("error", .obj [("message", .str f.message)])] = value (.error f) := by
  have hes : "error" < "success" := by decide +kernel
  simp [value, Json.object, Fields.insert, Keyed.insert, hes]

theorem plain_entry {d : Nat} (k : String) {x : Option Json} (hx : ∀ v ∈ x, v.Plain d) :
    ∀ kv ∈ entry k x, kv.2.Plain d := by
  cases x with
  | none => simp [entry]
  | some v =>
    intro kv hkv
    rw [entry, List.mem_singleton] at hkv
    exact hkv ▸ hx v rfl

/-- tab は空白。 -/
theorem blanks_tab : Reader.Blanks (Utf8.encode "\t") := by
  intro b hb
  rw [show Utf8.encode "\t" = [0x09] from rfl, List.mem_singleton] at hb
  exact hb ▸ .inr (.inr (.inl rfl))

/-- 値が読み戻せる object は、字下げの有無のどちらで書いても、byte 列全体で組を書いた順に
入れた object を表す。 -/
theorem readsWhole_written_obj {d : Nat} {fs : List (String × Json)} (hfs : ∀ kv ∈ fs, kv.2.Plain d)
    (pretty : Bool) :
    ReadsWhole (Utf8.encode (if pretty then (Json.obj fs).pretty "\t" else (Json.obj fs).compact))
      (Json.object fs) (d + 1) := by
  cases pretty with
  | false => exact readsWhole_compact_obj hfs
  | true => exact readsWhole_pretty_obj blanks_tab hfs

/-- 本文の書き表しは、字下げの有無のどちらでも、byte 列全体で `value` を表す。本文は結果の値を
一段包むので、入れ子は一段深い（失敗でも `error` の object で深さ 2）。 -/
theorem readsWhole_body {d : Nat} {o : Outcome} (ho : Readable d o) (pretty : Bool) :
    ReadsWhole (Utf8.encode (if pretty then (body o).pretty "\t" else (body o).compact)) (value o)
      (max d 1 + 1) := by
  cases o with
  | ok r =>
    obtain ⟨hdata, hmeta⟩ := ho
    have hfs : ∀ kv ∈ [("success", Json.bool true)] ++ entry "data" r.data ++ entry "meta" r.metadata,
        kv.2.Plain (max d 1) := by
      intro kv hkv
      simp only [List.mem_append, List.mem_singleton] at hkv
      rcases hkv with (rfl | hkv) | hkv
      · exact .bool _ true
      · exact (plain_entry "data" hdata kv hkv).mono (by omega)
      · exact (plain_entry "meta" hmeta kv hkv).mono (by omega)
    rw [← object_ok]
    exact readsWhole_written_obj hfs pretty
  | error f =>
    have hmessage : (Json.obj [("message", .str f.message)]).Plain 1 :=
      .obj (by simp [Keyed.Sorted, Keyed.keys]) fun kv hkv => by
        rw [List.mem_singleton] at hkv
        exact hkv ▸ .str 0 f.message
    have hfs : ∀ kv ∈ [("success", Json.bool false), ("error", Json.obj [("message", .str f.message)])],
        kv.2.Plain (max d 1) := by
      intro kv hkv
      simp only [List.mem_cons, List.not_mem_nil, or_false] at hkv
      rcases hkv with rfl | rfl
      · exact .bool _ false
      · exact hmessage.mono (by omega)
    rw [← object_error]
    exact readsWhole_written_obj hfs pretty

/-! ## 字下げを求める要求 -/

/-- 要求の `indent` header の最初の値が、字下げを求める値（`1 t T true TRUE True`）のどれかの
byte 列。 -/
def IndentRequested (r : Request) : Prop :=
  ∃ v ∈ indentValues, ∃ hv : HeaderValue, r.headers.get? "indent" = some hv ∧ hv.bytes = Utf8.encode v

theorem visibleAscii_indentValues : ∀ v ∈ indentValues, VisibleAscii v := by
  simp [indentValues, VisibleAscii]

/-- `wantsIndent` は、`indent` header の最初の値を見えるときだけ文字列として読むが、字下げを
求める値はどれも見える文字なので、最初の値の byte 列で決まる。 -/
theorem wantsIndent_iff (r : Request) : wantsIndent r = true ↔ IndentRequested r := by
  unfold wantsIndent IndentRequested
  constructor
  · intro h
    split at h
    · rename_i s hs
      simp only [Request.header?, Headers.text?, Option.bind_eq_some_iff] at hs
      obtain ⟨hv, hget, htext⟩ := hs
      exact ⟨s, by simpa using h, hv, hget, (HeaderValue.text?_eq_some htext).1.symm⟩
    · cases h
  · rintro ⟨v, hv, hvalue, hget, hbytes⟩
    have hvalue_eq : hvalue = ⟨Utf8.encode v⟩ := by rw [← hbytes]
    have hheader : r.header? "indent" = some v := by
      rw [Request.header?, Headers.text?, hget, hvalue_eq, Option.bind_some,
        HeaderValue.text?_of_visible (visibleAscii_indentValues v hv)]
    rw [hheader]
    simpa using hv

instance (r : Request) : Decidable (IndentRequested r) := decidable_of_iff _ (wantsIndent_iff r)

/-! ## 応答 -/

theorem toHandler_value (h : EnvelopeHandler) (req : Request) (cat : Catalog) :
    (toHandler h req cat).value = render (h req cat).value (wantsIndent req) :=
  rfl

theorem render_body (o : Outcome) (pretty : Bool) :
    (render o pretty).body = Utf8.encode (if pretty then (body o).pretty "\t" else (body o).compact) :=
  rfl

/-- 結果を封筒に入れた応答。状態は結果の状態、header は `content-type: application/json` の
一つだけ。本文は、字下げを求める要求なら tab で字下げした、そうでなければ空白のない本文の
書き表しで、byte 列全体で `value` を表す。入れ子が深さ 126 までなら `Json.parse` もそう読む。 -/
theorem envelope_response_encodes_outcome (h : EnvelopeHandler) (req : Request) (cat : Catalog)
    {o : Outcome} (ho : (h req cat).value = o) {d : Nat} (hread : Readable d o) :
    (toHandler h req cat).value.status = status o ∧
    (toHandler h req cat).value.headers = [(⟨"content-type"⟩, ⟨Utf8.encode "application/json"⟩)] ∧
    (toHandler h req cat).value.body =
      Utf8.encode (if IndentRequested req then (body o).pretty "\t" else (body o).compact) ∧
    ReadsWhole (toHandler h req cat).value.body (value o) (max d 1 + 1) ∧
    (d ≤ 126 → parse (toHandler h req cat).value.body = .ok (value o)) := by
  rw [toHandler_value, ho]
  have hbody : (render o (wantsIndent req)).body =
      Utf8.encode (if IndentRequested req then (body o).pretty "\t" else (body o).compact) := by
    rw [render_body]
    by_cases hi : IndentRequested req
    · rw [if_pos ((wantsIndent_iff req).mpr hi), if_pos hi]
    · rw [if_neg (mt (wantsIndent_iff req).mp hi), if_neg hi]
  have hwhole := readsWhole_body hread (wantsIndent req)
  rw [← render_body] at hwhole
  exact ⟨rfl, rfl, hbody, hwhole, fun hd => parse_of_readsWhole hwhole (by omega)⟩

/-- データ `[1, "a"]` を返す処理。 -/
def listHandler : EnvelopeHandler := fun _ => pure (.ok (Reply.ok (.arr [.int 1, .str "a"])))

/-- `indent: true` の要求。 -/
def indentedRequest : Request :=
  { method := Method.get, uri := .origin { path := "/" }, headers := [(⟨"indent"⟩, ⟨Utf8.encode "true"⟩)] }

theorem HeaderName.parse?_indent : HeaderName.parse? "indent" = some ⟨"indent"⟩ :=
  HeaderName.parse?_of_lower (by decide) (by decide) (by simp)

/-- データ `[1, "a"]` を返す処理に `indent: true` の要求。本文は tab で字下げして書かれ、
`{"data": [1, "a"], "success": true}` と読める。 -/
theorem indented_list_reply :
    Readable 1 (.ok (Reply.ok (.arr [.int 1, .str "a"]))) ∧ IndentRequested indentedRequest ∧
    (toHandler listHandler indentedRequest Catalog.empty).value.status = Status.ok ∧
    (toHandler listHandler indentedRequest Catalog.empty).value.headers =
      [(⟨"content-type"⟩, ⟨Utf8.encode "application/json"⟩)] ∧
    (toHandler listHandler indentedRequest Catalog.empty).value.body =
      Utf8.encode ((body (.ok (Reply.ok (.arr [.int 1, .str "a"])))).pretty "\t") ∧
    parse (toHandler listHandler indentedRequest Catalog.empty).value.body =
      .ok (.obj [("data", .arr [.int 1, .str "a"]), ("success", .bool true)]) := by
  have hread : Readable 1 (.ok (Reply.ok (.arr [.int 1, .str "a"]))) := by
    refine ⟨fun v hv => ?_, fun v hv => nomatch hv⟩
    cases hv
    exact .arr fun x hx => by
      simp only [List.mem_cons, List.not_mem_nil, or_false] at hx
      rcases hx with rfl | rfl
      · exact .int 0 (by decide) (by decide)
      · exact .str 0 "a"
  have hget : indentedRequest.headers.get? "indent" = some ⟨Utf8.encode "true"⟩ := by
    rw [Headers.get?_of_parse? HeaderName.parse?_indent]
    rfl
  have hindent : IndentRequested indentedRequest := ⟨"true", by simp [indentValues], _, hget, rfl⟩
  obtain ⟨hstatus, hheaders, hbody, -, hparse⟩ :=
    envelope_response_encodes_outcome listHandler indentedRequest Catalog.empty rfl hread
  rw [if_pos hindent] at hbody
  exact ⟨hread, hindent, hstatus, hheaders, hbody, hparse (by decide)⟩

end Envelope

end HttpRouting
