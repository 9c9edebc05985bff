import HttpRouting.Proofs.ShapeReading
import HttpRouting.OpenApi.Codec

/-!
# OpenAPI の文書を書いて読み戻す

文書（`Document`）と操作（`Operation`）を JSON の文字列に書き、形に沿って読み戻すと何が返るか。

* 埋め込んだ値（引数の `schema`、応答の `content`）は、`null` そのものなら無い値として読み戻る
  （`settle`）。ほかはすべて元に戻る（`Document.parse_render`、`Operation.read_render`）。
* したがって読み戻した文書が元の文書に等しいのは、埋め込んだ値に `null` がないときに限る。

前提は、値の型が持つ性質である。埋め込んだ値は読み戻せる値（`Json.Plain`: 小数を含まず、整数は
範囲内、object の名前は増える順）で、経路と応答の表は名前の順に並ぶ。入れ子は読み手の深さの上限
128 に収まらなければならない。文書は埋め込んだ値の外に六段、操作は三段を使う。上限を越えた
文書は読み戻せない（`schema_past_depth_limit_unreadable`）。

各型の書き表しは、記録の項目の枠（`Shape.Slot`）の列 `T.slots` として言い表す。書いた object が
`Shape.written`、読んだ正規形が `Shape.filled` で、`T.ofJson` は正規形から値を戻す。
-/

namespace HttpRouting.OpenApi

open Json Json.Shape

/-! ## `null` の読み戻し -/

/-- 省略できる値を書いて読み戻したもの。`null` そのものは無い値になる。 -/
def settle : Option Json → Option Json
  | some .null => none
  | v => v

theorem settle_eq_self_iff (v : Option Json) : settle v = v ↔ v ≠ some .null := by
  cases v with
  | none => simp [settle]
  | some x => cases x <;> simp [settle]

/-- 引数を書いて読み戻したもの。 -/
def Parameter.settled (p : Parameter) : Parameter := { p with schema := settle p.schema }

/-- 応答の説明を書いて読み戻したもの。 -/
def ApiResponse.settled (r : ApiResponse) : ApiResponse := { r with content := settle r.content }

/-- 操作を書いて読み戻したもの。引数と応答の埋め込んだ値だけが変わりうる。 -/
def Operation.settled (o : Operation) : Operation :=
  { o with
    parameters := o.parameters.map Parameter.settled
    responses := o.responses.map fun (k, r) => (k, r.settled) }

/-- 経路の項目を書いて読み戻したもの。 -/
def PathItem.settled (p : PathItem) : PathItem :=
  ⟨p.get.map Operation.settled, p.post.map Operation.settled, p.put.map Operation.settled,
    p.patch.map Operation.settled, p.delete.map Operation.settled⟩

/-- 文書を書いて読み戻したもの。 -/
def Document.settled (d : Document) : Document :=
  { d with paths := d.paths.map fun (k, p) => (k, p.settled) }

/-! ## 項目の枠 -/

/-- 書いた値がそのまま読み戻る枠の中身。 -/
def kept (x : Option Json) : Option (Json × Json) := x.map fun v => (v, v)

/-- 空なら書かない列の枠の中身。 -/
def listed (xs ys : List Json) : Option (Json × Json) :=
  if xs.isEmpty then none else some (.arr xs, .arr ys)

@[simp] theorem map_snd_kept (x : Option Json) : (kept x).map (·.2) = x := by
  cases x <;> rfl

theorem written_kept (field : String × Shape × Bool) (x : Option Json) (slots : List Shape.Slot) :
    written (⟨field, kept x⟩ :: slots) = optField field.1 x ++ written slots := by
  cases x <;> rfl

theorem written_listed (field : String × Shape × Bool) (xs ys : List Json) (slots : List Shape.Slot) :
    written (⟨field, listed xs ys⟩ :: slots) = listField field.1 xs ++ written slots := by
  unfold listed listField
  split <;> rfl

theorem written_map (field : String × Shape × Bool) {α : Type} (x : Option α) (f : α → Json × Json)
    (slots : List Shape.Slot) :
    written (⟨field, x.map f⟩ :: slots) = optField field.1 (x.map fun a => (f a).1) ++ written slots := by
  cases x <;> rfl

@[simp] theorem str?_str (s : String) : (Json.str s).str? = some s := rfl

@[simp] theorem bool?_bool (b : Bool) : (Json.bool b).bool? = some b := rfl

@[simp] theorem arr?_arr (xs : List Json) : (Json.arr xs).arr? = some xs := rfl

@[simp] theorem str?_getD_map_str (x : Option String) : ((x.map Json.str).getD .null).str? = x := by
  cases x <;> rfl

theorem optValueOf_of_get? {j : Json} {k : String} {x : Option Json} (h : j.get? k = some (x.getD .null)) :
    optValueOf j k = settle x := by
  rw [optValueOf, h]
  cases x with
  | none => rfl
  | some v => cases v <;> rfl

theorem ParameterLocation.ofName?_name (l : ParameterLocation) : ofName? l.name = some l := by
  cases l <;> rfl

theorem ParameterLocation.name_mem_names (l : ParameterLocation) : l.name ∈ names := by
  cases l <;> decide

/-- 省略可の文字列の項目は、書いた文字列をそのまま読む。 -/
theorem readsAs_kept_text (x : Option String) (n k : Nat) :
    ∀ p ∈ kept (x.map .str), ReadsAs (.optional .text) p.1 p.2 n (k + 1) := by
  cases x with
  | none => simp [kept]
  | some s =>
    simp only [kept, Option.map_some, Option.mem_def, Option.some.injEq, forall_eq']
    exact (readsAs_text s n k).optional (by simp [compact, encode_quote])

/-- 省略可の任意の値の項目は、読み戻せる値を `null` も含めてそのまま読む。 -/
theorem readsAs_kept_any {x : Option Json} {n : Nat} (hx : ∀ v ∈ x, v.Plain n) (k : Nat) :
    ∀ p ∈ kept x, ReadsAs (.optional .any) p.1 p.2 n (k + 2) := by
  cases x with
  | none => simp [kept]
  | some v =>
    simp only [kept, Option.map_some, Option.mem_def, Option.some.injEq, forall_eq']
    exact readsAs_optional_any (hx v rfl) k

/-- 空なら書かない列の項目は、列として読む。 -/
theorem readsAs_listed {s : Shape} {xs ys : List Json} {n k : Nat}
    (h : ReadsAs (.list s) (.arr xs) (.arr ys) n k) : ∀ p ∈ listed xs ys, ReadsAs (.list s) p.1 p.2 n k := by
  unfold listed
  split
  · simp
  · simpa using h

/-- 空なら書かない列の項目は、空なら既定の空の列として、そうでなければ読んだ列として埋まる。 -/
theorem getD_listed {xs ys : List Json} (h : ys.length = xs.length) :
    ((listed xs ys).map (·.2)).getD (.arr []) = .arr ys := by
  unfold listed
  split
  · rename_i hx
    rw [List.isEmpty_iff.mp hx, List.length_nil, List.length_eq_zero_iff] at h
    simp [h]
  · rfl

/-! ## 説明と分類 -/

/-- 説明の項目の枠。三つとも必須の文字列。 -/
def Info.slots (i : Info) : List Shape.Slot :=
  [⟨("title", .text, true), kept (some (.str i.title))⟩,
    ⟨("description", .text, true), kept (some (.str i.description))⟩,
    ⟨("version", .text, true), kept (some (.str i.version))⟩]

/-- 説明は、書いた項目がそのまま正規形として読める。 -/
theorem Info.readsAs (i : Info) (n k : Nat) :
    ReadsAs Info.shape i.toJson (.obj (filled i.slots)) (n + 1) k :=
  readsAs_record "Info" i.slots (by simp [Info.slots])
    (by simp [Info.slots, kept, readsAs_text]) (by simp [Info.slots, kept])

/-- 正規形からは元の説明が戻る。 -/
theorem Info.ofJson_filled (i : Info) : Info.ofJson (.obj (filled i.slots)) = i := by
  simp [Info.ofJson, Info.slots, textOf, Json.get?, Keyed.find?]

/-- 分類の項目の枠。 -/
def Tag.slots (t : Tag) : List Shape.Slot :=
  [⟨("name", .text, true), kept (some (.str t.name))⟩,
    ⟨("description", .optional .text, false), kept (t.description.map .str)⟩]

theorem Tag.readsAs (t : Tag) (n k : Nat) :
    ReadsAs Tag.shape t.toJson (.obj (filled t.slots)) (n + 1) (k + 1) := by
  have hjson : t.toJson = .obj (written t.slots) := by
    simp [Tag.toJson, Tag.slots, written_kept, optField]
  rw [hjson]
  refine readsAs_record "Tag" t.slots (by simp [Tag.slots]) ?_ (by simp [Tag.slots, kept])
  simp only [Tag.slots, List.forall_mem_cons, List.not_mem_nil, false_imp_iff, implies_true, and_true]
  exact ⟨by simp [kept, readsAs_text], readsAs_kept_text t.description n k⟩

theorem Tag.ofJson_filled (t : Tag) : Tag.ofJson (.obj (filled t.slots)) = t := by
  simp [Tag.ofJson, Tag.slots, textOf, optTextOf, Json.get?, Keyed.find?, Shape.default]

/-! ## 引数と応答 -/

/-- 引数の項目の枠。`required` はいつも書く。 -/
def Parameter.slots (p : Parameter) : List Shape.Slot :=
  [⟨("name", .text, true), kept (some (.str p.name))⟩,
    ⟨("in", ParameterLocation.shape, true), kept (some (.str p.location.name))⟩,
    ⟨("description", .optional .text, false), kept (p.description.map .str)⟩,
    ⟨("required", .flag, false), kept (some (.bool p.required))⟩,
    ⟨("schema", .optional .any, false), kept p.schema⟩]

theorem Parameter.readsAs (p : Parameter) {n : Nat} (hp : ∀ v ∈ p.schema, v.Plain n) (k : Nat) :
    ReadsAs Parameter.shape p.toJson (.obj (filled p.slots)) (n + 1) (k + 2) := by
  have hjson : p.toJson = .obj (written p.slots) := by
    simp [Parameter.toJson, Parameter.slots, written_kept, optField]
  rw [hjson]
  refine readsAs_record "Parameter" p.slots (by simp [Parameter.slots]) ?_
    (by simp [Parameter.slots, kept])
  simp only [Parameter.slots, List.forall_mem_cons, List.not_mem_nil, false_imp_iff, implies_true, and_true]
  refine ⟨by simp [kept, readsAs_text], ?_, readsAs_kept_text p.description n (k + 1),
    by simp [kept, readsAs_flag], readsAs_kept_any hp k⟩
  -- 置き場所は名前の一つとして読む
  simpa [kept, ParameterLocation.shape] using
    readsAs_choice (ParameterLocation.name_mem_names p.location) n (k + 2)

theorem Parameter.ofJson_filled (p : Parameter) : Parameter.ofJson (.obj (filled p.slots)) = p.settled := by
  have hschema : optValueOf (.obj (filled p.slots)) "schema" = settle p.schema :=
    optValueOf_of_get? (by simp [Parameter.slots, Json.get?, Keyed.find?, Shape.default])
  simp only [Parameter.ofJson]
  rw [hschema]
  simp [Parameter.slots, textOf, optTextOf, Json.get?, Keyed.find?, Shape.default,
    ParameterLocation.ofName?_name, Parameter.settled]

/-- 応答の説明の項目の枠。 -/
def ApiResponse.slots (r : ApiResponse) : List Shape.Slot :=
  [⟨("description", .text, true), kept (some (.str r.description))⟩,
    ⟨("content", .optional .any, false), kept r.content⟩]

theorem ApiResponse.readsAs (r : ApiResponse) {n : Nat} (hr : ∀ v ∈ r.content, v.Plain n) (k : Nat) :
    ReadsAs ApiResponse.shape r.toJson (.obj (filled r.slots)) (n + 1) (k + 2) := by
  have hjson : r.toJson = .obj (written r.slots) := by
    simp [ApiResponse.toJson, ApiResponse.slots, written_kept, optField]
  rw [hjson]
  refine readsAs_record "ApiResponse" r.slots (by simp [ApiResponse.slots]) ?_
    (by simp [ApiResponse.slots, kept])
  simp only [ApiResponse.slots, List.forall_mem_cons, List.not_mem_nil, false_imp_iff, implies_true,
    and_true]
  exact ⟨by simp [kept, readsAs_text], readsAs_kept_any hr k⟩

theorem ApiResponse.ofJson_filled (r : ApiResponse) :
    ApiResponse.ofJson (.obj (filled r.slots)) = r.settled := by
  have hcontent : optValueOf (.obj (filled r.slots)) "content" = settle r.content :=
    optValueOf_of_get? (by simp [ApiResponse.slots, Json.get?, Keyed.find?, Shape.default])
  simp only [ApiResponse.ofJson]
  rw [hcontent]
  simp [ApiResponse.slots, textOf, Json.get?, Keyed.find?, ApiResponse.settled]

/-! ## 操作 -/

/-- 操作に埋め込んだ値はどれも深さ `d` までの読み戻せる値で、応答の表は名前の順に並ぶ。 -/
structure Operation.Plain (d : Nat) (o : Operation) : Prop where
  schemas : ∀ p ∈ o.parameters, ∀ v ∈ p.schema, v.Plain d
  contents : ∀ r ∈ o.responses, ∀ v ∈ r.2.content, v.Plain d
  sorted : Keyed.Sorted o.responses

/-- 操作の項目の枠。空の列は書かず、応答の表はいつも書く。 -/
def Operation.slots (o : Operation) : List Shape.Slot :=
  [⟨("tags", .list .text, false), listed (o.tags.map .str) (o.tags.map .str)⟩,
    ⟨("summary", .optional .text, false), kept (o.summary.map .str)⟩,
    ⟨("description", .optional .text, false), kept (o.description.map .str)⟩,
    ⟨("operationId", .optional .text, false), kept (o.operationId.map .str)⟩,
    ⟨("parameters", .list Parameter.shape, false),
      listed (o.parameters.map Parameter.toJson) (o.parameters.map fun p => .obj (filled p.slots))⟩,
    ⟨("responses", .dict ApiResponse.shape, false),
      some (.obj (o.responses.map fun (k, r) => (k, r.toJson)),
        .obj (o.responses.map fun (k, r) => (k, .obj (filled r.slots))))⟩]

theorem Operation.readsAs (o : Operation) {n : Nat} (ho : o.Plain n) (k : Nat) :
    ReadsAs Operation.shape o.toJson (.obj (filled o.slots)) (n + 3) (k + 2) := by
  have hjson : o.toJson = .obj (written o.slots) := by
    simp [Operation.toJson, Operation.slots, written_kept, written_listed, optField]
  have htags : ReadsAs (.list .text) (.arr (o.tags.map .str)) (.arr (o.tags.map .str)) (n + 2) (k + 2) := by
    simpa [Function.comp_def] using readsAs_list (o.tags.map fun t => (Json.str t, Json.str t))
      fun p hp => by
        obtain ⟨t, -, rfl⟩ := List.mem_map.mp hp
        exact readsAs_text t (n + 1) (k + 2)
  have hparams : ReadsAs (.list Parameter.shape) (.arr (o.parameters.map Parameter.toJson))
      (.arr (o.parameters.map fun p => .obj (filled p.slots))) (n + 2) (k + 2) := by
    simpa [Function.comp_def] using readsAs_list (o.parameters.map fun p => (p.toJson, .obj (filled p.slots)))
      fun q hq => by
        obtain ⟨p, hp, rfl⟩ := List.mem_map.mp hq
        exact p.readsAs (ho.schemas p hp) k
  have hresponses : ReadsAs (.dict ApiResponse.shape) (.obj (o.responses.map fun (k, r) => (k, r.toJson)))
      (.obj (o.responses.map fun (k, r) => (k, .obj (filled r.slots)))) (n + 2) (k + 2) := by
    have h := readsAs_dict (o.responses.map fun e => (e.1, e.2.toJson, .obj (filled e.2.slots)))
      (by simpa [Keyed.Sorted, Keyed.keys, Function.comp_def] using ho.sorted)
      fun q hq => by
        obtain ⟨e, he, rfl⟩ := List.mem_map.mp hq
        exact e.2.readsAs (ho.contents e he) k
    simpa [Function.comp_def] using h
  rw [hjson]
  refine readsAs_record "Operation" o.slots (by simp [Operation.slots]) ?_ (by simp [Operation.slots])
  simp only [Operation.slots, List.forall_mem_cons, List.not_mem_nil, false_imp_iff, implies_true, and_true]
  exact ⟨readsAs_listed htags, readsAs_kept_text o.summary (n + 2) (k + 1),
    readsAs_kept_text o.description (n + 2) (k + 1), readsAs_kept_text o.operationId (n + 2) (k + 1),
    readsAs_listed hparams, by simpa using hresponses⟩

theorem Operation.ofJson_filled (o : Operation) : Operation.ofJson (.obj (filled o.slots)) = o.settled := by
  have htags : listOf (.obj (filled o.slots)) "tags" = o.tags.map .str := by
    simp [listOf, Operation.slots, Json.get?, Keyed.find?, Shape.default, getD_listed]
  have hparams : listOf (.obj (filled o.slots)) "parameters" =
      o.parameters.map fun p => .obj (filled p.slots) := by
    simp [listOf, Operation.slots, Json.get?, Keyed.find?, Shape.default, getD_listed]
  have hresponses : entriesOf (.obj (filled o.slots)) "responses" =
      o.responses.map fun (k, r) => (k, .obj (filled r.slots)) := by
    simp [entriesOf, Operation.slots, Json.get?, Keyed.find?]
  simp only [Operation.ofJson]
  rw [htags, hparams, hresponses]
  simp [Operation.settled, Operation.slots, optTextOf, Json.get?, Keyed.find?, Shape.default,
    Function.comp_def, Parameter.ofJson_filled, ApiResponse.ofJson_filled]

/-! ## 経路の項目と文書 -/

/-- 経路の項目の五つの枠（GET、POST、PUT、PATCH、DELETE の順）。 -/
def PathItem.operations (p : PathItem) : List (Option Operation) := [p.get, p.post, p.put, p.patch, p.delete]

/-- 枠の操作を書いた値と読んだ値の組。 -/
def operationEntry (x : Option Operation) : Option (Json × Json) :=
  x.map fun o => (o.toJson, .obj (filled o.slots))

theorem readsAs_operationEntry {x : Option Operation} {n : Nat} (hx : ∀ o ∈ x, o.Plain n) (k : Nat) :
    ∀ p ∈ operationEntry x, ReadsAs (.optional Operation.shape) p.1 p.2 (n + 3) (k + 3) := by
  cases x with
  | none => simp [operationEntry]
  | some o =>
    simp only [operationEntry, Option.map_some, Option.mem_def, Option.some.injEq, forall_eq']
    exact (o.readsAs (hx o rfl) k).optional (by simp [Operation.toJson, encode_compact_obj])

/-- 枠に書いた操作は、`null` でない object として読み戻る。 -/
theorem map_ofJson_optValueOf {j : Json} {key : String} {x : Option Operation}
    (h : j.get? key = some ((x.map fun o => Json.obj (filled o.slots)).getD .null)) :
    (optValueOf j key).map Operation.ofJson = x.map Operation.settled := by
  rw [optValueOf_of_get? h]
  cases x with
  | none => rfl
  | some o => simp [settle, Operation.ofJson_filled]

/-- 経路の項目の枠。五つの枠のどれも省略できる。 -/
def PathItem.slots (p : PathItem) : List Shape.Slot :=
  [⟨("get", .optional Operation.shape, false), operationEntry p.get⟩,
    ⟨("post", .optional Operation.shape, false), operationEntry p.post⟩,
    ⟨("put", .optional Operation.shape, false), operationEntry p.put⟩,
    ⟨("patch", .optional Operation.shape, false), operationEntry p.patch⟩,
    ⟨("delete", .optional Operation.shape, false), operationEntry p.delete⟩]

theorem PathItem.readsAs (p : PathItem) {n : Nat} (hp : ∀ o ∈ p.operations, ∀ x ∈ o, x.Plain n) (k : Nat) :
    ReadsAs PathItem.shape p.toJson (.obj (filled p.slots)) (n + 4) (k + 3) := by
  have hjson : p.toJson = .obj (written p.slots) := by
    simp [PathItem.toJson, PathItem.slots, operationEntry, written_map]
  simp only [PathItem.operations, List.forall_mem_cons, List.not_mem_nil, false_imp_iff, implies_true,
    and_true] at hp
  rw [hjson]
  refine readsAs_record "PathItem" p.slots (by simp [PathItem.slots]) ?_ (by simp [PathItem.slots])
  simp only [PathItem.slots, List.forall_mem_cons, List.not_mem_nil, false_imp_iff, implies_true, and_true]
  exact ⟨readsAs_operationEntry hp.1 k, readsAs_operationEntry hp.2.1 k, readsAs_operationEntry hp.2.2.1 k,
    readsAs_operationEntry hp.2.2.2.1 k, readsAs_operationEntry hp.2.2.2.2 k⟩

theorem PathItem.ofJson_filled (p : PathItem) : PathItem.ofJson (.obj (filled p.slots)) = p.settled := by
  simp only [PathItem.ofJson, PathItem.settled, PathItem.mk.injEq]
  refine ⟨map_ofJson_optValueOf ?_, map_ofJson_optValueOf ?_, map_ofJson_optValueOf ?_,
    map_ofJson_optValueOf ?_, map_ofJson_optValueOf ?_⟩ <;>
    simp [PathItem.slots, operationEntry, Json.get?, Keyed.find?, Shape.default, Function.comp_def]

/-- 文書に埋め込んだ値はどれも深さ `d` までの読み戻せる値で、経路と応答の表は名前の順に並ぶ。 -/
structure Document.Plain (d : Nat) (doc : Document) : Prop where
  operations : ∀ p ∈ doc.paths, ∀ o ∈ p.2.operations, ∀ x ∈ o, x.Plain d
  sorted : Keyed.Sorted doc.paths

/-- 文書の項目の枠。空の分類の列は書かず、経路の表はいつも書く。 -/
def Document.slots (d : Document) : List Shape.Slot :=
  [⟨("openapi", .text, true), kept (some (.str d.openapi))⟩,
    ⟨("info", Info.shape, true), some (d.info.toJson, .obj (filled d.info.slots))⟩,
    ⟨("tags", .list Tag.shape, false),
      listed (d.tags.map Tag.toJson) (d.tags.map fun t => .obj (filled t.slots))⟩,
    ⟨("paths", .dict PathItem.shape, false),
      some (.obj (d.paths.map fun (k, p) => (k, p.toJson)),
        .obj (d.paths.map fun (k, p) => (k, .obj (filled p.slots))))⟩]

theorem Document.readsAs (d : Document) {n : Nat} (hd : d.Plain n) (k : Nat) :
    ReadsAs Document.shape d.toJson (.obj (filled d.slots)) (n + 6) (k + 3) := by
  have hjson : d.toJson = .obj (written d.slots) := by
    simp [Document.toJson, Document.slots, written_kept, written_listed, optField]
  have htags : ReadsAs (.list Tag.shape) (.arr (d.tags.map Tag.toJson))
      (.arr (d.tags.map fun t => .obj (filled t.slots))) (n + 5) (k + 3) := by
    simpa [Function.comp_def] using readsAs_list (d.tags.map fun t => (t.toJson, .obj (filled t.slots)))
      fun q hq => by
        obtain ⟨t, -, rfl⟩ := List.mem_map.mp hq
        exact t.readsAs (n + 3) (k + 2)
  have hpaths : ReadsAs (.dict PathItem.shape) (.obj (d.paths.map fun (k, p) => (k, p.toJson)))
      (.obj (d.paths.map fun (k, p) => (k, .obj (filled p.slots)))) (n + 5) (k + 3) := by
    have h := readsAs_dict (d.paths.map fun e => (e.1, e.2.toJson, .obj (filled e.2.slots)))
      (by simpa [Keyed.Sorted, Keyed.keys, Function.comp_def] using hd.sorted)
      fun q hq => by
        obtain ⟨e, he, rfl⟩ := List.mem_map.mp hq
        exact e.2.readsAs (hd.operations e he) k
    simpa [Function.comp_def] using h
  rw [hjson]
  refine readsAs_record "Document" d.slots (by simp [Document.slots]) ?_ (by simp [Document.slots, kept])
  simp only [Document.slots, List.forall_mem_cons, List.not_mem_nil, false_imp_iff, implies_true, and_true]
  exact ⟨by simp [kept, readsAs_text], by simpa using d.info.readsAs (n + 4) (k + 3), readsAs_listed htags,
    by simpa using hpaths⟩

theorem Document.ofJson_filled (d : Document) : Document.ofJson (.obj (filled d.slots)) = d.settled := by
  have hinfo : (Json.obj (filled d.slots)).get? "info" = some (.obj (filled d.info.slots)) := by
    simp [Document.slots, Json.get?, Keyed.find?]
  have htags : listOf (.obj (filled d.slots)) "tags" = d.tags.map fun t => .obj (filled t.slots) := by
    simp [listOf, Document.slots, Json.get?, Keyed.find?, Shape.default, getD_listed]
  have hpaths : entriesOf (.obj (filled d.slots)) "paths" =
      d.paths.map fun (k, p) => (k, .obj (filled p.slots)) := by
    simp [entriesOf, Document.slots, Json.get?, Keyed.find?]
  simp only [Document.ofJson]
  rw [hinfo, htags, hpaths]
  simp [Document.settled, Document.slots, textOf, Json.get?, Keyed.find?, Function.comp_def,
    Info.ofJson_filled, Tag.ofJson_filled, PathItem.ofJson_filled]

/-! ## `null` のない値 -/

/-- 操作に埋め込んだ値に `null` そのものがない。 -/
structure Operation.NullFree (o : Operation) : Prop where
  schemas : ∀ p ∈ o.parameters, p.schema ≠ some .null
  contents : ∀ r ∈ o.responses, r.2.content ≠ some .null

/-- 文書に埋め込んだ値に `null` そのものがない。 -/
def Document.NullFree (d : Document) : Prop := ∀ p ∈ d.paths, ∀ o ∈ p.2.operations, ∀ x ∈ o, x.NullFree

theorem Parameter.settled_eq_self_iff (p : Parameter) : p.settled = p ↔ p.schema ≠ some .null := by
  rw [← settle_eq_self_iff]
  cases p
  simp [Parameter.settled]

theorem ApiResponse.settled_eq_self_iff (r : ApiResponse) : r.settled = r ↔ r.content ≠ some .null := by
  rw [← settle_eq_self_iff]
  cases r
  simp [ApiResponse.settled]

theorem list_map_eq_self_iff {α : Type} (f : α → α) (l : List α) : l.map f = l ↔ ∀ a ∈ l, f a = a := by
  simpa using List.map_eq_map_iff (f := f) (g := id) (l := l)

theorem option_map_eq_self_iff {α : Type} (f : α → α) (x : Option α) : x.map f = x ↔ ∀ a ∈ x, f a = a := by
  cases x <;> simp

theorem Operation.settled_eq_self_iff (o : Operation) : o.settled = o ↔ o.NullFree := by
  obtain ⟨tags, summary, description, operationId, parameters, responses⟩ := o
  simp only [Operation.settled, Operation.mk.injEq, true_and, list_map_eq_self_iff, Prod.forall,
    Prod.mk.injEq, Parameter.settled_eq_self_iff, ApiResponse.settled_eq_self_iff]
  exact ⟨fun h => ⟨h.1, fun r hr => h.2 r.1 r.2 hr⟩, fun h => ⟨h.schemas, fun k r hr => h.contents (k, r) hr⟩⟩

theorem PathItem.settled_eq_self_iff (p : PathItem) :
    p.settled = p ↔ ∀ o ∈ p.operations, ∀ x ∈ o, x.settled = x := by
  obtain ⟨get, post, put, patch, delete⟩ := p
  simp only [PathItem.settled, PathItem.mk.injEq, PathItem.operations, List.forall_mem_cons,
    List.not_mem_nil, false_imp_iff, implies_true, and_true, option_map_eq_self_iff]

theorem Document.settled_eq_self_iff (d : Document) : d.settled = d ↔ d.NullFree := by
  obtain ⟨openapi, info, tags, paths⟩ := d
  simp only [Document.settled, Document.mk.injEq, true_and, list_map_eq_self_iff, Prod.forall,
    Prod.mk.injEq, PathItem.settled_eq_self_iff, Operation.settled_eq_self_iff, Document.NullFree]

/-! ## 書いて読み戻す -/

/-- object の書き表しは、少なくとも括弧の二 byte。 -/
theorem two_le_length_encode_obj (fs : List (String × Json)) :
    2 ≤ (Utf8.encode (Json.obj fs).compact).length := by
  simp [encode_compact_obj]

/-- **文書を書いて読み戻すと、埋め込んだ `null` が無い値になるほかは元に戻る。** 埋め込んだ値の
入れ子は深さ 121 まで。 -/
theorem Document.parse_render (d : Document) (hd : d.Plain 121) :
    Document.parse d.render = .ok d.settled := by
  have hlen : 2 ≤ (Utf8.encode d.toJson.compact).length := two_le_length_encode_obj _
  have hread : Document.shape.read (Utf8.encode d.toJson.compact) = .ok (.obj (filled d.slots)) :=
    read_of_readsAs (d.readsAs hd 0) (by decide) (by omega)
  rw [Document.parse, Document.render, readString, hread, ← Document.ofJson_filled]
  rfl

/-- **操作を書いて読み戻すと、埋め込んだ `null` が無い値になるほかは元に戻る。** 埋め込んだ値の
入れ子は深さ 124 まで。 -/
theorem Operation.read_render (o : Operation) (ho : o.Plain 124) :
    (Operation.shape.readString o.toJson.compact).map Operation.ofJson = .ok o.settled := by
  have hlen : 2 ≤ (Utf8.encode o.toJson.compact).length := two_le_length_encode_obj _
  have hread : Operation.shape.read (Utf8.encode o.toJson.compact) = .ok (.obj (filled o.slots)) :=
    read_of_readsAs (o.readsAs ho 0) (by decide) (by omega)
  rw [readString, hread, ← Operation.ofJson_filled]
  rfl

/-- **書いて読み戻した文書や操作が元に等しいのは、埋め込んだ値に `null` がないときに限る。**
埋め込んだ値は読み戻せる値で、入れ子は文書で深さ 121、操作で 124 まで。 -/
theorem round_trip_iff_null_free :
    (∀ d : Document, d.Plain 121 → (Document.parse d.render = .ok d ↔ d.NullFree)) ∧
    (∀ o : Operation, o.Plain 124 →
      ((Operation.shape.readString o.toJson.compact).map Operation.ofJson = .ok o ↔ o.NullFree)) := by
  constructor
  · intro d hd
    rw [Document.parse_render d hd, Except.ok.injEq, ← Document.settled_eq_self_iff]
  · intro o ho
    rw [Operation.read_render o ho, Except.ok.injEq, ← Operation.settled_eq_self_iff]

/-- 整数の schema。 -/
def integerSchema : Json := .obj [("type", .str "integer")]

theorem integerSchema_plain (d : Nat) : integerSchema.Plain (d + 1) :=
  .obj (by simp [Keyed.Sorted, Keyed.keys]) (by
    simp only [List.mem_singleton]
    rintro _ rfl
    exact .str d "integer")

/-- query の引数 `limit` を一つ取り、200 を返す操作。 -/
def listOperation (schema : Option Json) : Operation :=
  { parameters := [{ name := "limit", location := .query, schema }]
    responses := [("200", { description := "ok" })] }

theorem listOperation_plain {schema : Option Json} {d : Nat} (h : ∀ v ∈ schema, v.Plain d) :
    (listOperation schema).Plain d where
  schemas := by simpa [listOperation] using h
  contents := by simp [listOperation]
  sorted := by simp [listOperation, Keyed.Sorted, Keyed.keys]

theorem listOperation_nullFree {schema : Option Json} (h : schema ≠ some .null) :
    (listOperation schema).NullFree where
  schemas := by simpa [listOperation] using h
  contents := by simp [listOperation]

/-- 経路 `/items` の GET に `listOperation` を置いた文書。 -/
def itemsDocument (schema : Option Json) : Document :=
  { openapi := version
    info := ⟨"svc", "test service", "0.0.1"⟩
    paths := [("/items", { get := some (listOperation schema) })] }

theorem itemsDocument_plain {schema : Option Json} {d : Nat} (h : ∀ v ∈ schema, v.Plain d) :
    (itemsDocument schema).Plain d where
  operations := by simpa [itemsDocument, PathItem.operations] using listOperation_plain h
  sorted := by simp [itemsDocument, Keyed.Sorted, Keyed.keys]

theorem integer_limit_round_trips :
    Document.parse (itemsDocument (some integerSchema)).render = .ok (itemsDocument (some integerSchema)) ∧
      (Operation.shape.readString (listOperation (some integerSchema)).toJson.compact).map Operation.ofJson =
        .ok (listOperation (some integerSchema)) := by
  have hplain : ∀ d, ∀ v ∈ some integerSchema, v.Plain (d + 1) := by
    simpa using integerSchema_plain
  have hnull : some integerSchema ≠ some .null := by simp [integerSchema]
  exact ⟨(round_trip_iff_null_free.1 _ (itemsDocument_plain (hplain 120))).mpr
      (by simpa [Document.NullFree, itemsDocument, PathItem.operations] using listOperation_nullFree hnull),
    (round_trip_iff_null_free.2 _ (listOperation_plain (hplain 123))).mpr (listOperation_nullFree hnull)⟩

/-- **`null` の schema を書いた文書は、読み戻すと schema のない文書になる。** -/
theorem null_schema_reads_back_absent :
    Document.parse (itemsDocument (some .null)).render = .ok (itemsDocument none) ∧
      itemsDocument (some .null) ≠ itemsDocument none := by
  constructor
  · rw [Document.parse_render _ (itemsDocument_plain (by simpa using Json.Plain.null 121))]
    rfl
  · simp [itemsDocument, listOperation]

/-- 配列を `n + 1` 段入れ子にした値。 -/
def nestedArray : Nat → Json
  | 0 => .arr []
  | n + 1 => .arr [nestedArray n]

theorem nestedArray_plain (n : Nat) : (nestedArray n).Plain (n + 1) := by
  induction n with
  | zero => exact .arr fun _ h => nomatch h
  | succ n ih =>
    refine .arr fun x hx => ?_
    rw [List.mem_singleton.mp hx]
    exact ih

/-- **読み手の入れ子の上限を越えた schema の文書は読み戻せない。** 文書の中で schema は六段の
入れ子の下にあり、読み手は 128 段目の入れ子を拒む。schema の入れ子が 121 段なら読み戻せるが、
122 段なら読めない。 -/
theorem schema_past_depth_limit_unreadable :
    Document.parse (itemsDocument (some (nestedArray 120))).render =
        .ok (itemsDocument (some (nestedArray 120))) ∧
      (Document.parse (itemsDocument (some (nestedArray 121))).render).toOption = none := by
  constructor
  · rw [Document.parse_render _ (itemsDocument_plain (by simpa using nestedArray_plain 120))]
    rfl
  · -- 読み手が深さの上限で止まることを一般に言う補題はないので、この入力で読み手を走らせる
    decide +kernel

end HttpRouting.OpenApi
