import HttpRouting.Http.Response

/-!
# 応答の header を書いて読み戻す

組み立ての `Response.Builder.header` は、名前と値が使えるときだけ組を後ろに足す
（`Response.Builder.headers_header`）。名前で引くと最初の組の値が返るので、足した後に引いた値は、
前からある組の値か、それが無ければ足した組の値である（`Response.Builder.get?_header`）。引く名前の
組がすでにあれば後から何を足しても変わらず、違う名前の組を足しても変わらない。

## 見える ASCII の値

文字がすべて見える ASCII（32 以上 126 以下）の文字列は、UTF-8 の byte がそのまま文字の番号に
なる（`Utf8.encode_of_ascii`）。そうした byte はどれも header の値に使え、文字列としても読めるので、
`Response.header?` で書いた文字列がそのまま読み戻せる（`HeaderValue.text?_of_visible`）。
-/

namespace HttpRouting

/-! ## ASCII の文字列と UTF-8 -/

/-- ASCII だけの文字の列の UTF-8 の byte の列。 -/
def asciiBytes (l : List Char) : List UInt8 := l.map fun c => UInt8.ofNat c.toNat

/-- 文字がすべて見える ASCII である。 -/
def VisibleAscii (s : String) : Prop := ∀ c ∈ s.toList, 32 ≤ c.toNat ∧ c.toNat < 127

/-- 0x80 未満の番号の文字の番号は、その数。 -/
theorem toNat_ofNat_of_ascii {n : Nat} (h : n < 0x80) : (Char.ofNat n).toNat = n := by
  rw [Char.ofNat, dif_pos (Or.inl (by omega))]
  rfl

theorem utf8EncodeChar_ascii {c : Char} (h : c.toNat < 0x80) :
    String.utf8EncodeChar c = [UInt8.ofNat c.toNat] := by
  have hv : c.toNat ≤ 127 := by omega
  simp [String.utf8EncodeChar, hv]

theorem flatMap_utf8EncodeChar_ascii (l : List Char) (h : ∀ c ∈ l, c.toNat < 0x80) :
    l.flatMap String.utf8EncodeChar = asciiBytes l := by
  induction l with
  | nil => rfl
  | cons c cs ih =>
    rw [List.flatMap_cons, utf8EncodeChar_ascii (h c List.mem_cons_self),
      ih fun x hx => h x (List.mem_cons_of_mem _ hx)]
    rfl

/-- 見える ASCII の byte は header の値に使え、文字列としても読める。 -/
theorem isValueByte_of_visible {b : UInt8} (h₁ : 32 ≤ b.toNat) (h₂ : b.toNat < 127) :
    isValueByte b = true ∧ isVisibleByte b = true := by
  have hne : b ≠ 127 := fun h => by subst h; simp at h₂
  constructor
  · simp [isValueByte, UInt8.le_iff_toNat_le, hne]
    omega
  · simp [isVisibleByte, UInt8.le_iff_toNat_le, UInt8.lt_iff_toNat_lt]
    omega

namespace Utf8

theorem encode_of_ascii {s : String} (h : ∀ c ∈ s.toList, c.toNat < 0x80) :
    encode s = asciiBytes s.toList :=
  flatMap_utf8EncodeChar_ascii s.toList h

/-- ASCII の byte は一つで一文字として読まれる。 -/
theorem decodeLossy_go_asciiBytes (l : List Char) (h : ∀ c ∈ l, c.toNat < 0x80) :
    decodeLossy.go none (asciiBytes l) = l := by
  induction l with
  | nil => simp [asciiBytes, decodeLossy.go]
  | cons c cs ih =>
    have hc := h c List.mem_cons_self
    -- byte の値は文字の番号そのもの
    have hb : (UInt8.ofNat c.toNat).toNat = c.toNat := by simp; omega
    have hlead : lead (UInt8.ofNat c.toNat).toNat = .single c := by
      rw [hb, lead, if_pos (by omega), Char.ofNat_toNat]
    simp only [asciiBytes, List.map_cons] at ih ⊢
    rw [decodeLossy.go, hlead, ih fun x hx => h x (List.mem_cons_of_mem _ hx)]

theorem decodeLossy_encode_of_ascii {s : String} (h : ∀ c ∈ s.toList, c.toNat < 0x80) :
    decodeLossy (encode s) = s := by
  rw [decodeLossy, encode_of_ascii h, decodeLossy_go_asciiBytes _ h, String.ofList_toList]

end Utf8

/-- 見える ASCII の byte と tab は、値に使える。 -/
theorem isValueByte_of_isVisibleByte {b : UInt8} (h : isVisibleByte b = true) : isValueByte b = true := by
  simp only [isVisibleByte, isValueByte, Bool.or_eq_true, Bool.and_eq_true, decide_eq_true_eq,
    bne_iff_ne, ne_eq] at h ⊢
  rcases h with ⟨h₁, h₂⟩ | h
  · exact .inl ⟨h₁, fun e => by subst e; exact absurd h₂ (by decide)⟩
  · exact .inr h

/-- 見える ASCII（と tab）の byte の列は、読んでから UTF-8 にすると元に戻り、空の文字列になるのは
空の列だけ。 -/
theorem encode_decodeLossy_of_visible {bs : List UInt8} (h : bs.all isVisibleByte = true) :
    Utf8.encode (Utf8.decodeLossy bs) = bs ∧ (Utf8.decodeLossy bs = "" ↔ bs = []) := by
  -- byte をそのまま文字の番号にした列を経由する
  have hascii : ∀ b ∈ bs, b.toNat < 0x80 := by
    intro b hb
    have := List.all_eq_true.mp h b hb
    simp only [isVisibleByte, Bool.or_eq_true, Bool.and_eq_true, decide_eq_true_eq, beq_iff_eq] at this
    rcases this with ⟨-, hlt⟩ | rfl
    · exact Nat.lt_trans (UInt8.lt_iff_toNat_lt.mp hlt) (by decide)
    · decide
  have hchars : ∀ c ∈ bs.map (fun b => Char.ofNat b.toNat), c.toNat < 0x80 := by
    intro c hc
    obtain ⟨b, hb, rfl⟩ := List.mem_map.mp hc
    rw [toNat_ofNat_of_ascii (hascii b hb)]
    exact hascii b hb
  have hbytes : asciiBytes (bs.map fun b => Char.ofNat b.toNat) = bs := by
    rw [asciiBytes, List.map_map]
    refine (List.map_congr_left fun b hb => ?_).trans (List.map_id bs)
    rw [Function.comp_apply, toNat_ofNat_of_ascii (hascii b hb), UInt8.ofNat_toNat, id]
  have hdecode : Utf8.decodeLossy bs = String.ofList (bs.map fun b => Char.ofNat b.toNat) := by
    rw [Utf8.decodeLossy, ← hbytes, Utf8.decodeLossy_go_asciiBytes _ hchars, hbytes]
  refine ⟨?_, ?_⟩
  · rw [hdecode, Utf8.encode_of_ascii (by simpa using hchars), String.toList_ofList, hbytes]
  · rw [hdecode, ← String.toList_inj, String.toList_ofList]
    simp

namespace HeaderValue

variable {s : String}

/-- 見える ASCII の文字列の UTF-8 の byte は、どれも見える ASCII の byte である。 -/
theorem visible_encode (h : VisibleAscii s) :
    ∀ b ∈ Utf8.encode s, isValueByte b = true ∧ isVisibleByte b = true := by
  rw [Utf8.encode_of_ascii fun c hc => by have := h c hc; omega]
  intro b hb
  obtain ⟨c, hc, rfl⟩ := List.mem_map.mp hb
  have := h c hc
  have hb : (UInt8.ofNat c.toNat).toNat = c.toNat := by simp; omega
  exact isValueByte_of_visible (by omega) (by omega)

theorem parse?_of_visible (h : VisibleAscii s) : parse? s = some ⟨Utf8.encode s⟩ := by
  simp [parse?, ofBytes?, List.all_eq_true.mpr fun b hb => (visible_encode h b hb).1]

theorem text?_of_visible (h : VisibleAscii s) : text? ⟨Utf8.encode s⟩ = some s := by
  have hascii : ∀ c ∈ s.toList, c.toNat < 0x80 := fun c hc => by have := h c hc; omega
  simp [text?, List.all_eq_true.mpr fun b hb => (visible_encode h b hb).2,
    Utf8.decodeLossy_encode_of_ascii hascii]

end HeaderValue

/-! ## 名前で引く -/

/-- 小文字の token で長すぎない名前は、そのまま header の名前になる。 -/
theorem HeaderName.parse?_of_lower {s : String} (ht : isToken s = true) (hs : s.utf8ByteSize < 65536)
    (hl : s.toList.map Char.toLower = s.toList) : HeaderName.parse? s = some ⟨s⟩ := by
  have hlower : lowerAscii s = s := by rw [← String.toList_inj, lowerAscii, String.toList_map, hl]
  simp [HeaderName.parse?, ht, hs, hlower]

namespace Headers

variable {hs : Headers} {name : String} {n : HeaderName} {v : HeaderValue}

@[simp] theorem get?_nil (name : String) : Headers.get? [] name = none := by
  unfold get?
  split <;> rfl

theorem get?_of_parse? (hn : HeaderName.parse? name = some n) :
    hs.get? name = (hs.find? (·.1 == n)).map (·.2) := by
  simp [get?, hn]

end Headers

namespace Response.Builder

variable {b : Builder} {name name' value : String} {n : HeaderName} {v : HeaderValue}

/-- 足した後の header の並び。名前と値が使えるときだけ組が一つ増える。 -/
theorem headers_header (b : Builder) (name value : String) :
    (b.header name value).headers =
      b.headers ++ ((HeaderName.parse? name).bind fun n =>
        (HeaderValue.parse? value).map fun v => (n, v)).toList := by
  unfold header
  cases HeaderName.parse? name <;> cases HeaderValue.parse? value <;> simp [Headers.append]

@[simp] theorem headers_withStatus (b : Builder) (s : Status) : (b.withStatus s).headers = b.headers :=
  rfl

/-- 足した後に名前で引いた値。前からある組が先に引かれ、無ければ足した組（名前が同じで、値が
使えるとき）。 -/
theorem get?_header (b : Builder) (name' value name : String) :
    (b.header name' value).headers.get? name =
      (b.headers.get? name).or
        (if (HeaderName.parse? name).isSome ∧ HeaderName.parse? name' = HeaderName.parse? name then
          HeaderValue.parse? value else none) := by
  cases hn : HeaderName.parse? name with
  | none => simp [Headers.get?, hn]
  | some n =>
    rw [headers_header, Headers.get?_of_parse? hn, Headers.get?_of_parse? hn, List.find?_append]
    cases HeaderName.parse? name' <;> cases HeaderValue.parse? value <;>
      cases b.headers.find? (·.1 == n) <;> simp

end Response.Builder

@[simp] theorem Response.header?_noBody (b : Response.Builder) (name : String) :
    b.noBody.header? name = (b.headers.get? name).bind HeaderValue.text? := rfl

end HttpRouting
