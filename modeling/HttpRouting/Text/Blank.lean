/-!
# 空白の文字

Unicode の `White_Space` の性質を持つ文字を空白とする。ASCII では tab、改行、垂直 tab、
改ページ、復帰と空白であり、ほかに U+0085、U+00A0、U+1680、U+2000〜U+200A、U+2028、U+2029、
U+202F、U+205F、U+3000 がある。U+200B（幅のない空白）は空白ではない。

`trimBlank` は両端の空白を取り除く。
-/

namespace HttpRouting

/-- `White_Space` の文字。 -/
def isBlank (c : Char) : Bool :=
  let n := c.toNat
  (0x09 ≤ n && n ≤ 0x0D) || n == 0x20 || n == 0x85 || n == 0xA0 || n == 0x1680 ||
    (0x2000 ≤ n && n ≤ 0x200A) || n == 0x2028 || n == 0x2029 || n == 0x202F || n == 0x205F ||
    n == 0x3000

/-- 両端の空白を取り除く。 -/
def trimBlank (s : String) : String :=
  String.ofList ((s.toList.dropWhile isBlank).reverse.dropWhile isBlank).reverse

/-- core の空白はすべて空白である。 -/
theorem isBlank_of_isWhitespace (c : Char) (h : c.isWhitespace = true) : isBlank c = true := by
  simp only [Char.isWhitespace, Bool.or_eq_true, decide_eq_true_eq] at h
  simp only [isBlank, Bool.or_eq_true, Bool.and_eq_true, decide_eq_true_eq, beq_iff_eq]
  rcases h with ((h | h) | h) | h <;> subst h <;> decide

end HttpRouting
