/-!
# Blank characters

The characters with the Unicode property `White_Space`, and trimming by them. Names, provider
names and timestamps are compared after such a trim, so a no-break space or an ideographic space
counts as blank exactly like an ASCII space or tab.
-/

namespace FlowRegistry.Text

/-- `White_Space`: the ASCII blanks U+0009–U+000D and U+0020, next line, the no-break spaces, the
Ogham mark, the typographic spaces U+2000–U+200A, the line and paragraph separators, and the
ideographic space. -/
def isBlank (c : Char) : Bool :=
  let n := c.toNat
  (0x09 ≤ n && n ≤ 0x0D) || n == 0x20 || n == 0x85 || n == 0xA0 || n == 0x1680 ||
    (0x2000 ≤ n && n ≤ 0x200A) || n == 0x2028 || n == 0x2029 || n == 0x202F ||
    n == 0x205F || n == 0x3000

/-- The characters after the leading blanks. -/
def dropBlank (cs : List Char) : List Char :=
  cs.dropWhile isBlank

/-- The text without its leading blanks. -/
def trimStart (s : String) : String :=
  String.ofList (dropBlank s.toList)

/-- The text without its trailing blanks. -/
def trimEnd (s : String) : String :=
  String.ofList (dropBlank s.toList.reverse).reverse

/-- The text without leading and trailing blanks. -/
def trim (s : String) : String :=
  trimEnd (trimStart s)

theorem dropBlank_head (cs : List Char) (c : Char) (h : (dropBlank cs).head? = some c) :
    isBlank c = false := by
  unfold dropBlank at h
  induction cs with
  | nil => simp at h
  | cons d ds ih =>
    by_cases hd : isBlank d = true
    · simp [List.dropWhile, hd] at h
      exact ih h
    · simp [List.dropWhile, hd] at h
      subst h
      simpa using hd

end FlowRegistry.Text
