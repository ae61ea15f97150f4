/-! # Blank characters

The characters of the Unicode property `White_Space`, and texts without them at either end.
-/

namespace MockHttp.Text

def isBlank (c : Char) : Bool :=
  let n := c.toNat
  (9 ≤ n && n ≤ 13) || n == 0x20 || n == 0x85 || n == 0xA0 || n == 0x1680 ||
    (0x2000 ≤ n && n ≤ 0x200A) || n == 0x2028 || n == 0x2029 || n == 0x202F ||
    n == 0x205F || n == 0x3000

def dropEndWhile (p : Char → Bool) (cs : List Char) : List Char :=
  (cs.reverse.dropWhile p).reverse

def trimmed (cs : List Char) : List Char := dropEndWhile isBlank (cs.dropWhile isBlank)

theorem dropWhile_isBlank {cs : List Char} (h : ∀ c ∈ cs, isBlank c = false) :
    cs.dropWhile isBlank = cs := by
  cases cs with
  | nil => rfl
  | cons c cs =>
    rw [List.dropWhile_cons_of_neg]
    simp [h c List.mem_cons_self]

theorem trimmed_append {l cs r : List Char} (hl : ∀ c ∈ l, isBlank c = true)
    (h : ∀ c ∈ cs, isBlank c = false) (hr : ∀ c ∈ r, isBlank c = true) :
    trimmed (l ++ cs ++ r) = cs := by
  have hreverse : ∀ c ∈ r.reverse, isBlank c = true := fun c hc => hr c (List.mem_reverse.mp hc)
  rw [trimmed, List.append_assoc, List.dropWhile_append_of_pos hl]
  cases cs with
  | nil =>
    have hnil : (r ++ []).dropWhile isBlank = [] := List.dropWhile_append_of_pos hr
    rw [List.append_nil] at hnil
    rw [List.nil_append, hnil]
    rfl
  | cons c cs =>
    have hc : ¬ isBlank c = true := by simp [h c List.mem_cons_self]
    have hcs : ∀ d ∈ (c :: cs).reverse, isBlank d = false := fun d hd =>
      h d (List.mem_reverse.mp hd)
    rw [List.cons_append, List.dropWhile_cons_of_neg hc, ← List.cons_append, dropEndWhile,
      List.reverse_append, List.dropWhile_append_of_pos hreverse, dropWhile_isBlank hcs,
      List.reverse_reverse]

theorem trimmed_eq_self {cs : List Char} (h : ∀ c ∈ cs, isBlank c = false) :
    trimmed cs = cs := by
  have hcs : trimmed ([] ++ cs ++ []) = cs := trimmed_append (by simp) h (by simp)
  simpa using hcs

/-- Trimming takes nothing but blanks away. -/
theorem exists_trimmed (cs : List Char) : ∃ l r, cs = l ++ trimmed cs ++ r ∧
    (∀ c ∈ l, isBlank c = true) ∧ ∀ c ∈ r, isBlank c = true := by
  have hwhile : ∀ ds : List Char, ∀ c ∈ ds.takeWhile isBlank, isBlank c = true := fun _ =>
    List.all_eq_true.mp List.all_takeWhile
  refine ⟨cs.takeWhile isBlank, ((cs.dropWhile isBlank).reverse.takeWhile isBlank).reverse, ?_,
    hwhile cs, fun c hc => hwhile _ c (List.mem_reverse.mp hc)⟩
  rw [trimmed, dropEndWhile, List.append_assoc, ← List.reverse_append,
    List.takeWhile_append_dropWhile, List.reverse_reverse, List.takeWhile_append_dropWhile]

end MockHttp.Text
