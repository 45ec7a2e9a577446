/-!
# Pieces of a text

Cutting a text at a character and joining pieces again.

Main definitions:

* `pieces`: the parts between the separators, one more than there are separators;
* `cut?`: the parts before and after the first character of a class;
* `cutLast?`: the parts before and after the last occurrence of a character;
* `joined`: pieces with a text between neighbours.

`pieces` has at least one member (`pieces_ne_nil`), no separator is left in one (`mem_pieces`), and
a separator divides the pieces of what stands before it from those of what follows
(`pieces_append_cons`). `cut?` loses only the character it cuts at (`cut?_eq`).
-/

namespace StorageReply.Text

/-- The parts of a text between the occurrences of a separator. -/
def pieces (sep : Char) : List Char → List (List Char)
  | [] => [[]]
  | c :: rest =>
    if c = sep then [] :: pieces sep rest
    else match pieces sep rest with
      | [] => [[c]]
      | first :: others => (c :: first) :: others

/-- The parts before and after the first character of a class, with that character. -/
def cut? (p : Char → Bool) : List Char → Option (List Char × Char × List Char)
  | [] => none
  | c :: rest =>
    if p c then some ([], c, rest)
    else (cut? p rest).map fun (before, mark, after) => (c :: before, mark, after)

/-- The parts before and after the last occurrence of a character. -/
def cutLast? (mark : Char) (s : List Char) : Option (List Char × List Char) :=
  (cut? (· == mark) s.reverse).map fun (after, _, before) => (before.reverse, after.reverse)

/-- The part after the last occurrence of a character, or the whole text without one. -/
def afterLast (mark : Char) (s : List Char) : List Char :=
  ((cutLast? mark s).map Prod.snd).getD s

/-- Pieces with a text between neighbours. -/
def joined (between : List Char) : List (List Char) → List Char
  | [] => []
  | [piece] => piece
  | piece :: rest => piece ++ between ++ joined between rest

/-- Strings with a text between neighbours. -/
def joinedStrings (between : String) (parts : List String) : String :=
  String.ofList (joined between.toList (parts.map String.toList))

/-- Whether a text begins with another. -/
def beginsWith : List Char → List Char → Bool
  | _, [] => true
  | [], _ :: _ => false
  | c :: s, d :: t => c == d && beginsWith s t

/-- The text after a beginning, if it begins so. -/
def after? : List Char → List Char → Option (List Char)
  | s, [] => some s
  | [], _ :: _ => none
  | c :: s, d :: t => if c = d then after? s t else none

/-- Whether a text ends with another. -/
def endsWith (s t : List Char) : Bool := beginsWith s.reverse t.reverse

/-- Whether a text holds another as a part. -/
def contains (s part : List Char) : Bool :=
  match s with
  | [] => part.isEmpty
  | c :: rest => beginsWith (c :: rest) part || contains rest part

theorem beginsWith_iff {s start : List Char} : beginsWith s start = true ↔ ∃ t, s = start ++ t := by
  fun_induction beginsWith s start with
  | case1 s => simp
  | case2 d t => simp
  | case3 c s d t ih => simp [ih]

theorem pieces_ne_nil (sep : Char) (s : List Char) : pieces sep s ≠ [] := by
  cases s with
  | nil => simp [pieces]
  | cons c rest =>
    simp only [pieces]
    split
    · simp
    · split <;> simp

/-- No piece holds the separator. -/
theorem mem_pieces {sep : Char} {s piece : List Char} (h : piece ∈ pieces sep s) : sep ∉ piece := by
  induction s generalizing piece with
  | nil => simp_all [pieces]
  | cons c rest ih =>
    simp only [pieces] at h
    split at h
    · rcases List.mem_cons.1 h with rfl | h
      · simp
      · exact ih h
    · rename_i hc
      cases hp : pieces sep rest with
      | nil => exact absurd hp (pieces_ne_nil sep rest)
      | cons first others =>
        rw [hp] at h ih
        rcases List.mem_cons.1 h with rfl | h
        · simpa [Ne.symm hc] using ih (List.mem_cons_self ..)
        · exact ih (List.mem_cons_of_mem _ h)

/-- A separator divides the pieces before it from those after it. -/
theorem pieces_append_cons (sep : Char) (s t : List Char) :
    pieces sep (s ++ sep :: t) = pieces sep s ++ pieces sep t := by
  induction s with
  | nil => simp [pieces]
  | cons c rest ih =>
    by_cases hc : c = sep
    · simp [pieces, hc, ih]
    · cases hp : pieces sep rest with
      | nil => exact absurd hp (pieces_ne_nil sep rest)
      | cons first others => simp [pieces, hc, ih, hp]

theorem cut?_eq {p : Char → Bool} {s before after : List Char} {mark : Char}
    (h : cut? p s = some (before, mark, after)) :
    s = before ++ mark :: after ∧ p mark = true ∧ ∀ c ∈ before, p c = false := by
  induction s generalizing before with
  | nil => simp [cut?] at h
  | cons c rest ih =>
    simp only [cut?] at h
    split at h
    · rename_i hc
      simp only [Option.some.injEq, Prod.mk.injEq] at h
      obtain ⟨rfl, rfl, rfl⟩ := h
      exact ⟨rfl, hc, by simp⟩
    · rename_i hc
      obtain ⟨⟨b, m, a⟩, hr, he⟩ := Option.map_eq_some_iff.1 h
      simp only [Prod.mk.injEq] at he
      obtain ⟨rfl, rfl, rfl⟩ := he
      obtain ⟨rfl, hm, hb⟩ := ih hr
      exact ⟨rfl, hm, by simpa using ⟨by simpa using hc, hb⟩⟩

end StorageReply.Text
