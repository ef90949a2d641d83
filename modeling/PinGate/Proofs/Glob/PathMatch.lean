-- The laws of matching a path. A pattern without braces stands alone, and one with a group for what
-- its options stand for. The last part of a path is what stands behind its last slash; unless it is
-- empty or a single point, it is the part that is tried beside the whole path.
import PinGate.Glob.PathMatch
import PinGate.Proofs.Glob.Braces
import PinGate.Proofs.Glob.Pattern

namespace PinGate.Glob

open Text Pattern

/-! ## Braces -/

theorem not_mem_of_isLiteral {l : Text} (h : IsLiteral l) : '{' ∉ l := fun hm => (h _ hm).2.2.2 rfl

/-- The group that all patterns for this kind of file have. -/
theorem expand_yaml {a : Text} (h : '{' ∉ a) :
    expand (a ++ ".y{a,}ml".toList) = [a ++ ".yaml".toList, a ++ ".yml".toList] := by
  have hgroup : innermost? (a ++ ".y{a,}ml".toList) =
      some (a ++ ".y".toList, "a,".toList, "ml".toList) := innermost?_append h _
  have hoptions : ("a,".toList).splitOn ',' = ["a".toList, []] := by decide
  have hone : expand (a ++ ".yaml".toList) = [a ++ ".yaml".toList] :=
    expand_of_not_mem (by simp [h])
  have htwo : expand (a ++ ".yml".toList) = [a ++ ".yml".toList] :=
    expand_of_not_mem (by simp [h])
  rw [expand_of_some hgroup, hoptions, List.flatMap_cons, List.flatMap_singleton]
  simp only [List.append_assoc]
  exact congrArg₂ (· ++ ·) hone htwo

/-! ## The last part of a path -/

/-- The last of the parts that the slashes of a path separate. -/
def lastPart (path : Text) : Text := ((path.splitOn '/').getLast?).getD []

theorem exists_splitOn_eq (path : Text) : ∃ front, path.splitOn '/' = front ++ [lastPart path] := by
  unfold lastPart
  rcases List.eq_nil_or_concat (path.splitOn '/') with h | ⟨front, name, h⟩
  · exact absurd h (List.splitOn_ne_nil _ _)
  · exact ⟨front, by simp [h]⟩

theorem lastPart_of_not_mem {path : Text} (h : '/' ∉ path) : lastPart path = path := by
  unfold lastPart
  rw [List.splitOn_eq_singleton h]
  rfl

theorem lastPart_append {dir name : Text} (h : '/' ∉ name) :
    lastPart (dir ++ '/' :: name) = name := by
  unfold lastPart
  rw [List.splitOn_append_cons_self, List.splitOn_eq_singleton h]
  simp

/-- A path is its last part, or has it behind a slash. -/
theorem eq_lastPart_or (path : Text) : '/' ∉ lastPart path ∧
    (path = lastPart path ∨ ∃ dir, path = dir ++ '/' :: lastPart path) := by
  by_cases h : '/' ∈ path
  · obtain ⟨back, front, hback, hname⟩ := List.eq_append_cons_of_mem (List.mem_reverse.2 h)
    have hpath : path = front.reverse ++ '/' :: back.reverse := by
      rw [← List.reverse_reverse path, hback]
      simp
    have hnot : '/' ∉ back.reverse := by simpa using hname
    rw [hpath, lastPart_append hnot]
    exact ⟨hnot, .inr ⟨_, rfl⟩⟩
  · rw [lastPart_of_not_mem h]
    exact ⟨h, .inl rfl⟩

theorem not_mem_lastPart (path : Text) : '/' ∉ lastPart path := (eq_lastPart_or path).1

theorem lastPart_suffix (path : Text) : lastPart path <:+ path := by
  rcases (eq_lastPart_or path).2 with h | ⟨dir, h⟩
  · exact h ▸ List.suffix_rfl
  · exact ⟨dir ++ ['/'], by rw [List.append_assoc]; exact h.symm⟩

/-- A last part that is neither empty nor a single point is the one that counts. -/
theorem baseName_of_lastPart {path : Text} (hne : lastPart path ≠ [])
    (hpoint : lastPart path ≠ ['.']) : baseName path = lastPart path := by
  obtain ⟨front, hfront⟩ := exists_splitOn_eq path
  unfold baseName
  rw [hfront, List.filter_append]
  simp [hne, hpoint]

/-! ## Matching -/

theorem matchesPath_iff {pattern path : Text} : matchesPath pattern path = true ↔
    ∃ p ∈ expand pattern, (parse p).StandsFor path ∨ (parse p).StandsFor (baseName path) := by
  simp [matchesPath, admits_iff]

/-- A pattern for this kind of file is one for each of the two endings. -/
theorem matchesPath_yaml_iff {a path : Text} (h : '{' ∉ a) :
    matchesPath (a ++ ".y{a,}ml".toList) path = true ↔
      matchesPath (a ++ ".yaml".toList) path = true ∨
        matchesPath (a ++ ".yml".toList) path = true := by
  have hyaml : '{' ∉ a ++ ".yaml".toList := by simp [h]
  have hyml : '{' ∉ a ++ ".yml".toList := by simp [h]
  simp only [matchesPath_iff, expand_yaml h, expand_of_not_mem hyaml, expand_of_not_mem hyml,
    List.exists_mem_cons_iff, List.not_mem_nil, false_and, exists_false, or_false]

section

variable {path : Text} (hbase : baseName path = lastPart path)

include hbase

theorem matchesPath_literal_iff {l : Text} (h : IsLiteral l) :
    matchesPath l path = true ↔ path = l ∨ lastPart path = l := by
  have hbrace : '{' ∉ l := not_mem_of_isLiteral h
  simp [matchesPath_iff, expand_of_not_mem hbrace, standsFor_literal_iff h, hbase]

/-- Without a slash, a pattern of characters stands for the last part. -/
theorem matchesPath_name_iff {l : Text} (h : IsLiteral l) (hs : '/' ∉ l) :
    matchesPath l path = true ↔ lastPart path = l := by
  rw [matchesPath_literal_iff hbase h]
  constructor
  · rintro (rfl | hl)
    · exact lastPart_of_not_mem hs
    · exact hl
  · exact .inr

theorem matchesPath_star_iff {a b : Text} (ha : IsLiteral a) (hb : IsLiteral b) :
    matchesPath (a ++ '*' :: b) path = true ↔
      Surrounds a b path ∨ Surrounds a b (lastPart path) := by
  have hbrace : '{' ∉ a ++ '*' :: b := by
    simp [not_mem_of_isLiteral ha, not_mem_of_isLiteral hb]
  simp [matchesPath_iff, expand_of_not_mem hbrace, standsFor_star_iff ha hb, hbase]

theorem matchesPath_stars_iff {a b : Text} (ha : IsLiteral a) (hb : IsLiteral b) :
    matchesPath (a ++ '*' :: '*' :: b) path = true ↔
      Surrounds a b path ∨ Surrounds a b (lastPart path) := by
  have hbrace : '{' ∉ a ++ '*' :: '*' :: b := by
    simp [not_mem_of_isLiteral ha, not_mem_of_isLiteral hb]
  simp [matchesPath_iff, expand_of_not_mem hbrace, standsFor_stars_iff ha hb, hbase]

/-! What a pattern ends with, a path that matches it ends with. -/

theorem suffix_of_literal {l e : Text} (h : IsLiteral l) (he : e <:+ l)
    (hm : matchesPath l path = true) : e <:+ path := by
  rcases (matchesPath_literal_iff hbase h).1 hm with rfl | rfl
  · exact he
  · exact he.trans (lastPart_suffix path)

theorem suffix_of_star {a b : Text} (ha : IsLiteral a) (hb : IsLiteral b)
    (hm : matchesPath (a ++ '*' :: b) path = true) : b <:+ path := by
  rcases (matchesPath_star_iff hbase ha hb).1 hm with h | h
  · exact h.ends
  · exact h.ends.trans (lastPart_suffix path)

theorem suffix_of_stars {a b : Text} (ha : IsLiteral a) (hb : IsLiteral b)
    (hm : matchesPath (a ++ '*' :: '*' :: b) path = true) : b <:+ path := by
  rw [matchesPath_stars_iff hbase ha hb, ← matchesPath_star_iff hbase ha hb] at hm
  exact suffix_of_star hbase ha hb hm

/-- In front of a star, a slash keeps the last part from being tried with any success. -/
theorem matchesPath_below_iff {a b : Text} (ha : IsLiteral a) (hb : IsLiteral b)
    (hs : a.getLast? = some '/') (hnot : '/' ∉ b) :
    matchesPath (a ++ '*' :: b) path = true ↔ a <+: path ∧ b <:+ path := by
  have hlast : ¬ Surrounds a b (lastPart path) := by
    intro h
    exact not_mem_lastPart path (h.begins.subset (List.mem_of_getLast? hs))
  rw [matchesPath_star_iff hbase ha hb, or_iff_left hlast, surrounds_iff]
  intro c hc
  rw [hs] at hc
  cases hc
  exact hnot

end

end PinGate.Glob
