-- Braces in a pattern: `*.y{a,}ml` stands for `*.yaml` and `*.yml`. The leftmost group that
-- holds no further brace is replaced by each of its options, and the results are expanded again.
-- Each replacement takes an opening brace away, so the expansion ends.
import PinGate.Text.Basic

namespace PinGate.Glob

/-- The leftmost group of a pattern: what stands before its opening brace, between its braces,
and after. -/
def innermost? : Text → Option (Text × Text × Text)
  | [] => none
  | c :: cs =>
    if c = '{' then
      match cs.dropWhile (fun d => d != '{' && d != '}') with
      | '}' :: tail => some ([], cs.takeWhile (fun d => d != '{' && d != '}'), tail)
      | _ => (innermost? cs).map fun (head, body, tail) => (c :: head, body, tail)
    else (innermost? cs).map fun (head, body, tail) => (c :: head, body, tail)

/-- A pattern is its leftmost group with what stands around it, and the group holds no brace. -/
theorem innermost?_eq_some {s head body tail : Text} (h : innermost? s = some (head, body, tail)) :
    s = head ++ '{' :: (body ++ '}' :: tail) ∧ '{' ∉ body ∧ '}' ∉ body := by
  induction s generalizing head body tail with
  | nil => simp [innermost?] at h
  | cons c cs ih =>
    have deeper {o : Option (Text × Text × Text)} (ho : o = innermost? cs)
        (h : o.map (fun (head, body, tail) => (c :: head, body, tail)) =
          some (head, body, tail)) :
        c :: cs = head ++ '{' :: (body ++ '}' :: tail) ∧ '{' ∉ body ∧ '}' ∉ body := by
      obtain ⟨⟨head', body', tail'⟩, h', he⟩ := Option.map_eq_some_iff.1 h
      simp only [Prod.mk.injEq] at he
      obtain ⟨rfl, rfl, rfl⟩ := he
      obtain ⟨hs, hb⟩ := ih (ho ▸ h')
      exact ⟨by rw [hs, List.cons_append], hb⟩
    simp only [innermost?] at h
    split at h
    · next hc =>
      subst hc
      split at h
      · next t ht =>
        simp only [Option.some.injEq, Prod.mk.injEq] at h
        obtain ⟨rfl, rfl, rfl⟩ := h
        have hall := List.all_takeWhile (p := fun d => d != '{' && d != '}') (l := cs)
        have hsplit : cs.takeWhile (fun d => d != '{' && d != '}') ++
            cs.dropWhile (fun d => d != '{' && d != '}') = cs := List.takeWhile_append_dropWhile
        rw [ht] at hsplit
        refine ⟨by rw [List.nil_append, hsplit], ?_, ?_⟩
        · intro hm
          have := List.all_eq_true.1 hall _ hm
          simp at this
        · intro hm
          have := List.all_eq_true.1 hall _ hm
          simp at this
      · exact deeper rfl h
    · exact deeper rfl h

/-- Taking a group's braces away leaves fewer opening braces. -/
theorem count_replaced_lt {head body tail option : Text} (hb : '{' ∉ body)
    (ho : option ∈ body.splitOn ',') :
    (head ++ option ++ tail).count '{' < (head ++ '{' :: (body ++ '}' :: tail)).count '{' := by
  have hz : option.count '{' = 0 := by
    rw [List.count_eq_zero]
    intro hm
    exact hb (Text.mem_of_mem_splitOn ho hm)
  have hc : ('}' :: tail).count '{' = tail.count '{' := List.count_cons_of_ne (by decide)
  simp only [List.count_append, List.count_cons_self, hc, hz]
  omega

theorem count_option_lt {s head body tail option : Text}
    (h : innermost? s = some (head, body, tail)) (ho : option ∈ body.splitOn ',') :
    (head ++ option ++ tail).count '{' < s.count '{' := by
  obtain ⟨rfl, hb, -⟩ := innermost?_eq_some h
  exact count_replaced_lt hb ho

/-- All patterns that a pattern stands for, in order. -/
def expand (pattern : Text) : List Text :=
  match _h : innermost? pattern with
  | none => [pattern]
  | some (head, body, tail) =>
    (body.splitOn ',').attach.flatMap fun ⟨option, _ho⟩ => expand (head ++ option ++ tail)
termination_by pattern.count '{'
decreasing_by exact count_option_lt _h _ho

end PinGate.Glob
