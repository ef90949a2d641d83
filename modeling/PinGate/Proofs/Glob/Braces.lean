-- The laws of braces. A pattern with groups stands for the texts that come of it when one option is
-- chosen in each group, from the outside in, although the groups are replaced from the inside out.
-- Groups beside each other stand for all combinations in order, and of no text does a group remain.
import PinGate.Glob.Braces
import Mathlib.Algebra.BigOperators.Group.List.Basic
import Mathlib.Order.WellFounded

namespace PinGate.Glob

open Text

/-! ## The leftmost group -/

/-- What stands in front of all braces stays in front. -/
theorem innermost?_append {a : Text} (h : '{' ∉ a) (s : Text) :
    innermost? (a ++ s) = (innermost? s).map fun (head, body, tail) => (a ++ head, body, tail) := by
  induction a with
  | nil => simp
  | cons c a ih =>
    rw [List.mem_cons, not_or] at h
    have hc : c ≠ '{' := Ne.symm h.1
    simp only [List.cons_append, innermost?, hc, if_false, ih h.2, Option.map_map]
    rfl

theorem innermost?_of_not_mem {s : Text} (h : '{' ∉ s) : innermost? s = none := by
  simpa [innermost?] using innermost?_append h []

/-- Whether no brace stands in a text. -/
def IsBraceFree (s : Text) : Prop := '{' ∉ s ∧ '}' ∉ s

instance : DecidablePred IsBraceFree := fun _ => inferInstanceAs (Decidable (_ ∧ _))

/-- Whether a group stands in a text: two braces with none between them. -/
def HasGroup (s : Text) : Prop :=
  ∃ head body tail, s = head ++ '{' :: (body ++ '}' :: tail) ∧ IsBraceFree body

theorem exists_dropWhile_open {s : Text} (h : '}' ∉ s) (rest : Text) :
    ∃ t, (s ++ '{' :: rest).dropWhile (fun d => d != '{' && d != '}') = '{' :: t := by
  induction s with
  | nil => exact ⟨rest, rfl⟩
  | cons c s ih =>
    rw [List.mem_cons, not_or] at h
    by_cases hc : c = '{'
    · exact ⟨s ++ '{' :: rest, by simp [hc]⟩
    · simpa [hc, Ne.symm h.1] using ih h.2

section

variable {head body : Text} (hbody : IsBraceFree body)

include hbody

theorem dropWhile_body (tail : Text) :
    (body ++ '}' :: tail).dropWhile (fun d => d != '{' && d != '}') = '}' :: tail := by
  rw [List.dropWhile_append_of_pos]
  · rfl
  · intro d hd
    simp [ne_of_mem_of_not_mem hd hbody.1, ne_of_mem_of_not_mem hd hbody.2]

theorem takeWhile_body (tail : Text) :
    (body ++ '}' :: tail).takeWhile (fun d => d != '{' && d != '}') = body := by
  rw [List.takeWhile_append_of_pos]
  · simp
  · intro d hd
    simp [ne_of_mem_of_not_mem hd hbody.1, ne_of_mem_of_not_mem hd hbody.2]

/-- A group in front of which no brace is closed is the leftmost one. -/
theorem innermost?_of_open (hhead : '}' ∉ head) (tail : Text) :
    innermost? (head ++ '{' :: (body ++ '}' :: tail)) = some (head, body, tail) := by
  induction head with
  | nil => simp [innermost?, dropWhile_body hbody, takeWhile_body hbody]
  | cons c head ih =>
    rw [List.mem_cons, not_or] at hhead
    rw [List.cons_append, innermost?, ih hhead.2]
    by_cases hc : c = '{'
    · -- The next brace opens the group or another one around it.
      obtain ⟨t, ht⟩ := exists_dropWhile_open hhead.2 (body ++ '}' :: tail)
      simp [hc, ht]
    · simp [hc]

end

theorem hasGroup_of_innermost? {s : Text} (h : innermost? s ≠ none) : HasGroup s := by
  obtain ⟨⟨head, body, tail⟩, hsome⟩ := Option.ne_none_iff_exists'.1 h
  obtain ⟨hs, hbody⟩ := innermost?_eq_some hsome
  exact ⟨head, body, tail, hs, hbody⟩

/-- Where a group stands, one is found. -/
theorem innermost?_eq_none_iff {s : Text} : innermost? s = none ↔ ¬ HasGroup s := by
  constructor
  · rintro h ⟨head, body, tail, rfl, hbody⟩
    induction head with
    | nil =>
      simp [innermost?, dropWhile_body hbody] at h
    | cons c head ih =>
      apply ih
      rw [List.cons_append, innermost?] at h
      split at h
      · split at h
        · cases h
        · exact Option.map_eq_none_iff.1 h
      · exact Option.map_eq_none_iff.1 h
  · intro h
    by_contra hne
    exact h (hasGroup_of_innermost? hne)

/-! ## Expansion -/

theorem expand_of_none {s : Text} (h : innermost? s = none) : expand s = [s] := by
  rw [expand]
  split
  · rfl
  · rename_i heq
    rw [h] at heq
    cases heq

theorem expand_of_not_mem {s : Text} (h : '{' ∉ s) : expand s = [s] :=
  expand_of_none (innermost?_of_not_mem h)

/-- A group stands for its options, each with what stands around the group. -/
theorem expand_of_some {s head body tail : Text} (h : innermost? s = some (head, body, tail)) :
    expand s = (body.splitOn ',').flatMap fun option => expand (head ++ option ++ tail) := by
  rw [expand]
  split
  · rename_i heq
    rw [h] at heq
    cases heq
  · rename_i heq
    rw [h] at heq
    cases heq
    rw [List.flatMap_subtype (g := fun option => expand (head ++ option ++ tail)) (by simp)]
    simp

/-- One replacement, of whichever group: an option of the group takes its place. -/
def Replaces (s t : Text) : Prop :=
  ∃ head body tail option, s = head ++ '{' :: (body ++ '}' :: tail) ∧ IsBraceFree body ∧
    option ∈ body.splitOn ',' ∧ t = head ++ option ++ tail

theorem count_lt_of_replaces {s t : Text} (h : Replaces s t) : t.count '{' < s.count '{' := by
  obtain ⟨head, body, tail, option, rfl, hbody, ho, rfl⟩ := h
  exact count_replaced_lt hbody.1 ho

/-- Replacing groups comes to an end, whichever is replaced first. -/
theorem wellFounded_replaces : WellFounded fun t s => Replaces s t :=
  Subrelation.wf (fun h => count_lt_of_replaces h) (measure (List.count '{')).wf

theorem expand_ne_nil (s : Text) : expand s ≠ [] := by
  induction s using expand.induct with
  | case1 s h =>
    rw [expand_of_none h]
    exact List.cons_ne_nil s []
  | case2 s head body tail h ih =>
    obtain ⟨option, options, ho⟩ := List.exists_cons_of_ne_nil (List.splitOn_ne_nil ',' body)
    rw [expand_of_some h, ho, List.flatMap_cons]
    exact List.append_ne_nil_of_left_ne_nil (ih option (by rw [ho]; exact List.mem_cons_self)) _

theorem ne_nil_of_mem_map_expand {us : List Text} : ∀ c ∈ us.map expand, c ≠ [] := by
  intro c hc
  obtain ⟨u, -, rfl⟩ := List.mem_map.1 hc
  exact expand_ne_nil u

/-- Nothing that a pattern stands for holds a group. -/
theorem not_hasGroup_of_mem_expand {s r : Text} (h : r ∈ expand s) : ¬ HasGroup r := by
  induction s using expand.induct with
  | case1 s hnone =>
    rw [expand_of_none hnone, List.mem_singleton] at h
    rw [h]
    exact innermost?_eq_none_iff.1 hnone
  | case2 s head body tail hsome ih =>
    rw [expand_of_some hsome] at h
    obtain ⟨option, ho, hr⟩ := List.mem_flatMap.1 h
    exact ih option ho hr

/-! ## Texts that are expanded first -/

/-- Whether a text can stand in a pattern without a meaning of its own: it holds no brace, and no
comma when it stands inside a group. -/
def IsFree (inside : Bool) (s : Text) : Prop := IsBraceFree s ∧ (inside = true → ',' ∉ s)

instance (inside : Bool) : DecidablePred (IsFree inside) :=
  fun _ => inferInstanceAs (Decidable (_ ∧ _))

/-- A text of which nothing belongs together with what stands around it. When no brace is closed in
front of it, it is expanded before all that follows it, into texts that are free. -/
structure IsWhole (inside : Bool) (u : Text) : Prop where
  free : ∀ x ∈ expand u, IsFree inside x
  first : ∀ pre post, '}' ∉ pre →
    expand (pre ++ (u ++ post)) = (expand u).flatMap fun x => expand (pre ++ (x ++ post))

variable {inside : Bool} {u v : Text}

theorem IsBraceFree.append (hu : IsBraceFree u) (hv : IsBraceFree v) : IsBraceFree (u ++ v) := by
  simp only [IsBraceFree, List.mem_append] at *
  grind

theorem IsFree.append (hu : IsFree inside u) (hv : IsFree inside v) : IsFree inside (u ++ v) := by
  refine ⟨hu.1.append hv.1, fun h => ?_⟩
  rw [List.mem_append, not_or]
  exact ⟨hu.2 h, hv.2 h⟩

theorem expand_of_isFree (h : IsFree inside u) : expand u = [u] := expand_of_not_mem h.1.1

theorem IsFree.isWhole (h : IsFree inside u) : IsWhole inside u where
  free := by
    rw [expand_of_isFree h]
    simpa using h
  first pre post _ := by rw [expand_of_isFree h, List.flatMap_singleton]

/-! ### One behind the other -/

/-- Two such texts are expanded into all combinations, those of the first text in front. -/
theorem IsWhole.expand_append (hu : IsWhole inside u) (hv : IsWhole inside v) :
    expand (u ++ v) = (expand u).flatMap fun x => (expand v).map (x ++ ·) := by
  have hfirst := hu.first [] v List.not_mem_nil
  rw [List.nil_append] at hfirst
  rw [hfirst]
  apply List.flatMap_congr
  intro x hx
  have hsecond := hv.first x [] (hu.free x hx).1.2
  rw [List.append_nil] at hsecond
  rw [List.nil_append, hsecond, ← List.flatMap_pure_eq_map]
  apply List.flatMap_congr
  intro y hy
  rw [List.append_nil]
  exact expand_of_isFree ((hu.free x hx).append (hv.free y hy))

theorem IsWhole.append (hu : IsWhole inside u) (hv : IsWhole inside v) :
    IsWhole inside (u ++ v) where
  free := by
    intro z hz
    rw [hu.expand_append hv] at hz
    obtain ⟨x, hx, hz⟩ := List.mem_flatMap.1 hz
    obtain ⟨y, hy, rfl⟩ := List.mem_map.1 hz
    exact (hu.free x hx).append (hv.free y hy)
  first := by
    intro pre post hpre
    rw [hu.expand_append hv, List.append_assoc, hu.first pre _ hpre, List.flatMap_assoc]
    apply List.flatMap_congr
    intro x hx
    have hopen : '}' ∉ pre ++ x := by simp [hpre, (hu.free x hx).1.2]
    rw [← List.append_assoc, hv.first _ _ hopen, List.flatMap_map]
    simp only [List.append_assoc]

/-! ### Options -/

/-- All ways to take one item of each list, in order. The item of the last list changes fastest. -/
def rows {α : Type} : List (List α) → List (List α)
  | [] => [[]]
  | c :: cs => c.flatMap fun x => (rows cs).map (x :: ·)

theorem length_rows {α : Type} (cs : List (List α)) :
    (rows cs).length = (cs.map List.length).prod := by
  induction cs with
  | nil => rfl
  | cons c cs ih => simp [rows, List.length_flatMap, ih]

theorem rows_append {α : Type} (cs ds : List (List α)) :
    rows (cs ++ ds) = (rows cs).flatMap fun r => (rows ds).map (r ++ ·) := by
  induction cs with
  | nil => simp [rows]
  | cons c cs ih =>
    simp [rows, ih, List.flatMap_assoc, List.flatMap_map, List.map_flatMap, Function.comp_def]

theorem rows_ne_nil {α : Type} {cs : List (List α)} (h : ∀ c ∈ cs, c ≠ []) : rows cs ≠ [] := by
  induction cs with
  | nil => simp [rows]
  | cons c cs ih =>
    obtain ⟨x, t, hx⟩ := List.exists_cons_of_ne_nil (h c List.mem_cons_self)
    simp [rows, hx, ih fun d hd => h d (List.mem_cons_of_mem c hd)]

theorem rows_singleton {α : Type} (c : List α) : rows [c] = c.map fun x => [x] :=
  List.flatMap_pure_eq_map _ c

theorem rows_map_singleton {α : Type} (xs : List α) : rows (xs.map fun x => [x]) = [xs] := by
  induction xs with
  | nil => rfl
  | cons x xs ih => simp [rows, ih]

/-- Where there is something to take of each list, each item of each list is taken somewhere. -/
theorem mem_flatten_rows_iff {α : Type} {cs : List (List α)} (h : ∀ c ∈ cs, c ≠ []) {x : α} :
    x ∈ (rows cs).flatten ↔ ∃ c ∈ cs, x ∈ c := by
  induction cs with
  | nil => simp [rows]
  | cons c cs ih =>
    have hcs := fun d hd => h d (List.mem_cons_of_mem c hd)
    obtain ⟨y, hy⟩ := List.exists_mem_of_ne_nil c (h c List.mem_cons_self)
    obtain ⟨r, hr⟩ := List.exists_mem_of_ne_nil (rows cs) (rows_ne_nil hcs)
    rw [List.exists_mem_cons_iff, ← ih hcs]
    simp only [rows, List.mem_flatten, List.mem_flatMap, List.mem_map]
    constructor
    · rintro ⟨_, ⟨z, hz, q, hq, rfl⟩, hx⟩
      rcases List.mem_cons.1 hx with rfl | hx
      · exact .inl hz
      · exact .inr ⟨q, hq, hx⟩
    · rintro (hx | ⟨q, hq, hx⟩)
      · exact ⟨x :: r, ⟨x, hx, r, hr, rfl⟩, List.mem_cons_self⟩
      · exact ⟨y :: q, ⟨y, hy, q, hq, rfl⟩, List.mem_cons_of_mem y hx⟩

/-- Options behind commas. -/
def behindCommas (us : List Text) : Text := us.flatMap (',' :: ·)

theorem splitOn_append_behindCommas {x : Text} {xs : List Text} (hx : ',' ∉ x)
    (hxs : ∀ y ∈ xs, ',' ∉ y) : (x ++ behindCommas xs).splitOn ',' = x :: xs := by
  induction xs generalizing x with
  | nil => simpa [behindCommas] using List.splitOn_eq_singleton hx
  | cons y xs ih =>
    have hy := ih (hxs y List.mem_cons_self) fun z hz => hxs z (List.mem_cons_of_mem y hz)
    change (x ++ ',' :: (y ++ behindCommas xs)).splitOn ',' = _
    rw [List.splitOn_append_cons_self, List.splitOn_eq_singleton hx, hy]
    rfl

/-- Options are expanded one after the other. -/
theorem expand_behindCommas {us : List Text} (hus : ∀ u ∈ us, IsWhole true u) {pre : Text}
    (hpre : '}' ∉ pre) (post : Text) : expand (pre ++ (behindCommas us ++ post)) =
      (rows (us.map expand)).flatMap fun xs => expand (pre ++ (behindCommas xs ++ post)) := by
  induction us generalizing pre with
  | nil => simp [rows, behindCommas]
  | cons u us ih =>
    have hu := hus u List.mem_cons_self
    have hcomma : '}' ∉ pre ++ [','] := by simp [hpre]
    have hfirst := hu.first (pre ++ [',']) (behindCommas us ++ post) hcomma
    have hsplit : pre ++ (behindCommas (u :: us) ++ post) =
        pre ++ [','] ++ (u ++ (behindCommas us ++ post)) := by simp [behindCommas]
    rw [hsplit, hfirst, List.map_cons, rows, List.flatMap_assoc]
    apply List.flatMap_congr
    intro x hx
    have hopen : '}' ∉ pre ++ [','] ++ x := by simp [hpre, (hu.free x hx).1.2]
    rw [← List.append_assoc, ih (fun v hv => hus v (List.mem_cons_of_mem u hv)) hopen,
      List.flatMap_map]
    simp [behindCommas]

/-- The text of a group. -/
def groupText (u : Text) (us : List Text) : Text := '{' :: (u ++ (behindCommas us ++ ['}']))

theorem isBraceFree_behindCommas {xs : List Text} (h : ∀ x ∈ xs, IsBraceFree x) :
    IsBraceFree (behindCommas xs) := by
  simp only [IsBraceFree, behindCommas, List.mem_flatMap, List.mem_cons] at *
  grind

section

variable {us : List Text} (hu : IsWhole true u) (hus : ∀ v ∈ us, IsWhole true v)

include hus

theorem isFree_of_mem_rows {xs : List Text} (hxs : xs ∈ rows (us.map expand)) :
    ∀ x ∈ xs, IsFree true x := by
  intro x hx
  have hmem : x ∈ (rows (us.map expand)).flatten := List.mem_flatten.2 ⟨xs, hxs, hx⟩
  obtain ⟨c, hc, hxc⟩ := (mem_flatten_rows_iff ne_nil_of_mem_map_expand).1 hmem
  obtain ⟨v, hv, rfl⟩ := List.mem_map.1 hc
  exact (hus v hv).free x hxc

include hu

/-- A group is expanded from the inside: first its options, and then it stands for all that they
were expanded into. -/
theorem expand_append_groupText {pre : Text} (hpre : '}' ∉ pre) (post : Text) :
    expand (pre ++ (groupText u us ++ post)) =
      (rows (expand u :: us.map expand)).flatten.flatMap fun x => expand (pre ++ (x ++ post)) := by
  have hbrace : '}' ∉ pre ++ ['{'] := by simp [hpre]
  have hfirst := hu.first (pre ++ ['{']) (behindCommas us ++ '}' :: post) hbrace
  have hsplit : pre ++ (groupText u us ++ post) =
      pre ++ ['{'] ++ (u ++ (behindCommas us ++ '}' :: post)) := by simp [groupText]
  rw [hsplit, hfirst, rows, List.flatten_eq_flatMap, List.flatMap_assoc, List.flatMap_assoc]
  apply List.flatMap_congr
  intro x hx
  have hxfree := hu.free x hx
  have hopen : '}' ∉ pre ++ ['{'] ++ x := by simp [hpre, hxfree.1.2]
  rw [← List.append_assoc, expand_behindCommas hus hopen, List.flatMap_map]
  apply List.flatMap_congr
  intro xs hxs
  have hxsfree := isFree_of_mem_rows hus hxs
  have hbody : IsBraceFree (x ++ behindCommas xs) :=
    hxfree.1.append (isBraceFree_behindCommas fun y hy => (hxsfree y hy).1)
  have hgroup : pre ++ ['{'] ++ x ++ (behindCommas xs ++ '}' :: post) =
      pre ++ '{' :: ((x ++ behindCommas xs) ++ '}' :: post) := by simp
  rw [hgroup, expand_of_some (innermost?_of_open hbody hpre post),
    splitOn_append_behindCommas (hxfree.2 rfl) fun y hy => (hxsfree y hy).2 rfl]
  simp

theorem isFree_of_mem_group {x : Text} (hx : x ∈ (rows (expand u :: us.map expand)).flatten) :
    IsFree true x := by
  obtain ⟨xs, hxs, hx⟩ := List.mem_flatten.1 hx
  have hall : ∀ v ∈ u :: us, IsWhole true v := List.forall_mem_cons.2 ⟨hu, hus⟩
  exact isFree_of_mem_rows hall hxs x hx

theorem expand_groupText :
    expand (groupText u us) = (rows (expand u :: us.map expand)).flatten := by
  have hgroup := expand_append_groupText hu hus (List.not_mem_nil (a := '}')) []
  rw [List.nil_append, List.append_nil] at hgroup
  rw [hgroup, ← List.flatMap_singleton' (rows _).flatten, List.flatMap_assoc]
  apply List.flatMap_congr
  intro x hx
  rw [List.flatMap_singleton, List.nil_append, List.append_nil]
  exact expand_of_isFree (isFree_of_mem_group hu hus hx)

theorem isWhole_groupText (inside : Bool) : IsWhole inside (groupText u us) where
  free := by
    intro x hx
    rw [expand_groupText hu hus] at hx
    have hfree := isFree_of_mem_group hu hus hx
    exact ⟨hfree.1, fun _ => hfree.2 rfl⟩
  first pre post hpre := by
    rw [expand_groupText hu hus]
    exact expand_append_groupText hu hus hpre post

end

/-! ## Templates -/

/-- A pattern as a tree. A literal holds no brace, and no comma when it stands inside a group; a
group has one option at least. -/
inductive Template : Bool → Type where
  | literal {inside : Bool} (s : Text) (free : IsFree inside s := by decide) :
    Template inside
  | join {inside : Bool} (p q : Template inside) : Template inside
  | group {inside : Bool} (first : Template true) (others : List (Template true)) : Template inside

namespace Template

@[elab_as_elim, induction_eliminator]
theorem by_parts {P : {inside : Bool} → Template inside → Prop}
    (literal : ∀ {inside : Bool} (s : Text) (free : IsFree inside s), P (.literal s free))
    (join : ∀ {inside : Bool} (p q : Template inside), P p → P q → P (.join p q))
    (group : ∀ {inside : Bool} (first : Template true) (others : List (Template true)), P first →
      (∀ t ∈ others, P t) → P (.group first others : Template inside))
    {inside : Bool} (t : Template inside) : P t :=
  Template.rec (motive_1 := fun _ t => P t) (motive_2 := fun ts => ∀ t ∈ ts, P t) literal join group
    (by simp) (fun t ts ht hts => List.forall_mem_cons.2 ⟨ht, hts⟩) t

mutual

/-- A template as it is written. -/
def text : {inside : Bool} → Template inside → Text
  | _, literal s _ => s
  | _, join p q => p.text ++ q.text
  | _, group first others => groupText first.text (texts others)

def texts : List (Template true) → List Text
  | [] => []
  | t :: ts => t.text :: texts ts

end

theorem texts_eq_map (ts : List (Template true)) : texts ts = ts.map text := by
  induction ts with
  | nil => rfl
  | cons t ts ih => rw [texts, ih, List.map_cons]

/-- The texts that come of a template by choosing one option in every group. -/
inductive Chooses : {inside : Bool} → Template inside → Text → Prop
  | literal {inside : Bool} (s : Text) (free : IsFree inside s) : Chooses (.literal s free) s
  | join {inside : Bool} {p q : Template inside} {x y : Text} (hp : Chooses p x)
    (hq : Chooses q y) : Chooses (.join p q) (x ++ y)
  | group {inside : Bool} {first option : Template true} {others : List (Template true)} {x : Text}
    (hmem : option ∈ first :: others) (hoption : Chooses option x) :
    Chooses (.group first others : Template inside) x

theorem isWhole_text {inside : Bool} (t : Template inside) : IsWhole inside t.text := by
  induction t with
  | literal s free => exact free.isWhole
  | join p q hp hq => exact hp.append hq
  | group first others hfirst hothers =>
    rw [text, texts_eq_map]
    refine isWhole_groupText hfirst ?_ _
    simpa using hothers

/-- What the options of a group are expanded into follows each other as the rows of it do. -/
theorem expand_text_group (inside : Bool) (first : Template true) (others : List (Template true)) :
    expand (group first others : Template inside).text =
      (rows (((first :: others).map text).map expand)).flatten := by
  have hothers : ∀ u ∈ others.map text, IsWhole true u := by
    intro u hu
    obtain ⟨t, -, rfl⟩ := List.mem_map.1 hu
    exact t.isWhole_text
  rw [text, texts_eq_map]
  exact expand_groupText first.isWhole_text hothers

theorem mem_expand_text_iff {inside : Bool} (t : Template inside) (x : Text) :
    x ∈ expand t.text ↔ t.Chooses x := by
  induction t generalizing x with
  | literal s free =>
    rw [text, expand_of_isFree free, List.mem_singleton]
    constructor
    · rintro rfl
      exact .literal x free
    · rintro ⟨⟩
      rfl
  | join p q hp hq =>
    rw [text, p.isWhole_text.expand_append q.isWhole_text]
    simp only [List.mem_flatMap, List.mem_map, hp, hq]
    constructor
    · rintro ⟨y, hy, z, hz, rfl⟩
      exact .join hy hz
    · rintro (_ | ⟨hy, hz⟩)
      exact ⟨_, hy, _, hz, rfl⟩
  | group first others hfirst hothers =>
    have hoptions : ∀ t ∈ first :: others, x ∈ expand t.text ↔ t.Chooses x :=
      List.forall_mem_cons.2 ⟨hfirst x, fun t ht => hothers t ht x⟩
    rw [expand_text_group, mem_flatten_rows_iff ne_nil_of_mem_map_expand]
    simp only [List.mem_map, exists_exists_and_eq_and]
    constructor
    · rintro ⟨t, ht, hx⟩
      exact .group ht ((hoptions t ht).1 hx)
    · rintro (_ | _ | ⟨ht, hx⟩)
      exact ⟨_, ht, (hoptions _ ht).2 hx⟩

/-! ### Groups beside each other -/

/-- Whether a template has no group. -/
def IsGroupFree : {inside : Bool} → Template inside → Prop
  | _, literal _ _ => True
  | _, join p q => p.IsGroupFree ∧ q.IsGroupFree
  | _, group _ _ => False

/-- Whether no group stands inside another one. -/
def IsFlat : {inside : Bool} → Template inside → Prop
  | _, literal _ _ => True
  | _, join p q => p.IsFlat ∧ q.IsFlat
  | _, group first others => ∀ t ∈ first :: others, t.IsGroupFree

/-- What can stand at each place of a template: the options of a group, or a literal alone. -/
def columns : {inside : Bool} → Template inside → List (List Text)
  | _, literal s _ => [[s]]
  | _, join p q => p.columns ++ q.columns
  | _, group first others => [(first :: others).map text]

theorem isFree_text_of_isGroupFree {inside : Bool} {t : Template inside} (h : t.IsGroupFree) :
    IsFree inside t.text := by
  induction t with
  | literal s free => exact free
  | join p q hp hq => exact (hp h.1).append (hq h.2)
  | group first others => exact h.elim

/-- Groups beside each other stand for all combinations of their options. -/
theorem expand_of_isFlat {inside : Bool} {t : Template inside} (h : t.IsFlat) :
    expand t.text = (rows t.columns).map List.flatten := by
  induction t with
  | literal s free =>
    rw [text, expand_of_isFree free]
    simp [columns, rows]
  | join p q hp hq =>
    rw [text, p.isWhole_text.expand_append q.isWhole_text, hp h.1, hq h.2, columns, rows_append]
    simp [List.flatMap_map, List.map_flatMap, Function.comp_def]
  | group first others =>
    have hplain : ((first :: others).map text).map expand =
        ((first :: others).map text).map fun u => [u] := by
      apply List.map_congr_left
      intro u hu
      obtain ⟨t, ht, rfl⟩ := List.mem_map.1 hu
      exact expand_of_isFree (isFree_text_of_isGroupFree (h t ht))
    rw [expand_text_group, hplain, rows_map_singleton, columns, rows_singleton, List.map_map]
    simp

end Template

/-! ## The law -/

/-- A pattern stands for what comes of it when one option is chosen in every group, and if no group
stands inside another, for all combinations in order, each place of an option counted once. Of any
text whatever, replacing groups comes to an end, and it ends where no group is left. -/
theorem patterns_stand_for_their_choices :
    (∀ (t : Template false) (x : Text), x ∈ expand t.text ↔ t.Chooses x) ∧
    (∀ t : Template false, t.IsFlat → expand t.text = (rows t.columns).map List.flatten ∧
      (expand t.text).length = (t.columns.map List.length).prod) ∧
    ∀ s : Text, Acc (fun after before => Replaces before after) s ∧ expand s ≠ [] ∧
      ∀ r ∈ expand s, ¬ HasGroup r := by
  refine ⟨Template.mem_expand_text_iff, ?_, ?_⟩
  · intro t ht
    have hrows := Template.expand_of_isFlat ht
    exact ⟨hrows, by rw [hrows, List.length_map, length_rows]⟩
  · intro s
    exact ⟨wellFounded_replaces.apply s, expand_ne_nil s, fun r => not_hasGroup_of_mem_expand⟩

/-- A group inside another one, groups beside each other behind a comma, and braces without a
partner. -/
theorem nested_groups_are_expanded :
    let nested : Template false :=
      .join (.literal "a,".toList)
        (.group (.join (.literal "b".toList) (.group (.literal []) [.literal "c".toList]))
          [.group (.literal []) []])
    let flat : Template false :=
      .join (.group (.literal "a".toList) [.literal [], .literal "a".toList])
        (.join (.literal ".".toList) (.group (.literal "c".toList) [.literal "d".toList]))
    let broken := '}' :: '{' :: 'a' :: "{b,c}".toList
    (nested.text = "a,{b{,c},{}}".toList ∧ "a,bc".toList ∈ expand nested.text) ∧
      (flat.text = "{a,,a}.{c,d}".toList ∧ flat.IsFlat ∧
        expand flat.text = ["a.c", "a.d", ".c", ".d", "a.c", "a.d"].map String.toList) ∧
      ['}', '{', 'a', 'c'] ∈ expand broken ∧ ¬ HasGroup ['}', '{', 'a', 'c'] := by
  intro nested flat broken
  obtain ⟨hchoices, hrows, hclosed⟩ := patterns_stand_for_their_choices
  have hflat : flat.IsFlat := by simp [flat, Template.IsFlat, Template.IsGroupFree]
  have hbroken : ['}', '{', 'a', 'c'] ∈ expand broken := by
    have hgroup : innermost? broken = some (['}', '{', 'a'], "b,c".toList, []) := by decide
    have hlast : ['}', '{', 'a', 'c'] ∈ expand (['}', '{', 'a'] ++ ['c'] ++ []) := by
      rw [expand_of_none (by decide)]
      exact List.mem_singleton_self _
    rw [expand_of_some hgroup]
    exact List.mem_flatMap.2 ⟨['c'], by decide, hlast⟩
  refine ⟨⟨rfl, ?_⟩, ⟨rfl, hflat, ?_⟩, hbroken, (hclosed broken).2.2 _ hbroken⟩
  · rw [hchoices]
    exact .join (.literal "a,".toList (by decide)) (.group List.mem_cons_self
      (.join (.literal "b".toList (by decide)) (.group (List.mem_cons_of_mem _ List.mem_cons_self)
        (.literal "c".toList (by decide)))))
  · rw [(hrows flat hflat).1]
    rfl

end PinGate.Glob
