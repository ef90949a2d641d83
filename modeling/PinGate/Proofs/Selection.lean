-- Which validators a path gets, told without patterns: by how the path ends, by its last part, and
-- for one validator by how it starts. The other patterns of the table add nothing to the endings
-- beside them.
import PinGate.Proofs.Glob.PathMatch
import PinGate.Validator

namespace PinGate

open Text Glob Pattern

theorem Selector.appliesTo_iff {s : Selector} {path : Text} : s.appliesTo path = true ↔
    (∃ e ∈ s.extensions, e <:+ path) ∨ ∃ p ∈ s.patterns, matchesPath p path = true := by
  simp [Selector.appliesTo, endsWith, List.isSuffixOf_iff_suffix]

/-- Patterns that only say again what the endings say can be left out. -/
theorem Selector.appliesTo_iff_ends {s : Selector} {path : Text}
    (h : ∀ p ∈ s.patterns, matchesPath p path = true → ∃ e ∈ s.extensions, e <:+ path) :
    s.appliesTo path = true ↔ ∃ e ∈ s.extensions, e <:+ path := by
  rw [Selector.appliesTo_iff]
  constructor
  · rintro (he | ⟨p, hp, hm⟩)
    · exact he
    · exact h p hp hm
  · exact .inl

namespace Validator

/-- What a path has to look like for a validator to apply to it. -/
def Takes : Validator → Text → Prop
  | node, path => "package.json".toList <:+ path
  | python, path => ".txt".toList <:+ path ∨ ".pip".toList <:+ path
  | ruby, path => ".gemfile".toList <:+ path ∨ ".gemspec".toList <:+ path ∨
      lastPart path = "Gemfile".toList ∨ lastPart path = "Gemfile.lock".toList
  | java, path => ".gradle".toList <:+ path ∨ ".pom".toList <:+ path ∨
      lastPart path = "pom.xml".toList
  | docker, path => "Dockerfile".toList <:+ path
  | kubernetes, path => ".yaml".toList <:+ path ∨ ".yml".toList <:+ path
  | compose, path => ".yaml".toList <:+ path ∨ ".yml".toList <:+ path
  | actions, path => ".github/workflows/".toList <+: path ∧
      (".yaml".toList <:+ path ∨ ".yml".toList <:+ path)

instance (v : Validator) (path : Text) : Decidable (v.Takes path) :=
  match v with
  | node => inferInstanceAs (Decidable (_ <:+ _))
  | python => inferInstanceAs (Decidable (_ ∨ _))
  | ruby => inferInstanceAs (Decidable (_ ∨ _ ∨ _ ∨ _))
  | java => inferInstanceAs (Decidable (_ ∨ _ ∨ _))
  | docker => inferInstanceAs (Decidable (_ <:+ _))
  | kubernetes => inferInstanceAs (Decidable (_ ∨ _))
  | compose => inferInstanceAs (Decidable (_ ∨ _))
  | actions => inferInstanceAs (Decidable (_ ∧ (_ ∨ _)))

section

variable {path : Text} (hbase : baseName path = lastPart path)

include hbase

theorem takes_node : node.selector.appliesTo path = true ↔ node.Takes path := by
  unfold Takes
  rw [Selector.appliesTo_iff_ends]
  · simp [selector]
  · simp only [selector, List.forall_mem_singleton, List.exists_mem_cons_iff]
    intro h
    exact .inl (suffix_of_literal hbase (by decide) List.suffix_rfl h)

theorem takes_python : python.selector.appliesTo path = true ↔ python.Takes path := by
  unfold Takes
  rw [Selector.appliesTo_iff_ends]
  · simp [selector]
  · intro p hp hm
    refine ⟨".txt".toList, List.mem_cons_self, ?_⟩
    simp only [selector, List.mem_cons, List.not_mem_nil, or_false] at hp
    rcases hp with rfl | rfl | rfl
    · exact suffix_of_literal hbase (by decide) (by decide) hm
    · exact suffix_of_star (a := "requirements/".toList) hbase (by decide) (by decide) hm
    · exact suffix_of_stars (a := "requirements/".toList) hbase (by decide) (by decide) hm

theorem takes_docker : docker.selector.appliesTo path = true ↔ docker.Takes path := by
  unfold Takes
  rw [Selector.appliesTo_iff_ends]
  · simp [selector]
  · intro p hp hm
    refine ⟨"Dockerfile".toList, List.mem_cons_self, ?_⟩
    simp only [selector, List.mem_cons, List.not_mem_nil, or_false] at hp
    rcases hp with rfl | rfl | rfl
    · exact suffix_of_literal hbase (by decide) List.suffix_rfl hm
    · have hslash : "/Dockerfile".toList <:+ path :=
        suffix_of_stars (a := []) hbase (by decide) (by decide) hm
      exact (List.suffix_cons _ _).trans hslash
    · exact suffix_of_literal hbase (by decide) (by decide) hm

theorem takes_kubernetes : kubernetes.selector.appliesTo path = true ↔ kubernetes.Takes path := by
  unfold Takes
  rw [Selector.appliesTo_iff_ends]
  · simp [selector]
  · have hdir {a : Text} (ha : IsLiteral a)
        (hm : matchesPath (a ++ '*' :: ".y{a,}ml".toList) path = true) :
        ∃ e ∈ kubernetes.selector.extensions, e <:+ path := by
      have hbrace : '{' ∉ a ++ ['*'] := by simp [not_mem_of_isLiteral ha]
      rw [List.append_cons, matchesPath_yaml_iff hbrace, ← List.append_cons,
        ← List.append_cons] at hm
      rcases hm with hm | hm
      · exact ⟨_, List.mem_cons_self, suffix_of_star hbase ha (by decide) hm⟩
      · exact ⟨_, List.mem_cons_of_mem _ List.mem_cons_self,
          suffix_of_star hbase ha (by decide) hm⟩
    intro p hp hm
    simp only [selector, List.mem_cons, List.not_mem_nil, or_false] at hp
    rcases hp with rfl | rfl
    · exact hdir (a := "k8s/".toList) (by decide) hm
    · exact hdir (a := "kubernetes/".toList) (by decide) hm

theorem takes_compose : compose.selector.appliesTo path = true ↔ compose.Takes path := by
  unfold Takes
  rw [Selector.appliesTo_iff_ends]
  · simp [selector]
  · intro p hp hm
    obtain rfl := List.mem_singleton.1 hp
    rcases (matchesPath_yaml_iff (a := "docker-compose".toList) (by decide)).1 hm with hm | hm
    · exact ⟨_, List.mem_cons_self, suffix_of_literal hbase (by decide) (by decide) hm⟩
    · exact ⟨_, List.mem_cons_of_mem _ List.mem_cons_self,
        suffix_of_literal hbase (by decide) (by decide) hm⟩

theorem takes_ruby : ruby.selector.appliesTo path = true ↔ ruby.Takes path := by
  have hgemfile := matchesPath_name_iff (l := "Gemfile".toList) hbase (by decide) (by decide)
  have hlock := matchesPath_name_iff (l := "Gemfile.lock".toList) hbase (by decide) (by decide)
  unfold Takes
  rw [Selector.appliesTo_iff]
  simp only [selector, List.exists_mem_cons_iff, List.not_mem_nil, false_and, exists_false,
    or_false, hgemfile, hlock, or_assoc]

theorem takes_java : java.selector.appliesTo path = true ↔ java.Takes path := by
  have hpom := matchesPath_name_iff (l := "pom.xml".toList) hbase (by decide) (by decide)
  unfold Takes
  rw [Selector.appliesTo_iff]
  simp only [selector, List.exists_mem_cons_iff, List.not_mem_nil, false_and, exists_false,
    or_false, hpom]
  constructor
  · rintro ((h | h) | h | h)
    · exact .inl h
    · exact .inr (.inl h)
    · exact .inl (suffix_of_literal hbase (by decide) (by decide) h)
    · exact .inr (.inr h)
  · rintro (h | h | h)
    · exact .inl (.inl h)
    · exact .inl (.inr h)
    · exact .inr (.inr h)

/-- No last part is a workflow, so here only the whole path counts. -/
theorem takes_actions : actions.selector.appliesTo path = true ↔ actions.Takes path := by
  have hyaml {e : Text} (he : IsLiteral e) (hs : '/' ∉ e) :=
    matchesPath_below_iff (a := ".github/workflows/".toList) hbase (by decide) he (by decide) hs
  unfold Takes
  rw [Selector.appliesTo_iff]
  simp only [selector, List.exists_mem_cons_iff, List.not_mem_nil, false_and, exists_false,
    false_or, or_false]
  rw [and_or_left, ← hyaml (e := ".yaml".toList) (by decide) (by decide),
    ← hyaml (e := ".yml".toList) (by decide) (by decide)]
  have hparts : ".github/workflows/*.y{a,}ml".toList =
      ".github/workflows/".toList ++ ['*'] ++ ".y{a,}ml".toList := by decide +kernel
  rw [hparts, List.append_cons, List.append_cons]
  exact matchesPath_yaml_iff (by decide)

theorem appliesTo_iff_takes (v : Validator) : v.selector.appliesTo path = true ↔ v.Takes path := by
  cases v with
  | node => exact takes_node hbase
  | python => exact takes_python hbase
  | ruby => exact takes_ruby hbase
  | java => exact takes_java hbase
  | docker => exact takes_docker hbase
  | kubernetes => exact takes_kubernetes hbase
  | compose => exact takes_compose hbase
  | actions => exact takes_actions hbase

end

/-- A path whose last part is neither empty nor a single point gets the validators that take it, in
the order of the table, and no others. -/
theorem a_path_gets_what_takes_it {path : Text} (hne : lastPart path ≠ [])
    (hpoint : lastPart path ≠ ['.']) :
    forPath path = [node, python, ruby, java, docker, kubernetes, compose, actions].filter
      (fun v => decide (v.Takes path)) := by
  have hbase := baseName_of_lastPart hne hpoint
  unfold forPath all
  apply List.filter_congr
  intro v _
  rw [Bool.eq_iff_iff, decide_eq_true_iff]
  exact appliesTo_iff_takes hbase v

/-- A workflow in a directory of another workflow's name, and one that lies elsewhere. -/
theorem workflows_are_told_by_the_whole_path :
    let inside := ".github/workflows/a.yml/deep\n.yaml".toList
    let outside := "src/.github/workflows/ci.yml".toList
    lastPart inside ≠ [] ∧ lastPart inside ≠ ['.'] ∧
      forPath inside = [kubernetes, compose, actions] ∧
      lastPart outside ≠ [] ∧ lastPart outside ≠ ['.'] ∧
      forPath outside = [kubernetes, compose] := by
  intro inside outside
  have hinside : lastPart inside ≠ [] ∧ lastPart inside ≠ ['.'] := by decide
  have houtside : lastPart outside ≠ [] ∧ lastPart outside ≠ ['.'] := by decide
  refine ⟨hinside.1, hinside.2, ?_, houtside.1, houtside.2, ?_⟩
  · rw [a_path_gets_what_takes_it hinside.1 hinside.2]
    decide
  · rw [a_path_gets_what_takes_it houtside.1 houtside.2]
    decide

end Validator

end PinGate
