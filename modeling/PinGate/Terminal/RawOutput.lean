-- Raw output: text on lines of its own, for an output that is no terminal. The commands to one are
-- left out of it, and that is all that the writing package changes. How the output is taken down
-- changes one thing more: there a carriage return in front of a line feed is part of the line end.
import PinGate.Text.Lines

namespace PinGate.Terminal

open Text

/-! ## Commands to a terminal -/

/-- The characters of the parameters of a terminal command: digits and the signs from `:` to `?`. -/
def isParameter (c : Char) : Bool := '0' ≤ c && c ≤ '?'

/-- The characters that may stand between the parameters of a command and its end: a blank and the
signs from `!` to `/`. -/
def isIntermediate (c : Char) : Bool := ' ' ≤ c && c ≤ '/'

/-- The characters of which one ends a command: letters and the signs from `@` to `~` around them. -/
def isFinal (c : Char) : Bool := '@' ≤ c && c ≤ '~'

/-- What follows a terminal command, when the text starts with its parameters. -/
def dropCommand? (s : Text) : Option Text :=
  dropOne? isFinal ((s.dropWhile isParameter).dropWhile isIntermediate)

theorem length_of_dropCommand? {s r : Text} (h : dropCommand? s = some r) :
    r.length < s.length := by
  have h1 := length_of_dropOne? h
  have h2 := length_dropWhile_le isIntermediate (s.dropWhile isParameter)
  have h3 := length_dropWhile_le isParameter s
  omega

/-- The text without commands to the terminal. A command is an escape, a bracket, parameters, what
may stand behind them, and an end; what begins as a command and has no end stays. -/
def dropCommands (s : Text) : Text :=
  match s with
  | [] => []
  | '\x1b' :: '[' :: r =>
    match _h : dropCommand? r with
    | some rest => dropCommands rest
    | none => '\x1b' :: dropCommands ('[' :: r)
  | c :: r => c :: dropCommands r
termination_by s.length
decreasing_by
  · have := length_of_dropCommand? _h
    simp only [List.length_cons]
    omega
  · simp
  · simp

/-- A text on lines of its own: the writing package drops the commands to a terminal, and the taking
down of the output drops each carriage return in front of a line feed. -/
def echo (s : Text) : Text := dropReturns (dropCommands (s ++ ['\n']))

/-! ## What is kept -/

/-- Whether a text holds nothing that raw output may change. -/
def IsPlain (s : Text) : Prop := ∀ c ∈ s, c ≠ '\x1b' ∧ c ≠ '\r'

-- Named outright: a search for it may find one that goes through all characters.
instance : DecidablePred IsPlain := fun s =>
  List.decidableBAll (fun c => c ≠ '\x1b' ∧ c ≠ '\r') s

theorem isPlain_append {a b : Text} (ha : IsPlain a) (hb : IsPlain b) : IsPlain (a ++ b) :=
  List.forall_mem_append.2 ⟨ha, hb⟩

/-- No printing character is changed. -/
theorem isPlain_singleton {c : Char} (h : 0x20 ≤ c.toNat) : IsPlain [c] := by
  intro d hd
  obtain rfl := List.mem_singleton.1 hd
  constructor
  · rintro rfl
    exact absurd h (by decide)
  · rintro rfl
    exact absurd h (by decide)

theorem dropCommands_cons {c : Char} (h : c ≠ '\x1b') (s : Text) :
    dropCommands (c :: s) = c :: dropCommands s := by
  rw [dropCommands]
  rintro _ rfl
  exact absurd rfl h

theorem dropReturns_cons {c : Char} (h : c ≠ '\r') (s : Text) :
    dropReturns (c :: s) = c :: dropReturns s := by
  rw [dropReturns]
  rintro _ rfl
  exact absurd rfl h

theorem dropReturns_dropCommands_append {a : Text} (h : IsPlain a) (s : Text) :
    dropReturns (dropCommands (a ++ s)) = a ++ dropReturns (dropCommands s) := by
  induction a with
  | nil => rfl
  | cons c a ih =>
    have hc := h c List.mem_cons_self
    have ha := ih fun d hd => h d (List.mem_cons_of_mem c hd)
    rw [List.cons_append, dropCommands_cons hc.1, dropReturns_cons hc.2, ha, List.cons_append]

/-- Plain text in front is shown as it is. -/
theorem echo_append {a : Text} (h : IsPlain a) (s : Text) : echo (a ++ s) = a ++ echo s := by
  unfold echo
  rw [List.append_assoc, dropReturns_dropCommands_append h]

theorem echo_nil : echo [] = ['\n'] := by
  unfold echo
  rw [List.nil_append, dropCommands_cons (by decide), dropReturns_cons (by decide)]
  simp [dropCommands, dropReturns]

/-! ## Lines -/

variable {s r : Text} {p : Char → Bool}

theorem dropOne?_append (h : p '\n' = false) (s b : Text) :
    dropOne? p (s ++ '\n' :: b) = (dropOne? p s).map (· ++ '\n' :: b) := by
  cases s with
  | nil => simp [dropOne?, h]
  | cons c s => by_cases hc : p c = true <;> simp [dropOne?, hc]

/-- A command to the terminal stays on its line. -/
theorem dropCommand?_append (s b : Text) :
    dropCommand? (s ++ '\n' :: b) = (dropCommand? s).map (· ++ '\n' :: b) := by
  unfold dropCommand?
  rw [dropWhile_append_stop (by decide), dropWhile_append_stop (by decide),
    dropOne?_append (by decide)]

theorem dropCommands_append (s b : Text) :
    dropCommands (s ++ '\n' :: b) = dropCommands s ++ '\n' :: dropCommands b := by
  induction s using dropCommands.induct with
  | case1 =>
    rw [List.nil_append, dropCommands_cons (by decide)]
    simp [dropCommands]
  | case2 r rest hr ih =>
    have hb : dropCommand? (r ++ '\n' :: b) = some (rest ++ '\n' :: b) := by
      rw [dropCommand?_append, hr, Option.map_some]
    rw [List.cons_append, List.cons_append, dropCommands, hb, dropCommands, hr]
    exact ih
  | case3 r hr ih =>
    have hb : dropCommand? (r ++ '\n' :: b) = none := by
      rw [dropCommand?_append, hr, Option.map_none]
    rw [List.cons_append, List.cons_append, dropCommands, hb, dropCommands, hr]
    exact congrArg ('\x1b' :: ·) ih
  | case4 c r hc ih =>
    have hb : ∀ r', c = '\x1b' → r ++ '\n' :: b = '[' :: r' → False := by
      rintro r' hesc happend
      cases r with
      | nil => cases happend
      | cons d r =>
        obtain ⟨rfl, -⟩ := List.cons.inj happend
        exact hc r hesc rfl
    rw [List.cons_append, dropCommands.eq_3 c _ hb, dropCommands.eq_3 c r hc, ih, List.cons_append]

theorem dropCommand?_subset (h : dropCommand? s = some r) : r ⊆ s := by
  intro c hc
  have hone : c ∈ (s.dropWhile isParameter).dropWhile isIntermediate := by
    unfold dropCommand? at h
    cases hs : (s.dropWhile isParameter).dropWhile isIntermediate with
    | nil => simp [hs, dropOne?] at h
    | cons d t =>
      by_cases hd : isFinal d = true
      · obtain rfl : t = r := by simpa [hs, dropOne?, hd] using h
        exact List.mem_cons_of_mem d hc
      · simp [hs, dropOne?, hd] at h
  exact (List.dropWhile_sublist _).subset ((List.dropWhile_sublist _).subset hone)

theorem dropCommands_subset (s : Text) : dropCommands s ⊆ s := by
  induction s using dropCommands.induct with
  | case1 => simp [dropCommands]
  | case2 r rest hr ih =>
    rw [dropCommands, hr]
    intro c hc
    exact List.mem_cons_of_mem _ (List.mem_cons_of_mem _ (dropCommand?_subset hr (ih hc)))
  | case3 r hr ih =>
    rw [dropCommands, hr]
    exact List.cons_subset_cons _ ih
  | case4 c r hc ih =>
    rw [dropCommands.eq_3 c r hc]
    exact List.cons_subset_cons _ ih

theorem dropReturns_append (h : '\n' ∉ s) :
    ∃ t, '\n' ∉ t ∧ dropReturns (s ++ ['\n']) = t ++ ['\n'] := by
  induction s with
  | nil => exact ⟨[], List.not_mem_nil, rfl⟩
  | cons c s ih =>
    obtain ⟨hc, hs⟩ := not_or.1 (mt List.mem_cons.2 h)
    obtain ⟨t, ht, hdrop⟩ := ih hs
    cases s with
    | nil =>
      by_cases hreturn : c = '\r'
      · subst hreturn
        exact ⟨[], List.not_mem_nil, rfl⟩
      · refine ⟨[c], by simpa using hc, ?_⟩
        rw [List.singleton_append, dropReturns_cons hreturn]
        rfl
    | cons d s =>
      have hnext : ∀ r, c = '\r' → (d :: s) ++ ['\n'] = '\n' :: r → False := by
        rintro r - happend
        obtain ⟨rfl, -⟩ := List.cons.inj happend
        exact hs List.mem_cons_self
      refine ⟨c :: t, ?_, ?_⟩
      · simp only [List.mem_cons, not_or]
        exact ⟨hc, ht⟩
      · rw [List.cons_append, dropReturns.eq_3 c _ hnext, hdrop, List.cons_append]

/-- What holds no line feed is shown on one line. -/
theorem echo_of_not_mem (h : '\n' ∉ s) : ∃ t, '\n' ∉ t ∧ echo s = t ++ ['\n'] := by
  have hcommands : '\n' ∉ dropCommands s := fun hmem => h (dropCommands_subset s hmem)
  have hend : dropCommands (s ++ ['\n']) = dropCommands s ++ ['\n'] := by
    rw [dropCommands_append]
    simp [dropCommands]
  unfold echo
  rw [hend]
  exact dropReturns_append hcommands

end PinGate.Terminal
