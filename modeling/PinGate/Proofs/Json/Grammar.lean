-- The rules of JSON, as a relation between a text and the value it starts with. Whole numbers have
-- no bound, and the words that are numbers to the reader are none here. No text has two readings.
import PinGate.Json.Reader

namespace PinGate.Json

open Text

/-! ## Scalars -/

/-- The value of a string. -/
def stringValue (points : List Nat) : Value :=
  if points.any isSurrogate then .unpaired points else .string (textOf points)

/-- The number that starts a text behind its sign, and what follows. -/
def readMagnitude? (negative : Bool) (s : Text) : Option (Value × Text) := do
  let (whole, behindWhole) ← readWhole? s
  let fraction := readFraction? behindWhole
  let behindFraction := (fraction.map Prod.snd).getD behindWhole
  let exponent := readExponent? behindFraction
  let r := (exponent.map Prod.snd).getD behindFraction
  if fraction.isNone && exponent.isNone then
    return (.int (if negative then -(numberOf whole : Int) else numberOf whole), r)
  else
    let places := (fraction.map Prod.fst).getD []
    let shift := (exponent.map Prod.fst).getD 0 - places.length
    return (.real (.ofDecimal negative (numberOf (whole ++ places)) shift), r)

/-- The value that starts a text and holds no others, and what follows. -/
def readScalar? : Text → Option (Value × Text)
  | '"' :: s => (readString? s).map fun (points, r) => (stringValue points, r)
  | 'n' :: s => (dropPrefix? "ull".toList s).map (.null, ·)
  | 't' :: s => (dropPrefix? "rue".toList s).map (.bool true, ·)
  | 'f' :: s => (dropPrefix? "alse".toList s).map (.bool false, ·)
  | '-' :: s => readMagnitude? true s
  | s => readMagnitude? false s

/-! ## The rules -/

mutual

/-- A text starts with a value, perhaps behind blanks, and goes on with the rest. -/
inductive Reads : Text → Value → Text → Prop where
  | scalar {s r : Text} {v : Value} (h : readScalar? (skipSpace s) = some (v, r)) : Reads s v r
  | emptyArray {s t r : Text} (hopen : skipSpace s = '[' :: t) (hclose : skipSpace t = ']' :: r) :
    Reads s (.array []) r
  | array {s t r : Text} {vs : List Value} (hopen : skipSpace s = '[' :: t)
    (hitems : ReadsItems t vs r) : Reads s (.array vs) r
  | emptyObject {s t r : Text} (hopen : skipSpace s = '\x7b' :: t)
    (hclose : skipSpace t = '\x7d' :: r) : Reads s (.object []) r
  | object {s t r : Text} {ms : List (Text × Value)} (hopen : skipSpace s = '\x7b' :: t)
    (hmembers : ReadsMembers t ms r) : Reads s (.object ms) r

/-- The items of an array, one at least, up to its closing bracket. -/
inductive ReadsItems : Text → List Value → Text → Prop where
  | last {s t r : Text} {v : Value} (hv : Reads s v t) (hclose : skipSpace t = ']' :: r) :
    ReadsItems s [v] r
  | more {s t u r : Text} {v : Value} {vs : List Value} (hv : Reads s v t)
    (hcomma : skipSpace t = ',' :: u) (hvs : ReadsItems u vs r) : ReadsItems s (v :: vs) r

/-- One member of an object: its name, a colon, and its value. -/
inductive ReadsMember : Text → Text × Value → Text → Prop where
  | mk {s t u w r : Text} {points : List Nat} {v : Value} (hopen : skipSpace s = '"' :: t)
    (hname : readString? t = some (points, u)) (htext : points.any isSurrogate = false)
    (hcolon : skipSpace u = ':' :: w) (hv : Reads w v r) : ReadsMember s (textOf points, v) r

/-- The members of an object, one at least, up to its closing brace. -/
inductive ReadsMembers : Text → List (Text × Value) → Text → Prop where
  | last {s t r : Text} {m : Text × Value} (hm : ReadsMember s m t)
    (hclose : skipSpace t = '\x7d' :: r) : ReadsMembers s [m] r
  | more {s t u r : Text} {m : Text × Value} {ms : List (Text × Value)} (hm : ReadsMember s m t)
    (hcomma : skipSpace t = ',' :: u) (hms : ReadsMembers u ms r) : ReadsMembers s (m :: ms) r

end

/-- A document is a value and blanks around it, and nothing else. -/
def Decodes (document : Text) (v : Value) : Prop := ∃ r, Reads document v r ∧ skipSpace r = []

/-! ## No text has two readings -/

/-- The signs that no scalar starts with. -/
theorem readScalar?_of_sign {c : Char} (h : c ∈ ['[', ']', '\x7b', '\x7d']) (s : Text) :
    readScalar? (c :: s) = none := by
  simp only [List.mem_cons, List.not_mem_nil, or_false] at h
  rcases h with rfl | rfl | rfl | rfl
  · rfl
  · rfl
  · rfl
  · rfl

section

variable {s t r : Text} {v : Value} {c : Char}

/-- Nothing but an array starts with a bracket. -/
theorem Reads.of_bracket (h : Reads s v r) (hs : skipSpace s = '[' :: t) :
    (v = .array [] ∧ skipSpace t = ']' :: r) ∨ ∃ vs, v = .array vs ∧ ReadsItems t vs r := by
  cases h with
  | scalar h => rw [hs, readScalar?_of_sign (by decide)] at h; cases h
  | emptyArray hopen hclose =>
    cases hs.symm.trans hopen
    exact .inl ⟨rfl, hclose⟩
  | array hopen hitems =>
    cases hs.symm.trans hopen
    exact .inr ⟨_, rfl, hitems⟩
  | emptyObject hopen _ => cases hs.symm.trans hopen
  | object hopen _ => cases hs.symm.trans hopen

/-- Nothing but an object starts with a brace. -/
theorem Reads.of_brace (h : Reads s v r) (hs : skipSpace s = '\x7b' :: t) :
    (v = .object [] ∧ skipSpace t = '\x7d' :: r) ∨ ∃ ms, v = .object ms ∧ ReadsMembers t ms r := by
  cases h with
  | scalar h => rw [hs, readScalar?_of_sign (by decide)] at h; cases h
  | emptyArray hopen _ => cases hs.symm.trans hopen
  | array hopen _ => cases hs.symm.trans hopen
  | emptyObject hopen hclose =>
    cases hs.symm.trans hopen
    exact .inl ⟨rfl, hclose⟩
  | object hopen hmembers =>
    cases hs.symm.trans hopen
    exact .inr ⟨_, rfl, hmembers⟩

/-- What starts like a scalar is read as one. -/
theorem Reads.of_scalar {u : Text} {w : Value} (h : Reads s v r)
    (hs : readScalar? (skipSpace s) = some (w, u)) : v = w ∧ r = u := by
  cases h with
  | scalar h =>
    cases h.symm.trans hs
    exact ⟨rfl, rfl⟩
  | emptyArray hopen _ => rw [hopen, readScalar?_of_sign (by decide)] at hs; cases hs
  | array hopen _ => rw [hopen, readScalar?_of_sign (by decide)] at hs; cases hs
  | emptyObject hopen _ => rw [hopen, readScalar?_of_sign (by decide)] at hs; cases hs
  | object hopen _ => rw [hopen, readScalar?_of_sign (by decide)] at hs; cases hs

/-- No value starts with a closing bracket. -/
theorem not_reads_of_closing (hs : skipSpace s = ']' :: t) : ¬ Reads s v r := by
  intro h
  cases h with
  | scalar h => rw [hs, readScalar?_of_sign (by decide)] at h; cases h
  | emptyArray hopen _ => cases hs.symm.trans hopen
  | array hopen _ => cases hs.symm.trans hopen
  | emptyObject hopen _ => cases hs.symm.trans hopen
  | object hopen _ => cases hs.symm.trans hopen

theorem not_readsItems_of_closing {vs : List Value} (hs : skipSpace s = ']' :: t) :
    ¬ ReadsItems s vs r := by
  intro h
  cases h with
  | last hv _ => exact not_reads_of_closing hs hv
  | more hv _ _ => exact not_reads_of_closing hs hv

theorem not_readsMember_of_closing {m : Text × Value} (hs : skipSpace s = '\x7d' :: t) :
    ¬ ReadsMember s m r := by
  rintro ⟨hopen, -, -, -, -⟩
  cases hs.symm.trans hopen

theorem not_readsMembers_of_closing {ms : List (Text × Value)} (hs : skipSpace s = '\x7d' :: t) :
    ¬ ReadsMembers s ms r := by
  intro h
  cases h with
  | last hm _ => exact not_readsMember_of_closing hs hm
  | more hm _ _ => exact not_readsMember_of_closing hs hm

end

mutual

theorem Reads.unique {s r r' : Text} {v v' : Value} (h : Reads s v r) (h' : Reads s v' r') :
    v' = v ∧ r' = r := by
  match h with
  | .scalar hv => exact h'.of_scalar hv
  | .emptyArray hopen hclose =>
    rcases h'.of_bracket hopen with ⟨rfl, hclose'⟩ | ⟨vs, -, hitems⟩
    · exact ⟨rfl, (List.cons.inj (hclose'.symm.trans hclose)).2⟩
    · exact absurd hitems (not_readsItems_of_closing hclose)
  | .array hopen hitems =>
    rcases h'.of_bracket hopen with ⟨rfl, hclose'⟩ | ⟨vs, rfl, hitems'⟩
    · exact absurd hitems (not_readsItems_of_closing hclose')
    · obtain ⟨rfl, rfl⟩ := hitems.unique hitems'
      exact ⟨rfl, rfl⟩
  | .emptyObject hopen hclose =>
    rcases h'.of_brace hopen with ⟨rfl, hclose'⟩ | ⟨vs, -, hmembers⟩
    · exact ⟨rfl, (List.cons.inj (hclose'.symm.trans hclose)).2⟩
    · exact absurd hmembers (not_readsMembers_of_closing hclose)
  | .object hopen hmembers =>
    rcases h'.of_brace hopen with ⟨rfl, hclose'⟩ | ⟨ms, rfl, hmembers'⟩
    · exact absurd hmembers (not_readsMembers_of_closing hclose')
    · obtain ⟨rfl, rfl⟩ := hmembers.unique hmembers'
      exact ⟨rfl, rfl⟩

theorem ReadsItems.unique {s r r' : Text} {vs vs' : List Value} (h : ReadsItems s vs r)
    (h' : ReadsItems s vs' r') : vs' = vs ∧ r' = r := by
  match h, h' with
  | .last hv hclose, .last hv' hclose' =>
    obtain ⟨rfl, rfl⟩ := hv.unique hv'
    exact ⟨rfl, (List.cons.inj (hclose'.symm.trans hclose)).2⟩
  | .last hv hclose, .more hv' hcomma' _ =>
    obtain ⟨rfl, rfl⟩ := hv.unique hv'
    cases hclose.symm.trans hcomma'
  | .more hv hcomma _, .last hv' hclose' =>
    obtain ⟨rfl, rfl⟩ := hv.unique hv'
    cases hcomma.symm.trans hclose'
  | .more hv hcomma hvs, .more hv' hcomma' hvs' =>
    obtain ⟨rfl, rfl⟩ := hv.unique hv'
    cases hcomma.symm.trans hcomma'
    obtain ⟨rfl, rfl⟩ := hvs.unique hvs'
    exact ⟨rfl, rfl⟩

theorem ReadsMember.unique {s r r' : Text} {m m' : Text × Value} (h : ReadsMember s m r)
    (h' : ReadsMember s m' r') : m' = m ∧ r' = r := by
  match h, h' with
  | .mk hopen hname _ hcolon hv, .mk hopen' hname' _ hcolon' hv' =>
    cases hopen.symm.trans hopen'
    cases hname.symm.trans hname'
    cases hcolon.symm.trans hcolon'
    obtain ⟨rfl, rfl⟩ := hv.unique hv'
    exact ⟨rfl, rfl⟩

theorem ReadsMembers.unique {s r r' : Text} {ms ms' : List (Text × Value)}
    (h : ReadsMembers s ms r) (h' : ReadsMembers s ms' r') : ms' = ms ∧ r' = r := by
  match h, h' with
  | .last hm hclose, .last hm' hclose' =>
    obtain ⟨rfl, rfl⟩ := hm.unique hm'
    exact ⟨rfl, (List.cons.inj (hclose'.symm.trans hclose)).2⟩
  | .last hm hclose, .more hm' hcomma' _ =>
    obtain ⟨rfl, rfl⟩ := hm.unique hm'
    cases hclose.symm.trans hcomma'
  | .more hm hcomma _, .last hm' hclose' =>
    obtain ⟨rfl, rfl⟩ := hm.unique hm'
    cases hcomma.symm.trans hclose'
  | .more hm hcomma hms, .more hm' hcomma' hms' =>
    obtain ⟨rfl, rfl⟩ := hm.unique hm'
    cases hcomma.symm.trans hcomma'
    obtain ⟨rfl, rfl⟩ := hms.unique hms'
    exact ⟨rfl, rfl⟩

end

theorem Decodes.unique {document : Text} {v v' : Value} (h : Decodes document v)
    (h' : Decodes document v') : v' = v := by
  obtain ⟨r, hr, -⟩ := h
  obtain ⟨r', hr', -⟩ := h'
  exact (hr.unique hr').1

end PinGate.Json
