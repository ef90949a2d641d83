-- What an event names. A payload of the usual shape names the number and the repository, or it is
-- refused; owner and name are taken together, from the payload or from the text given beside it.
import PinGate.Proofs.Text.Search
import PinGate.PullRequest

namespace PinGate

open Text Json

namespace Event

/-! ## The parts of an event -/

/-- The value of a member; null where there is none. -/
def part (name : String) : Value → Value
  | .object members => lookUp name.toList members
  | _ => .null

/-- The number that an event gives itself, or else the one in the part about the pull request. -/
def givenNumber (event : Value) : Value :=
  if (part "number" event).isPresent then part "number" event
  else part "number" (part "pull_request" event)

/-- The owner that an event gives. -/
def givenOwner (event : Value) : Value := part "login" (part "owner" (part "repository" event))

/-- The name of the repository that an event gives. -/
def givenName (event : Value) : Value := part "name" (part "repository" event)

/-- Whether a value has members, if it counts as present. -/
def IsPart (v : Value) : Prop := v.isPresent = true → v.kind = .object

/-- Whether a value is a text, if it counts as present. -/
def IsText (v : Value) : Prop := v.isPresent = true → ∃ s, v = .string s

/-- Whether a value is a whole number, if it counts as present. -/
def IsNumber (v : Value) : Prop := v.isPresent = true → ∃ n, v = .int n

/-- An event of which all that is looked at has the kind that it should have, or is absent. -/
structure IsPayload (event : Value) : Prop where
  members : event.kind = .object
  pull_request : IsPart (part "pull_request" event)
  repository : IsPart (part "repository" event)
  owner : IsPart (part "owner" (part "repository" event))
  login : IsText (givenOwner event)
  name : IsText (givenName event)
  number : IsNumber (part "number" event)
  pull_number : IsNumber (part "number" (part "pull_request" event))

/-! ## Members -/

variable {name : String} {v u event : Value} {fallback : Option Text}

theorem member_of_object (h : v.kind = .object) : member name v = .ok (part name v) := by
  cases v with
  | object members => rfl
  | _ => cases h

theorem eq_part_of_member (h : member name v = .ok u) : u = part name v := by
  cases v with
  | object members => exact (Except.ok.inj h).symm
  | _ => cases h

/-- What does not count as present has no member that is not null. -/
theorem part_of_not_present (h : v.isPresent = false) : part name v = .null := by
  cases v with
  | object members =>
    obtain rfl : members = [] := by simpa [Value.isPresent] using h
    rfl
  | _ => rfl

theorem memberOf_of_isPart (h : IsPart v) : memberOf name v = .ok (part name v) := by
  unfold memberOf
  split
  · next hv => exact member_of_object (h hv)
  · next hv => rw [part_of_not_present (by simpa using hv)]

theorem eq_part_of_memberOf (h : memberOf name v = .ok u) : u = part name v := by
  unfold memberOf at h
  split at h
  · exact eq_part_of_member h
  · next hv =>
    rw [part_of_not_present (by simpa using hv)]
    exact (Except.ok.inj h).symm

/-- What comes to something came to something at every step. -/
theorem bind_eq_ok {α β : Type} {x : Except Error α} {f : α → Except Error β} {b : β}
    (h : (x >>= f) = .ok b) : ∃ a, x = .ok a ∧ f a = .ok b := by
  cases x with
  | ok a => exact ⟨a, rfl, h⟩
  | error e => cases h

/-! ## Numbers and repositories -/

theorem numberOf_of_isPayload (h : IsPayload event) : numberOf event =
    if (givenNumber event).isPresent then .ok (givenNumber event) else .error .noNumber := by
  unfold numberOf givenNumber
  rw [member_of_object h.members, member_of_object h.members]
  by_cases hn : (part "number" event).isPresent = true
  · simp [hn, bind, Except.bind, pure, Except.pure]
  · simp [hn, bind, Except.bind, pure, Except.pure, memberOf_of_isPart h.pull_request]

/-- Whether an event gives both an owner and a name. -/
def GivesRepository (event : Value) : Prop :=
  (givenOwner event).isPresent = true ∧ (givenName event).isPresent = true

/-- Whether a text beside the event gives an owner and a name, joined by the first slash in it. -/
def NamesRepository (fallback : Option Text) (owner name : Text) : Prop :=
  fallback = some (owner ++ '/' :: name) ∧ '/' ∉ owner ∧ owner ≠ [] ∧ name ≠ []

theorem splitOnce?_eq_some_iff_joined {owner name : Text} :
    fallback.bind (splitOnce? '/') = some (owner, name) ↔
      fallback = some (owner ++ '/' :: name) ∧ '/' ∉ owner := by
  rw [Option.bind_eq_some_iff]
  simp only [splitOnce?_eq_some_iff]
  constructor
  · rintro ⟨_, rfl, howner, rfl⟩
    exact ⟨rfl, howner⟩
  · rintro ⟨rfl, howner⟩
    exact ⟨_, rfl, howner, rfl⟩

/-- The repository that the text beside an event gives, if the event gives none. -/
def fallbackRepository (fallback : Option Text) : Except Error (Value × Value) :=
  match fallback.bind (splitOnce? '/') with
  | some (owner, name) =>
    if owner.isEmpty || name.isEmpty then .error .noRepository
    else .ok (.string owner, .string name)
  | none => .error .noRepository

theorem fallbackRepository_of_named {owner name : Text} (h : NamesRepository fallback owner name) :
    fallbackRepository fallback = .ok (.string owner, .string name) := by
  obtain ⟨hsplit, hslash, howner, hname⟩ := h
  unfold fallbackRepository
  rw [splitOnce?_eq_some_iff_joined.2 ⟨hsplit, hslash⟩]
  simp [howner, hname]

theorem fallbackRepository_of_none (h : ∀ owner name, ¬ NamesRepository fallback owner name) :
    fallbackRepository fallback = .error .noRepository := by
  unfold fallbackRepository
  cases hs : fallback.bind (splitOnce? '/') with
  | none => rfl
  | some p =>
    obtain ⟨owner, name⟩ := p
    obtain ⟨hsplit, hslash⟩ := splitOnce?_eq_some_iff_joined.1 hs
    have hempty : owner = [] ∨ name = [] := by
      by_contra hne
      rw [not_or] at hne
      exact h owner name ⟨hsplit, hslash, hne⟩
    rcases hempty with rfl | rfl <;> simp

theorem exists_named_of_ok {p : Value × Value} (h : fallbackRepository fallback = .ok p) :
    ∃ owner name, NamesRepository fallback owner name ∧ p = (.string owner, .string name) := by
  by_contra hnone
  by_cases hany : ∃ owner name, NamesRepository fallback owner name
  · obtain ⟨owner, name, hf⟩ := hany
    rw [fallbackRepository_of_named hf] at h
    exact hnone ⟨owner, name, hf, (Except.ok.inj h).symm⟩
  · rw [fallbackRepository_of_none (by simpa using hany)] at h
    cases h

theorem repositoryOf_of_isPayload (h : IsPayload event) : repositoryOf event fallback =
    if (givenOwner event).isPresent && (givenName event).isPresent then
      .ok (givenOwner event, givenName event)
    else fallbackRepository fallback := by
  unfold repositoryOf givenOwner givenName
  rw [member_of_object h.members]
  simp only [bind, Except.bind, pure, Except.pure, memberOf_of_isPart h.repository,
    memberOf_of_isPart h.owner]
  rfl

/-- What is found is the event's own, or the fallback's. -/
theorem repositoryOf_cases {p : Value × Value} (h : repositoryOf event fallback = .ok p) :
    (GivesRepository event ∧ p = (givenOwner event, givenName event)) ∨
      fallbackRepository fallback = .ok p := by
  unfold repositoryOf at h
  obtain ⟨repository, hrepository, h⟩ := bind_eq_ok h
  obtain ⟨part, hpart, h⟩ := bind_eq_ok h
  obtain ⟨owner, howner, h⟩ := bind_eq_ok h
  obtain ⟨name, hname, h⟩ := bind_eq_ok h
  obtain rfl := eq_part_of_member hrepository
  obtain rfl := eq_part_of_memberOf hpart
  obtain rfl := eq_part_of_memberOf howner
  obtain rfl := eq_part_of_memberOf hname
  split at h
  · next hgives =>
    rw [Bool.and_eq_true] at hgives
    exact .inl ⟨hgives, (Except.ok.inj h).symm⟩
  · exact .inr h

/-! ## Pull requests -/

variable {records : RecordCheck} {owner : Text} {n : Int} {w : Workspace} {path : Option Text}
  {pr : PullRequest}

theorem mapError_eq_ok {ε δ α : Type} {f : ε → δ} {x : Except ε α} {a : α}
    (h : x.mapError f = .ok a) : x = .ok a := by
  cases x with
  | ok b => exact congrArg Except.ok (Except.ok.inj h)
  | error e => cases h

theorem pullRequest_of_ok {name : Text} (hn : numberOf event = .ok (.int n))
    (hr : repositoryOf event fallback = .ok (.string owner, .string name)) :
    pullRequest records event fallback = .ok ⟨owner, name, n⟩ := by
  let fields := PullRequest.record (.string owner) (.string name) n
  have htaken : (records.pullRequest fields).mapError Error.fields = .ok ⟨owner, name, n⟩ := by
    rw [records.takes_texts]
    rfl
  unfold pullRequest
  rw [hn, hr]
  exact htaken

theorem pullRequest_of_error {e : Error} (hn : numberOf event = .ok u)
    (hr : repositoryOf event fallback = .error e) :
    pullRequest records event fallback = .error e := by
  unfold pullRequest
  rw [hn, hr]
  rfl

theorem load_of_document (h : document w path = .ok event) :
    load records w path fallback = pullRequest records event fallback := by
  unfold load
  rw [h]
  rfl

/-! ## The law -/

/-- What is answered for an event and the text beside it: the cases leave nothing open when the
event is a payload. -/
structure Answers (event : Value) (fallback : Option Text) (r : Except Error PullRequest) :
    Prop where
  no_number : (givenNumber event).isPresent = false → r = .error .noNumber
  from_event : ∀ n owner name, givenNumber event = .int n → n ≠ 0 →
    givenOwner event = .string owner → owner ≠ [] → givenName event = .string name → name ≠ [] →
      r = .ok ⟨owner, name, n⟩
  from_fallback : ∀ n owner name, givenNumber event = .int n → n ≠ 0 → ¬ GivesRepository event →
    NamesRepository fallback owner name →
      r = .ok ⟨owner, name, n⟩ ∧ fallback = some (PullRequest.slug ⟨owner, name, n⟩)
  no_repository : ∀ n, givenNumber event = .int n → n ≠ 0 → ¬ GivesRepository event →
    (∀ owner name, ¬ NamesRepository fallback owner name) → r = .error .noRepository

theorem numberOf_of_int (h : IsPayload event) (hn : givenNumber event = .int n) (hne : n ≠ 0) :
    numberOf event = .ok (.int n) := by
  rw [numberOf_of_isPayload h, hn, if_pos]
  simpa [Value.isPresent] using hne

theorem repositoryOf_of_not_gives (h : IsPayload event) (hg : ¬ GivesRepository event) :
    repositoryOf event fallback = fallbackRepository fallback := by
  rw [repositoryOf_of_isPayload h, if_neg]
  rwa [Bool.and_eq_true]

theorem answers_pullRequest (h : IsPayload event) :
    Answers event fallback (pullRequest records event fallback) where
  no_number := by
    intro hn
    unfold pullRequest
    rw [numberOf_of_isPayload h, hn]
    rfl
  from_event := by
    intro n owner name hn hne ho hone hname hnne
    refine pullRequest_of_ok (numberOf_of_int h hn hne) ?_
    rw [repositoryOf_of_isPayload h, ho, hname, if_pos]
    simp [Value.isPresent, hone, hnne]
  from_fallback := by
    intro n owner name hn hne hg hf
    refine ⟨pullRequest_of_ok (numberOf_of_int h hn hne) ?_, hf.1⟩
    rw [repositoryOf_of_not_gives h hg, fallbackRepository_of_named hf]
  no_repository := by
    intro n hn hne hg hf
    refine pullRequest_of_error (numberOf_of_int h hn hne) ?_
    rw [repositoryOf_of_not_gives h hg, fallbackRepository_of_none hf]

theorem isPresent_string_iff {s : Text} : (Value.string s).isPresent = true ↔ s ≠ [] := by
  simp [Value.isPresent]

theorem exists_givenNumber (h : IsPayload event) (hn : (givenNumber event).isPresent = true) :
    ∃ n, givenNumber event = .int n ∧ n ≠ 0 := by
  have hint : ∃ n, givenNumber event = .int n := by
    unfold givenNumber at hn ⊢
    split at hn
    · next htop => rw [if_pos htop]; exact h.number htop
    · next htop => rw [if_neg htop]; exact h.pull_number hn
  obtain ⟨n, hint⟩ := hint
  rw [hint] at hn
  exact ⟨n, hint, by simpa [Value.isPresent] using hn⟩

theorem exists_givenRepository (h : IsPayload event) (hg : GivesRepository event) :
    ∃ owner name, givenOwner event = .string owner ∧ owner ≠ [] ∧
      givenName event = .string name ∧ name ≠ [] := by
  obtain ⟨owner, howner⟩ := h.login hg.1
  obtain ⟨name, hname⟩ := h.name hg.2
  rw [GivesRepository, howner, hname, isPresent_string_iff, isPresent_string_iff] at hg
  exact ⟨owner, name, howner, hg.1, hname, hg.2⟩

/-- Of a payload nothing is left open. -/
theorem Answers.unique {r s : Except Error PullRequest} (h : IsPayload event)
    (hr : Answers event fallback r) (hs : Answers event fallback s) : r = s := by
  by_cases hn : (givenNumber event).isPresent = true
  · obtain ⟨n, hint, hne⟩ := exists_givenNumber h hn
    by_cases hg : GivesRepository event
    · obtain ⟨owner, name, ho, hone, hname, hnne⟩ := exists_givenRepository h hg
      rw [hr.from_event n owner name hint hne ho hone hname hnne,
        hs.from_event n owner name hint hne ho hone hname hnne]
    · by_cases hf : ∃ owner name, NamesRepository fallback owner name
      · obtain ⟨owner, name, hf⟩ := hf
        rw [(hr.from_fallback n owner name hint hne hg hf).1,
          (hs.from_fallback n owner name hint hne hg hf).1]
      · have hnone : ∀ owner name, ¬ NamesRepository fallback owner name := by simpa using hf
        rw [hr.no_repository n hint hne hg hnone, hs.no_repository n hint hne hg hnone]
  · have habsent : (givenNumber event).isPresent = false := by simpa using hn
    rw [hr.no_number habsent, hs.no_number habsent]

/-- Whether owner and name of a pull request are both the event's. -/
def IsGiven (event : Value) (pr : PullRequest) : Prop :=
  givenOwner event = .string pr.owner ∧ givenName event = .string pr.repo

/-- Whatever the event is, owner and name are both its own or both the fallback's. -/
theorem source_of_pullRequest (h : pullRequest records event fallback = .ok pr) :
    pr.owner ≠ [] ∧ pr.repo ≠ [] ∧
      (IsGiven event pr ∨ NamesRepository fallback pr.owner pr.repo) := by
  unfold pullRequest at h
  obtain ⟨number, -, h⟩ := bind_eq_ok h
  obtain ⟨⟨owner, name⟩, hrepository, h⟩ := bind_eq_ok h
  obtain ⟨n, -, h⟩ := bind_eq_ok h
  obtain ⟨howner, hname⟩ := records.takes_texts_only (mapError_eq_ok h)
  rcases repositoryOf_cases hrepository with ⟨hgives, hgiven⟩ | hfallback
  · obtain ⟨rfl, rfl⟩ := Prod.mk.inj hgiven
    rw [GivesRepository, howner, hname, isPresent_string_iff, isPresent_string_iff] at hgives
    exact ⟨hgives.1, hgives.2, .inl ⟨howner, hname⟩⟩
  · obtain ⟨o, r, hf, hpair⟩ := exists_named_of_ok hfallback
    obtain ⟨rfl, rfl⟩ := Prod.mk.inj hpair
    cases howner
    cases hname
    exact ⟨hf.2.2.1, hf.2.2.2, .inr hf⟩

/-- An event of the usual shape names the pull request that its number and its repository say, or
that its number and the fallback say when it gives no repository, or none, with the cause. Whatever
the event is, owner and name are not empty and both from the event or both from the fallback. -/
theorem a_repository_has_one_source :
    (∀ records w path fallback event, document w path = .ok event → IsPayload event →
      ∀ r, Answers event fallback r ↔ load records w path fallback = r) ∧
    ∀ records w path fallback pr, load records w path fallback = .ok pr →
      pr.owner ≠ [] ∧ pr.repo ≠ [] ∧ ∃ event, document w path = .ok event ∧
        (IsGiven event pr ∨ NamesRepository fallback pr.owner pr.repo) := by
  constructor
  · intro records w path fallback event hevent hpayload r
    rw [load_of_document hevent]
    constructor
    · intro hr
      exact (answers_pullRequest hpayload).unique hpayload hr
    · rintro rfl
      exact answers_pullRequest hpayload
  · intro records w path fallback pr hload
    obtain ⟨event, hevent, hpr⟩ := bind_eq_ok hload
    obtain ⟨howner, hrepo, hsource⟩ := source_of_pullRequest hpr
    exact ⟨howner, hrepo, event, hevent, hsource⟩

/-- An event with a number of zero, an empty name beside an owner, and a fallback with two
slashes. -/
theorem half_a_repository_is_none :
    let w : Workspace := { files := [("event".toList, toBytes ("\x7b\"number\": 0, " ++
      "\"pull_request\": \x7b\"number\": 7\x7d, \"repository\": \x7b\"name\": \"\", " ++
      "\"owner\": \x7b\"login\": \"octo\"\x7d\x7d\x7d").toList)] }
    let event : Value := .object [("number".toList, .int 0),
      ("pull_request".toList, .object [("number".toList, .int 7)]),
      ("repository".toList, .object [("name".toList, .string []),
        ("owner".toList, .object [("login".toList, .string "octo".toList)])])]
    let path := some "event".toList
    let fallback := some "o/r/x".toList
    let pr : PullRequest := ⟨"o".toList, "r/x".toList, 7⟩
    (document w path = .ok event ∧ IsPayload event) ∧
      load .standard w path none = .error .noRepository ∧
      (load .standard w path fallback = .ok pr ∧ fallback = some pr.slug) ∧
      ∃ e, document w path = .ok e ∧
        (IsGiven e pr ∨ NamesRepository fallback pr.owner pr.repo) := by
  intro w event path fallback pr
  obtain ⟨hanswer, hsource⟩ := a_repository_has_one_source
  have hevent : document w path = .ok event := by decide +kernel
  have hpayload : IsPayload event := {
    members := rfl
    pull_request := fun _ => rfl
    repository := fun _ => rfl
    owner := fun _ => rfl
    login := fun _ => ⟨_, rfl⟩
    name := fun _ => ⟨_, rfl⟩
    number := fun _ => ⟨_, rfl⟩
    pull_number := fun _ => ⟨_, rfl⟩ }
  have hgives : ¬ GivesRepository event := by
    rintro ⟨-, hname⟩
    cases hname
  have hfallback : NamesRepository fallback "o".toList "r/x".toList :=
    ⟨rfl, by decide, by decide, by decide⟩
  have hnone := (hanswer .standard w path none event hevent hpayload _).2 rfl
  have hsome := (hanswer .standard w path fallback event hevent hpayload _).2 rfl
  have hrefused : load .standard w path none = .error .noRepository :=
    hnone.no_repository 7 rfl (by decide) hgives fun _ _ h => nomatch h.1
  have hload : load .standard w path fallback = .ok pr ∧ fallback = some pr.slug :=
    hsome.from_fallback 7 _ _ rfl (by decide) hgives hfallback
  exact ⟨⟨hevent, hpayload⟩, hrefused, hload, (hsource .standard w path fallback pr hload.1).2.2⟩

end Event

end PinGate
