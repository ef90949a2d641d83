-- The comments of a pull request as GitHub holds them, and what requests make of them. Keeping one
-- comment with a marker is a listing and then one write; the write leaves exactly one comment more
-- with the marker when there was none, changes the first one otherwise, and touches no other.
import PinGate.Proofs.GitHub.Requests
import PinGate.Proofs.Text.Numbers
import Mathlib.Algebra.GroupWithZero.Nat
import Mathlib.Algebra.Order.BigOperators.Group.List
import Mathlib.Algebra.Order.Group.Nat
import Mathlib.Data.List.Nodup

namespace PinGate.GitHub

open Text

/-- A comment on a pull request. -/
structure Comment where
  id : Nat
  body : Text
  deriving Repr, DecidableEq

/-- Whether a comment starts with a marker. -/
def Comment.carries (marker : Text) (c : Comment) : Bool := startsWith marker c.body

/-- The comments on a pull request, the oldest first. No two have the same id. -/
structure Thread where
  comments : List Comment
  distinct : (comments.map Comment.id).Nodup

namespace Thread

/-! ## What requests do -/

/-- The id that a new comment gets: the one proposed for it if it is free, else one above all. -/
def freeId (t : Thread) (proposed : Nat) : Nat :=
  if proposed ∈ t.comments.map Comment.id then (t.comments.map Comment.id).sum + 1 else proposed

theorem freeId_not_mem (t : Thread) (proposed : Nat) :
    t.freeId proposed ∉ t.comments.map Comment.id := by
  unfold freeId
  split
  · intro h
    have hle := List.single_le_sum (fun _ _ => Nat.zero_le _) _ h
    omega
  · assumption

/-- The thread with one more comment. -/
def post (t : Thread) (proposed : Nat) (body : Text) : Thread where
  comments := t.comments ++ [⟨t.freeId proposed, body⟩]
  distinct := by
    rw [List.map_append, List.map_singleton, ← List.concat_eq_append]
    exact t.distinct.concat (t.freeId_not_mem proposed)

/-- A comment, with a new body if its id is written so. -/
def edited (id body : Text) (c : Comment) : Comment :=
  if ofNat c.id = id then { c with body } else c

@[simp]
theorem id_edited (id body : Text) (c : Comment) : (edited id body c).id = c.id := by
  unfold edited
  split <;> rfl

/-- The thread with a new body for the comment with an id. -/
def rewrite (t : Thread) (id body : Text) : Thread where
  comments := t.comments.map (edited id body)
  distinct := by
    have hids : Comment.id ∘ edited id body = Comment.id := funext (id_edited id body)
    rw [List.map_map, hids]
    exact t.distinct

/-- What a request makes of the thread when it is carried out; `proposed` is the id for a new
comment. -/
def after (t : Thread) (proposed : Nat) : Request → Thread
  | .create body => t.post proposed body
  | .update id body => t.rewrite id body
  | .diff => t
  | .comments _ => t

/-! ## Listings -/

/-- The ids of the comments that start with a marker, in order, each on a line. -/
def listing (t : Thread) (marker : Text) : Text :=
  (t.comments.filter (Comment.carries marker)).flatMap fun c => ofNat c.id ++ ['\n']

/-- The first comment that starts with a marker. -/
def first? (t : Thread) (marker : Text) : Option Comment :=
  t.comments.find? (Comment.carries marker)

theorem firstId?_line (n : Nat) (rest : Text) :
    Client.firstId? (ofNat n ++ '\n' :: rest) = some (ofNat n) := by
  have hbreak : ∀ c ∈ ofNat n, isLineBreak c = false :=
    fun c hc => isLineBreak_of_isDigit (isDigit_of_mem_ofNat hc)
  have hnull : ofNat n ≠ "null".toList := by
    intro h
    have hdigit : 'n'.isDigit = true := isDigit_of_mem_ofNat (n := n) (h ▸ List.mem_cons_self)
    cases hdigit
  unfold Client.firstId?
  rw [pieces_append hbreak, List.map_cons, trim_ofNat, List.find?_cons_of_pos]
  simpa [ofNat_ne_nil] using hnull

/-- The first id of a listing is that of the first comment with the marker. -/
theorem firstId?_listing (t : Thread) (marker : Text) :
    Client.firstId? (t.listing marker) = (t.first? marker).map fun c => ofNat c.id := by
  unfold listing first?
  rw [← List.head?_filter]
  cases t.comments.filter (Comment.carries marker) with
  | nil => rfl
  | cons c cs =>
    rw [List.flatMap_cons, List.append_assoc]
    exact firstId?_line c.id _

/-! ## One write -/

/-- How many comments start with a marker. -/
def countMarked (t : Thread) (marker : Text) : Nat := t.comments.countP (Comment.carries marker)

/-- The comments that do not start with a marker, in order. -/
def others (t : Thread) (marker : Text) : List Comment := t.comments.filter (!·.carries marker)

/-- The thread behind the write that makes `body` the text of the one comment with a marker. -/
def written (t : Thread) (proposed : Nat) (marker body : Text) : Thread :=
  t.after proposed (Client.writeRequest marker body (t.listing marker))

theorem carries_marked (id : Nat) (marker body : Text) :
    Comment.carries marker ⟨id, Client.marked marker body⟩ = true :=
  List.isPrefixOf_iff_prefix.2 (List.prefix_append marker _)

/-- Only the comment with the id is changed, because no other one has it. -/
theorem comments_rewrite {t : Thread} {front rest : List Comment} {c : Comment} (body : Text)
    (h : t.comments = front ++ c :: rest) :
    (t.rewrite (ofNat c.id) body).comments = front ++ { c with body } :: rest := by
  have hdistinct := t.distinct
  rw [h, List.map_append, List.map_cons, List.nodup_middle, List.nodup_cons] at hdistinct
  have hsame : ∀ d, d ∈ front ∨ d ∈ rest → edited (ofNat c.id) body d = d := by
    intro d hd
    unfold edited
    rw [if_neg]
    intro hid
    apply hdistinct.1
    rw [← ofNat_injective hid, ← List.map_append]
    exact List.mem_map_of_mem (List.mem_append.2 hd)
  have hfront : front.map (edited (ofNat c.id) body) = front :=
    (List.map_congr_left fun d hd => hsame d (.inl hd)).trans (List.map_id front)
  have hrest : rest.map (edited (ofNat c.id) body) = rest :=
    (List.map_congr_left fun d hd => hsame d (.inr hd)).trans (List.map_id rest)
  have hc : edited (ofNat c.id) body c = { c with body } := if_pos rfl
  change t.comments.map (edited (ofNat c.id) body) = _
  rw [h, List.map_append, List.map_cons, hfront, hrest, hc]

/-- The write puts its comment in the place of the first one with the marker, or behind all when
there is none. -/
theorem comments_written (t : Thread) (proposed : Nat) (marker body : Text) :
    ∃ (front : List Comment) (old : Option Comment) (rest : List Comment) (id : Nat),
      t.comments = front ++ old.toList ++ rest ∧
      (t.written proposed marker body).comments =
        front ++ ⟨id, Client.marked marker body⟩ :: rest ∧
      (∀ c ∈ front, c.carries marker = false) ∧ (∀ c ∈ old, c.carries marker = true) ∧
      (old = none → rest = []) := by
  unfold written Client.writeRequest
  rw [firstId?_listing]
  cases hfirst : t.first? marker with
  | none =>
    have hnone : ∀ c ∈ t.comments, c.carries marker = false := by
      simpa [first?] using hfirst
    exact ⟨t.comments, none, [], t.freeId proposed, by simp, rfl, hnone, by simp, by simp⟩
  | some c =>
    obtain ⟨hc, front, rest, hsplit, hfront⟩ := List.find?_eq_some_iff_append.1 hfirst
    refine ⟨front, some c, rest, c.id, ?_, ?_, ?_, ?_, ?_⟩
    · simp [hsplit]
    · exact comments_rewrite _ hsplit
    · simpa using hfront
    · simpa using hc
    · simp

/-- Behind the write there are as many comments with the marker as before, or one if there was
none. -/
theorem countMarked_written (t : Thread) (proposed : Nat) (marker body : Text) :
    (t.written proposed marker body).countMarked marker = max 1 (t.countMarked marker) := by
  obtain ⟨front, old, rest, id, ht, hu, hfront, hold, hrest⟩ :=
    t.comments_written proposed marker body
  have hnone : front.countP (Comment.carries marker) = 0 := by
    rw [List.countP_eq_zero]
    intro c hc
    simp [hfront c hc]
  unfold countMarked
  rw [ht, hu, List.countP_append, List.countP_append, List.countP_append, hnone,
    List.countP_cons_of_pos (carries_marked id marker body)]
  cases old with
  | none => simp [hrest rfl]
  | some c =>
    simp [hold c rfl]
    omega

theorem others_written (t : Thread) (proposed : Nat) (marker body : Text) :
    (t.written proposed marker body).others marker = t.others marker := by
  obtain ⟨front, old, rest, id, ht, hu, -, hold, -⟩ := t.comments_written proposed marker body
  unfold others
  rw [ht, hu, List.filter_append, List.filter_append, List.filter_append, List.filter_cons_of_neg]
  · cases old with
    | none => simp
    | some c => simp [hold c rfl]
  · simp [carries_marked]

theorem first?_written (t : Thread) (proposed : Nat) (marker body : Text) :
    ∃ c, (t.written proposed marker body).first? marker = some c ∧
      c.body = Client.marked marker body := by
  obtain ⟨front, old, rest, id, -, hu, hfront, -, -⟩ := t.comments_written proposed marker body
  have hfirst : (t.written proposed marker body).first? marker =
      some ⟨id, Client.marked marker body⟩ :=
    List.find?_eq_some_iff_append.2
      ⟨carries_marked id marker body, front, rest, hu, by simpa using hfront⟩
  exact ⟨_, hfirst, rfl⟩

end Thread

end PinGate.GitHub
