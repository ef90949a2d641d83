-- The law of the one comment. GitHub is a partner that holds a thread and hears no more of a call
-- than its arguments. Each call meets a fate of its own: it is carried out and answered, or it is
-- carried out and the answer is lost, or it never arrives. However the calls of any number of runs
-- fare, the comments with the marker never become more than one if they were not more before, and no
-- other comment is touched.
import PinGate.Proofs.GitHub.Thread

namespace PinGate.GitHub

open Text Dialogue

/-! ## GitHub as a partner -/

/-- A call that does not end well. -/
structure Breakdown where
  outcome : Outcome
  failed : outcome.output? = none

/-- What becomes of a request. -/
inductive Fate where
  /-- It is carried out, and its call ends well. `proposed` is the id for a new comment; what the
  call gives of a listing is the listing, and of any other request this output. -/
  | answered (proposed : Nat) (output errors : Text)
  /-- It is carried out, but its call does not end well. -/
  | unheard (proposed : Nat) (b : Breakdown)
  /-- It is never carried out, and its call does not end well. -/
  | lost (b : Breakdown)

/-- The thread that a fate makes of another one. -/
def Fate.apply (request : Request) (t : Thread) : Fate → Thread
  | answered proposed _ _ => t.after proposed request
  | unheard proposed _ => t.after proposed request
  | lost _ => t

/-- What the call of a request gives when it ends well. -/
def Thread.answer (t : Thread) (output : Text) : Request → Text
  | .comments marker => t.listing marker
  | _ => output

/-- How the call of a request ends. -/
def Fate.outcome (request : Request) (t : Thread) : Fate → Outcome
  | answered _ output errors => .finished 0 (t.answer output request) errors
  | unheard _ b => b.outcome
  | lost b => b.outcome

/-- The request about a pull request that a call makes, by its arguments alone. -/
def heard? (pr : PullRequest) (c : Call) : Option Request :=
  match c.arguments with
  | _ :: command :: args => if command = "api".toList then Request.read? pr args else none
  | _ => none

theorem heard?_gitHub (client : Client) (pr : PullRequest) (request : Request) :
    heard? pr (.gitHub client pr request) = some request := by
  unfold heard? Call.arguments
  exact (if_pos rfl).trans (Request.read?_arguments pr request)

/-- GitHub, as far as it holds the comments on one pull request: the thread, the fates of the
requests to come, and the threads that it held before each request. A request without a fate is
answered. -/
structure Site where
  pr : PullRequest
  thread : Thread
  fates : List Fate
  past : List Thread := []

namespace Site

/-- The fate of the next request. -/
def fate (s : Site) : Fate := s.fates.headD (.answered 0 [] [])

/-- The site behind the next request. -/
def after (s : Site) (request : Request) : Site :=
  ⟨s.pr, s.fate.apply request s.thread, s.fates.tail, s.past ++ [s.thread]⟩

/-- The answer to a call. One that asks for nothing that is known is refused, and changes
nothing. -/
def respond (c : Call) (s : Site) : Outcome × Site :=
  match heard? s.pr c with
  | some request => (s.fate.outcome request s.thread, s.after request)
  | none => (.finished 1 [] [], s)

theorem respond_gitHub {pr : PullRequest} {s : Site} (h : s.pr = pr) (client : Client)
    (request : Request) : respond (.gitHub client pr request) s =
      (s.fate.outcome request s.thread, s.after request) := by
  subst h
  rw [respond, heard?_gitHub]

/-- The site behind a listing. -/
def listed (marker : Text) (s : Site) : Site := s.after (.comments marker)

/-- All threads that the site has held. -/
def threads (s : Site) : List Thread := s.past ++ [s.thread]

end Site

/-! ## Runs -/

/-- A run that keeps a comment on the pull request. -/
structure Posting where
  client : Client
  body : Text

/-- The write of a run that is given the listing of a thread. -/
def Posting.write (marker : Text) (p : Posting) (t : Thread) : Request :=
  Client.writeRequest marker p.body (t.listing marker)

/-- A run against a site. -/
def Posting.transcript (pr : PullRequest) (marker : Text) (p : Posting) (s : Site) :
    Transcript Site Failure Unit :=
  (p.client.upsertComment pr p.body marker).run Site.respond s

/-- The site behind some runs, one after the other. -/
def Site.behind (pr : PullRequest) (marker : Text) (s : Site) (ps : List Posting) : Site :=
  ps.foldl (fun s p => (p.transcript pr marker s).partner) s

/-! ## What is kept -/

/-- A thread keeps what another one has: no more comments with the marker, or one, and the same
comments without it. -/
structure Thread.Keeps (marker : Text) (t u : Thread) : Prop where
  few : u.countMarked marker ≤ max 1 (t.countMarked marker)
  others_eq : u.others marker = t.others marker

namespace Thread.Keeps

variable {marker : Text} {t u v : Thread}

theorem refl (marker : Text) (t : Thread) : t.Keeps marker t := ⟨Nat.le_max_right _ _, rfl⟩

theorem trans (h : t.Keeps marker u) (h' : u.Keeps marker v) : t.Keeps marker v := by
  refine ⟨?_, h'.others_eq.trans h.others_eq⟩
  have := h.few
  have := h'.few
  omega

theorem written (t : Thread) (proposed : Nat) (marker body : Text) :
    t.Keeps marker (t.written proposed marker body) :=
  ⟨(t.countMarked_written proposed marker body).le, t.others_written proposed marker body⟩

end Thread.Keeps

/-! ## One run -/

/-- Listing changes nothing, however it fares. -/
@[simp]
theorem Site.thread_listed (marker : Text) (s : Site) : (s.listed marker).thread = s.thread := by
  have hsame : ∀ f : Fate, f.apply (.comments marker) s.thread = s.thread := fun f => by
    cases f <;> rfl
  exact hsame s.fate

/-- A listing that is given is the listing. -/
theorem Fate.listing_of_output {f : Fate} {marker listing : Text} {t : Thread}
    (h : (f.outcome (.comments marker) t).output? = some listing) : listing = t.listing marker := by
  cases f with
  | answered proposed output errors => exact (Option.some.inj h).symm
  | unheard proposed b => exact absurd (h.symm.trans b.failed) (by simp)
  | lost b => exact absurd (h.symm.trans b.failed) (by simp)

/-- A request is carried out or leaves the thread as it is; when its call ends well it is carried
out. -/
theorem Fate.apply_cases (f : Fate) (request : Request) (t : Thread) :
    (∃ proposed, f.apply request t = t.after proposed request) ∨
      f.apply request t = t ∧ (f.outcome request t).output? = none := by
  cases f with
  | answered proposed output errors => exact .inl ⟨proposed, rfl⟩
  | unheard proposed b => exact .inl ⟨proposed, rfl⟩
  | lost b => exact .inr ⟨rfl, b.failed⟩

/-- The threads that a site has held behind some more requests, when these kept the last one. -/
structure Site.Follows (marker : Text) (s t : Site) : Prop where
  pr_eq : t.pr = s.pr
  keeps : s.thread.Keeps marker t.thread
  threads_keep : ∀ u ∈ t.threads, u ∈ s.threads ∨ s.thread.Keeps marker u

theorem Site.follows_after {marker : Text} {s : Site} {request : Request}
    (h : s.thread.Keeps marker (s.after request).thread) :
    s.Follows marker (s.after request) := by
  refine ⟨rfl, h, ?_⟩
  intro u hu
  rcases List.mem_append.1 hu with hu | hu
  · exact .inl hu
  · exact .inr (List.mem_singleton.1 hu ▸ h)

theorem Site.Follows.trans {marker : Text} {s t u : Site} (h : s.Follows marker t)
    (h' : t.Follows marker u) : s.Follows marker u := by
  refine ⟨h'.pr_eq.trans h.pr_eq, h.keeps.trans h'.keeps, ?_⟩
  intro v hv
  rcases h'.threads_keep v hv with hv | hv
  · exact h.threads_keep v hv
  · exact .inr (h.keeps.trans hv)

section

variable {pr : PullRequest} {s : Site} (hpr : s.pr = pr) (marker : Text) (p : Posting)

include hpr

/-- A run that is not given the listing fails and writes nothing. -/
theorem run_without_listing
    (h : (s.fate.outcome (.comments marker) s.thread).output? = none) :
    ∃ f, Ends Site.respond (p.client.upsertComment pr p.body marker) s
      [.gitHub p.client pr (.comments marker)] (.error f) (s.listed marker) :=
  ⟨_, p.client.upsertComment_of_no_output pr p.body marker (Site.respond_gitHub hpr _ _) h⟩

/-- A run that is given the listing ends as its write does. -/
theorem run_with_listing
    (h : (s.fate.outcome (.comments marker) s.thread).output? = some (s.thread.listing marker)) :
    ∃ cs r, Ends Site.respond (p.client.upsertComment pr p.body marker) s cs r
        ((s.listed marker).after (p.write marker s.thread)) ∧
      (r = .ok () →
        ((s.listed marker).fate.outcome (p.write marker s.thread) s.thread).output? ≠ none) := by
  have hlist := Site.respond_gitHub hpr p.client (.comments marker)
  have hr : Site.respond (.gitHub p.client pr (p.write marker s.thread)) (s.listed marker) =
      ((s.listed marker).fate.outcome (p.write marker s.thread) s.thread,
        (s.listed marker).after (p.write marker s.thread)) := by
    have hlistedPr : (s.listed marker).pr = pr := hpr
    rw [Site.respond_gitHub hlistedPr, Site.thread_listed]
  cases hwrite : ((s.listed marker).fate.outcome (p.write marker s.thread) s.thread).output? with
  | none =>
    have hask := p.client.ask_of_no_output pr _ hr hwrite
    exact ⟨_, _, p.client.upsertComment_of_output pr p.body marker hlist h hask,
      by simp [Except.map]⟩
  | some output =>
    have hask := p.client.ask_of_output pr _ hr hwrite
    exact ⟨_, _, p.client.upsertComment_of_output pr p.body marker hlist h hask, by simp⟩

/-- What one run keeps, and what it leaves behind when it ends well. -/
theorem run_keeps :
    s.Follows marker (p.transcript pr marker s).partner ∧
      ((p.transcript pr marker s).result = .ok () →
        ∃ c, (p.transcript pr marker s).partner.thread.first? marker = some c ∧
          c.body = Client.marked marker p.body) := by
  have hlisted : s.Follows marker (s.listed marker) := by
    apply Site.follows_after
    rw [← Site.listed, Site.thread_listed]
    exact Thread.Keeps.refl marker s.thread
  unfold Posting.transcript
  cases hlisting : (s.fate.outcome (.comments marker) s.thread).output? with
  | none =>
    obtain ⟨f, hend⟩ := run_without_listing hpr marker p hlisting
    rw [hend.partner_eq, hend.result_eq]
    exact ⟨hlisted, by simp⟩
  | some listing =>
    obtain rfl := Fate.listing_of_output hlisting
    obtain ⟨cs, r, hend, hwell⟩ := run_with_listing hpr marker p hlisting
    rw [hend.partner_eq, hend.result_eq]
    -- The write meets the thread that was listed, whether it is carried out or not.
    have hthread : ((s.listed marker).after (p.write marker s.thread)).thread =
        (s.listed marker).fate.apply (p.write marker s.thread) s.thread := by
      rw [Site.after, Site.thread_listed]
    rcases (s.listed marker).fate.apply_cases (p.write marker s.thread) s.thread with
      ⟨proposed, hdone⟩ | ⟨hundone, hnone⟩
    · have hwritten : ((s.listed marker).after (p.write marker s.thread)).thread =
          s.thread.written proposed marker p.body := hthread.trans hdone
      refine ⟨hlisted.trans (Site.follows_after ?_), fun _ => ?_⟩
      · rw [hwritten, Site.thread_listed]
        exact Thread.Keeps.written s.thread proposed marker p.body
      · rw [hwritten]
        exact s.thread.first?_written proposed marker p.body
    · refine ⟨hlisted.trans (Site.follows_after ?_), fun hr => absurd hnone (hwell hr)⟩
      rw [hthread, hundone, Site.thread_listed]
      exact Thread.Keeps.refl marker s.thread

end

/-! ## Many runs -/

theorem behind_follows {pr : PullRequest} {s : Site} (hpr : s.pr = pr) (marker : Text)
    (ps : List Posting) : s.Follows marker (s.behind pr marker ps) := by
  induction ps generalizing s with
  | nil => exact ⟨rfl, Thread.Keeps.refl marker s.thread, fun u hu => .inl hu⟩
  | cons p ps ih =>
    have hrun := (run_keeps hpr marker p).1
    exact hrun.trans (ih (hrun.pr_eq.trans hpr))

/-- However many runs keep a comment, whatever they say and however their calls fare: at no time are
there more comments with the marker than at first, or than one, and the comments without it are
always the same; and a run that ends well leaves its own text in the first comment with the
marker. -/
theorem reruns_keep_one_comment (pr : PullRequest) (marker : Text) (thread : Thread)
    (fates : List Fate) (ps : List Posting) :
    let site := Site.behind pr marker { pr, thread, fates } ps
    (∀ u ∈ site.threads, u.countMarked marker ≤ max 1 (thread.countMarked marker) ∧
      u.others marker = thread.others marker) ∧
    ∀ p : Posting, (p.transcript pr marker site).result = .ok () →
      ∃ c, (p.transcript pr marker site).partner.thread.first? marker = some c ∧
        c.body = marker ++ '\n' :: p.body := by
  intro site
  have hfollows : Site.Follows marker { pr, thread, fates } site := behind_follows rfl marker ps
  refine ⟨?_, fun p => (run_keeps hfollows.pr_eq marker p).2⟩
  intro u hu
  have hkeeps : thread.Keeps marker u := by
    rcases hfollows.threads_keep u hu with hu | hu
    · obtain rfl : u = thread := by simpa [Site.threads] using hu
      exact Thread.Keeps.refl marker u
    · exact hu
  exact ⟨hkeeps.few, hkeeps.others_eq⟩

/-- A comment is posted, but the answer is lost and the run fails. The next run finds that comment
and changes it; the comment of someone else stays. -/
theorem a_lost_answer_leaves_one_comment :
    let pr : PullRequest := ⟨"o".toList, "r".toList, 7⟩
    let marker := "<!-- pinlint -->".toList
    let thread : Thread := ⟨[⟨5, "Thanks!".toList⟩], by decide⟩
    let fates : List Fate := [.answered 0 [] [], .unheard 9 ⟨.timedOut, rfl⟩]
    let first : Posting := ⟨{ token := "t".toList }, "one".toList⟩
    let second : Posting := ⟨{ token := "t".toList }, "two".toList⟩
    let site := Site.behind pr marker { pr, thread, fates } [first]
    (first.transcript pr marker { pr, thread, fates }).result ≠ .ok () ∧
      (second.transcript pr marker site).result = .ok () ∧
      (second.transcript pr marker site).partner.thread.comments =
        [⟨5, "Thanks!".toList⟩, ⟨9, "<!-- pinlint -->\ntwo".toList⟩] ∧
      ∃ c, (second.transcript pr marker site).partner.thread.first? marker = some c ∧
        c.body = "<!-- pinlint -->\ntwo".toList := by
  intro pr marker thread fates first second site
  have hok : (second.transcript pr marker site).result = .ok () := by decide +kernel
  have hbody : marker ++ '\n' :: second.body = "<!-- pinlint -->\ntwo".toList := by decide +kernel
  obtain ⟨c, hfirst, hc⟩ := (reruns_keep_one_comment pr marker thread fates [first]).2 second hok
  refine ⟨by decide +kernel, hok, by decide +kernel, c, ?_, hc.trans hbody⟩
  simpa only [site] using hfirst

end PinGate.GitHub
