import Settle.Proofs.Poll.FirstDecisive
import Settle.Proofs.Race.Calls
import Settle.Proofs.Strategy.Decides

/-!
# What no order of steps can bring about

In whatever order the two sides of a race take their steps, the race succeeds only with a snapshot
that the wait has read, a check that finds a match has the last word, and a check whose read fails
is as good as one that finds nothing.
-/

namespace Settle

namespace Race

variable {τ : Type} [TimeScale τ] {r : Race τ} {feed feed' : Feed τ} {now : τ}

/-! ### The end of a race, by the calls before it -/

/-- Alone, with the replies to its reads, the wait would end with this outcome. -/
def EndsAlone (r : Race τ) (now : τ) (reads : List (Made τ)) (o : Except Failure Unit) : Prop :=
  ∀ source : Source τ Value, source.Continues reads → ∃ t, r.poll.EndsAt source now t o

/-- The replies to reads, and after them what the feed has for a wait alone. -/
def replay (feed : Feed τ) (reads : List (Made τ)) : Source τ Value :=
  fun n => match reads[n]? with
    | some c => c.reply
    | none   => feed.read n 0

omit [TimeScale τ] in
lemma replay_continues (reads : List (Made τ)) : (replay feed reads).Continues reads := by
  intro i c hi
  rw [replay, hi]

/-- An outcome of the wait alone comes from one of its reads or from the deadline. -/
lemma Accounted.exists_read {c : Course τ} (h : r.Accounted feed now c) {t : τ}
    {o : Except Failure Unit} (hs : c.state.wait = .finished t o) :
    (∃ m ∈ feed.reads c.events, r.poll.target.judge m.reply.result = some o) ∨
      o = .error (.expired (r.poll.target.reason r.poll.name)) := by
  obtain ⟨k, hstate, hreads⟩ := h.wait (replay feed (feed.reads c.events)) (replay_continues _)
  have hgrounded := r.poll.grounded (replay feed (feed.reads c.events)) now k
  rw [← hstate, ← hreads, hs, h.reads] at hgrounded
  generalize hn : (feed.reads c.events).length = n at hgrounded
  cases hgrounded with
  | @decided n _ _ judged =>
    have hlt : n < (feed.reads c.events).length := by omega
    refine Or.inl ⟨_, List.getElem_mem hlt, ?_⟩
    rwa [replay_continues _ n _ (List.getElem?_eq_getElem hlt)] at judged
  | expired => exact Or.inr rfl

/-- With the replies to its reads, the wait would end alone as it has ended in the race. -/
lemma Accounted.endsAlone {c : Course τ} (h : r.Accounted feed now c) {t : τ}
    {o : Except Failure Unit} (hs : c.state.wait = .finished t o) :
    r.EndsAlone now (feed.reads c.events) o := by
  intro source hsource
  obtain ⟨k, hstate, -⟩ := h.wait source hsource
  exact ⟨t, (r.poll.endsAt_iff_course source).mpr ⟨k, hstate ▸ hs⟩⟩

/-- A check that finds a match has the last word. -/
lemma Stands.aborted_of_matches {checks : List (Made τ)} {wait : Poll.State τ} {t : τ}
    {o : Except Failure Unit} (h : r.Stands checks wait (.finished t o)) {c : Made τ}
    (hc : c ∈ checks) {a : Abort} (ha : r.Matches c.reply a) :
    o = .error (.aborted a) ∧ ∃ before, checks = before ++ [c] ∧ r.Clear before := by
  cases h with
  | @aborted _ before d b last clear matched =>
    rw [last, List.mem_append, List.mem_singleton] at hc
    rcases hc with hc | rfl
    · exact absurd ha (clear c hc a)
    · exact ⟨by rw [ha.unique matched], before, last, clear⟩
  | followed clear => exact absurd ha (clear c hc a)
  | expired clear => exact absurd ha (clear c hc a)

/-! ### Checks that find the same -/

/-- Two checks last as long and find the same, or nothing, be it that a read has failed. -/
structure Alike (r : Race τ) (reply' reply : Reply τ Value) : Prop where
  delay   : reply'.delay = reply.delay
  notices : reply'.notices = reply.notices
  found   : find r.poll.name r.rules reply'.result = find r.poll.name r.rules reply.result

/-- The guard stands at the same point, and the check that is under way will find the same. -/
inductive Agree (r : Race τ) : Guard τ → Guard τ → Prop where
  | pausing (wake : τ) : Agree r (.pausing wake) (.pausing wake)
  | checking {back : τ} {result' result : Except Failure Value}
      (found : find r.poll.name r.rules result' = find r.poll.name r.rules result) :
      Agree r (.checking back result') (.checking back result)
  | finished (t : τ) (o : Except Failure Unit) : Agree r (.finished t o) (.finished t o)

omit [TimeScale τ] in
lemma Agree.finished_iff {guard' guard : Guard τ} (h : r.Agree guard' guard) {t : τ}
    {o : Except Failure Unit} : guard' = .finished t o ↔ guard = .finished t o := by
  cases h <;> simp

omit [TimeScale τ] in
lemma Agree.outcome? {guard' guard : Guard τ} (h : r.Agree guard' guard) :
    guard'.outcome? = guard.outcome? := by
  cases h <;> rfl

omit [TimeScale τ] in
lemma Agree.count {guard' guard : Guard τ} (h : r.Agree guard' guard) (n : Nat) :
    Race.count n guard' = Race.count n guard := by
  cases h <;> rfl

lemma guardStep_agree {reply' reply : Reply τ Value} (hreply : r.Alike reply' reply)
    {guard' guard : Guard τ} (h : r.Agree guard' guard) (wait : Poll.State τ) :
    r.Agree (r.guardStep reply' wait guard').1 (r.guardStep reply wait guard).1 ∧
      (r.guardStep reply' wait guard').2 = (r.guardStep reply wait guard).2 := by
  cases h with
  | pausing wake =>
    cases wait with
    | finished t o => exact ⟨.finished t o, rfl⟩
    | ready t | reading t result =>
      cases hexp : r.poll.deadline.expired wake with
      | true =>
        exact ⟨by simpa [guardStep, hexp] using Agree.finished .., by simp [guardStep, hexp]⟩
      | false =>
        simp only [guardStep, hexp, hreply.delay, Reply.events, hreply.notices]
        exact ⟨.checking hreply.found, rfl⟩
  | checking found =>
    simp only [guardStep, found]
    split
    · exact ⟨.finished .., trivial⟩
    · exact ⟨.finished .., trivial⟩
    · split
      · exact ⟨.finished .., trivial⟩
      · exact ⟨.pausing .., trivial⟩
  | finished t o => exact ⟨.finished t o, rfl⟩

/-- Two points of races, one of which may have got other replies to its checks. -/
structure Course.Agree (r : Race τ) (c' c : Course τ) : Prop where
  wait      : c'.state.wait = c.state.wait
  guard     : r.Agree c'.state.guard c.state.guard
  reads     : c'.state.reads = c.state.reads
  checks    : c'.state.checks = c.state.checks
  cancelled : c'.state.cancelled = c.state.cancelled
  events    : c'.events = c.events

section Agree

variable (hread : ∀ m n, feed'.read m n = feed.read m n)
  (hcheck : ∀ m n, r.Alike (feed'.check m n) (feed.check m n))
include hread hcheck

lemma Course.Agree.next {c' c : Course τ} (h : Course.Agree r c' c) (side : Side) :
    Course.Agree r (c'.next r feed' side) (c.next r feed side) := by
  cases side with
  | wait =>
    cases hcancelled : c.state.cancelled with
    | true =>
      have hcancelled' : c'.state.cancelled = true := h.cancelled.trans hcancelled
      simpa [Course.next, step, hcancelled, hcancelled'] using h
    | false =>
      rw [Course.next, Course.next, step_wait hcancelled,
        step_wait (h.cancelled.trans hcancelled)]
      simp only [hread, h.wait, h.reads, h.checks, h.events]
      exact ⟨rfl, h.guard, rfl, rfl, h.cancelled, rfl⟩
  | guard =>
    obtain ⟨hguard, hevents⟩ :=
      guardStep_agree (hcheck c.state.reads c.state.checks) h.guard c.state.wait
    simp only [Course.next, step, State.close, h.wait, h.reads, h.checks, h.cancelled, h.events,
      hevents, hguard.outcome?]
    exact ⟨rfl, hguard, rfl, hguard.count _, rfl, rfl⟩

lemma course_agree (sides : List Side) :
    Course.Agree r (r.course feed' now sides) (r.course feed now sides) := by
  induction sides using List.reverseRecOn with
  | nil =>
    have hbegin : Course.Agree r ⟨⟨.ready now, r.rest now, 0, 0, false⟩, []⟩
        ⟨⟨.ready now, r.rest now, 0, 0, false⟩, []⟩ := ⟨rfl, .pausing _, rfl, rfl, rfl, rfl⟩
    exact hbegin.next hread hcheck .wait
  | append_singleton sides side ih =>
    rw [course_concat, course_concat]
    exact ih.next hread hcheck side

/-- What matters of a check is how long it lasts and what it finds. -/
theorem endsBy_congr {sides : List Side} {e : Ended τ Unit} :
    r.EndsBy feed' now sides e ↔ r.EndsBy feed now sides e := by
  have h : Course.Agree r (r.course feed' now sides) (r.course feed now sides) :=
    course_agree hread hcheck sides
  rw [EndsBy, EndsBy, h.guard.finished_iff, h.events]

end Agree

/-! ### All orders -/

section Ends

variable {sides : List Side} {e : Ended τ Unit} (hends : r.EndsBy feed now sides e)
  (hwritable : ∀ m n v, (feed.check m n).result = .ok v → v.Writable) {s : Strategy}
include hends hwritable

lemma EndsBy.accounted : r.Accounted feed now ⟨(r.course feed now sides).state, e.events⟩ := by
  have h : r.Accounted feed now (r.course feed now sides) := Race.accounted hwritable sides
  rw [hends.2]
  exact ⟨h.reads, h.checks, h.inTime, h.wait, h.guard⟩

lemma EndsBy.stands :
    r.Stands (feed.checks e.events) (r.course feed now sides).state.wait
      (.finished e.time e.outcome) := by
  rw [← hends.1]
  exact (hends.accounted hwritable).guard

lemma EndsBy.inTime :
    ∀ c ∈ feed.reads e.events ++ feed.checks e.events, r.poll.deadline.expired c.time = false := by
  intro c hc
  rcases List.mem_append.mp hc with hc | hc
  · exact (hends.accounted hwritable).inTime c (List.mem_filter.mp hc).1
  · exact (hends.accounted hwritable).inTime c (List.mem_filter.mp hc).1

/-- A race succeeds only with a snapshot that the wait has read in time. -/
lemma EndsBy.exists_done (hs : r.poll.target = .state s) (hok : e.outcome = .ok ()) :
    ∃ c ∈ feed.reads e.events, r.poll.deadline.expired c.time = false ∧
      ∃ v, c.reply.result = .ok v ∧ s.isDone v = .ok true := by
  have hacc := hends.accounted hwritable
  have hstands := hends.stands hwritable
  rw [hok] at hstands
  cases hstands with
  | followed clear ended =>
    obtain ⟨c, hc, hjudge⟩ := (hacc.exists_read ended).resolve_right (by simp)
    refine ⟨c, hc, hacc.inTime c (List.mem_filter.mp hc).1, ?_⟩
    rw [hs, Target.judge_state_eq_some_iff] at hjudge
    exact hjudge.exists_done

/-- An abort comes from a check, or else from a read of the wait. -/
lemma EndsBy.exists_of_aborted (hs : r.poll.target = .state s) {a : Abort}
    (ha : e.outcome = .error (.aborted a)) :
    (∃ c ∈ feed.checks e.events, r.Matches c.reply a) ∨
      ∃ c ∈ feed.reads e.events, c.reply.result = .error (.aborted a) := by
  have hacc := hends.accounted hwritable
  have hstands := hends.stands hwritable
  rw [ha] at hstands
  cases hstands with
  | aborted last clear matched => exact Or.inl ⟨_, last ▸ List.mem_concat_self, matched⟩
  | followed clear ended =>
    obtain ⟨c, hc, hjudge⟩ := (hacc.exists_read ended).resolve_right (by simp)
    rw [hs, Target.judge_state_eq_some_iff] at hjudge
    exact Or.inr ⟨c, hc, hjudge.eq_of_aborted⟩

/-- A failure comes from a check, from the wait or from the deadline. -/
lemma EndsBy.error_cases {err : Failure} (herr : e.outcome = .error err) :
    (∃ c ∈ feed.checks e.events, ∃ a, r.Matches c.reply a ∧ err = .aborted a) ∨
      r.EndsAlone now (feed.reads e.events) (.error err) ∨
      err = .expired ("resource " ++ r.poll.name) ∧ r.poll.deadline.expired e.time = true ∧
        (r.course feed now sides).state.wait.outcome? = none := by
  have hstands := hends.stands hwritable
  rw [herr] at hstands
  cases hstands with
  | aborted last clear matched =>
    exact Or.inl ⟨_, last ▸ List.mem_concat_self, _, matched, rfl⟩
  | followed clear ended => exact Or.inr (Or.inl ((hends.accounted hwritable).endsAlone ended))
  | expired clear expired pending => exact Or.inr (Or.inr ⟨rfl, expired, pending⟩)

end Ends

/-- However a race with rules is run, and in whatever order its two sides take their steps:
it succeeds only with a snapshot that the wait has read in time; a check that finds a match is the
last one and the only one, and aborts the race; nothing else does, unless a read of the wait brings
an abort; a check whose read fails is as good as one that finds nothing; any other failure is the
one with which the wait ends alone, or the deadline has passed and the wait goes on; no call
begins behind the deadline, and none is made after the end. -/
theorem safe_in_every_order (r : Race τ) (hrules : r.rules ≠ []) (s : Strategy)
    (hs : r.poll.target = .state s) (feed : Feed τ)
    (hwritable : ∀ m n v, (feed.check m n).result = .ok v → v.Writable) (now : τ) :
    (∀ fuel e, r.run feed fuel now = some e → ∃ sides, r.EndsBy feed now sides e) ∧
    ∀ sides e, r.EndsBy feed now sides e →
      (e.outcome = .ok () →
        ∃ c ∈ feed.reads e.events, r.poll.deadline.expired c.time = false ∧
          ∃ v, c.reply.result = .ok v ∧ s.isDone v = .ok true) ∧
      (∀ c ∈ feed.checks e.events, ∀ a, r.Matches c.reply a →
        e.outcome = .error (.aborted a) ∧
          ∃ before, feed.checks e.events = before ++ [c] ∧ r.Clear before) ∧
      (∀ a, e.outcome = .error (.aborted a) →
        (∃ c ∈ feed.checks e.events, r.Matches c.reply a) ∨
          ∃ c ∈ feed.reads e.events, c.reply.result = .error (.aborted a)) ∧
      ((∀ m n a, (feed.read m n).result ≠ .error (.aborted a)) →
        ((∃ a, e.outcome = .error (.aborted a)) ↔
          ∃ c ∈ feed.checks e.events, ∃ a, r.Matches c.reply a)) ∧
      (∀ feed' : Feed τ, (∀ m n, feed'.read m n = feed.read m n) →
        (∀ m n, r.Alike (feed'.check m n) (feed.check m n)) → r.EndsBy feed' now sides e) ∧
      (∀ err, e.outcome = .error err →
        (∃ c ∈ feed.checks e.events, ∃ a, r.Matches c.reply a ∧ err = .aborted a) ∨
        r.EndsAlone now (feed.reads e.events) (.error err) ∨
        err = .expired ("resource " ++ r.poll.name) ∧ r.poll.deadline.expired e.time = true ∧
          (r.course feed now sides).state.wait.outcome? = none) ∧
      (∀ c ∈ feed.reads e.events ++ feed.checks e.events,
        r.poll.deadline.expired c.time = false) ∧
      ∀ more, r.EndsBy feed now (sides ++ more) e := by
  refine ⟨fun fuel e hrun => ⟨_, (run_eq_some_iff r feed now hrules).mp hrun⟩, ?_⟩
  intro sides e hends
  have hmatch : ∀ c ∈ feed.checks e.events, ∀ a, r.Matches c.reply a →
      e.outcome = .error (.aborted a) ∧
        ∃ before, feed.checks e.events = before ++ [c] ∧ r.Clear before :=
    fun c hc a ha => (hends.stands hwritable).aborted_of_matches hc ha
  refine ⟨hends.exists_done hwritable hs, hmatch, fun a => hends.exists_of_aborted hwritable hs,
    fun hread => ⟨?_, ?_⟩, fun feed' hread hcheck => (endsBy_congr hread hcheck).mpr hends,
    fun err => hends.error_cases hwritable, hends.inTime hwritable, hends.append⟩
  · rintro ⟨a, ha⟩
    rcases hends.exists_of_aborted hwritable hs ha with ⟨c, hc, hmatches⟩ | ⟨c, hc, hresult⟩
    · exact ⟨c, hc, a, hmatches⟩
    · obtain ⟨m, n, hreply⟩ := Feed.exists_reply_of_mem_reads hc
      exact absurd (hreply ▸ hresult) (hread m n a)
  · rintro ⟨c, hc, a, hmatches⟩
    exact ⟨a, (hmatch c hc a hmatches).1⟩

/-- A wait for a condition that a rule takes for an error. -/
def strictRace : Race ℚ := ⟨Poll.readyPoll, [.condition "Ready" "" none], 1⟩

/-- Reads last long and find nothing. -/
def strictFeed : Feed ℚ :=
  .separate (fun _ => ⟨.ok (.map []), 5, []⟩) fun _ => ⟨.ok Poll.readyObject, 0, []⟩

def strictAbort : Abort :=
  ⟨"web", "status.conditions[type=Ready]", "True", "type=Ready status=*",
    some "error condition met for web: condition type=Ready status=True reason= message="⟩

lemma strictFeed_writable (m n : Nat) (v : Value) (h : (strictFeed.check m n).result = .ok v) :
    v.Writable := by
  obtain rfl : Poll.readyObject = v := Except.ok.inj h
  simp [Poll.readyObject]

lemma strictRace_endsBy :
    ∃ e, strictRace.EndsBy strictFeed 0 [.guard, .guard] e ∧
      e.outcome = .error (.aborted strictAbort) :=
  exists_endsBy (by decide +kernel)

theorem strictRace_aborts :
    strictRace.rules ≠ [] ∧
      strictRace.poll.target = .state (.conditions [⟨"Ready", "True"⟩]) ∧
      (∀ m n v, (strictFeed.check m n).result = .ok v → v.Writable) ∧
      ∃ e, strictRace.EndsBy strictFeed 0 [.guard, .guard] e ∧
        e.outcome = .error (.aborted strictAbort) ∧
        ∃ before c, strictFeed.checks e.events = before ++ [c] ∧ strictRace.Clear before ∧
          strictRace.Matches c.reply strictAbort := by
  have hrules : strictRace.rules ≠ [] := by simp [strictRace]
  obtain ⟨e, hends, houtcome⟩ := strictRace_endsBy
  obtain ⟨-, hsafe⟩ := safe_in_every_order strictRace hrules (.conditions [⟨"Ready", "True"⟩]) rfl
    strictFeed strictFeed_writable 0
  obtain ⟨-, hmatch, habort, -⟩ := hsafe _ e hends
  refine ⟨hrules, rfl, strictFeed_writable, e, hends, houtcome, ?_⟩
  rcases habort strictAbort houtcome with ⟨c, hc, hmatches⟩ | ⟨c, hc, hresult⟩
  · obtain ⟨-, before, hlast, hclear⟩ := hmatch c hc strictAbort hmatches
    exact ⟨before, c, hlast, hclear, hmatches⟩
  · obtain ⟨m, n, hreply⟩ := Feed.exists_reply_of_mem_reads hc
    rw [hreply] at hresult
    cases hresult

end Race

end Settle
