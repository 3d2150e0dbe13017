import Settle.Proofs.Poll.Course
import Settle.Proofs.Race.Course
import Settle.Proofs.Rule.Total

/-!
# The calls of a race

The calls that have been made in the course of a race, each with its time and with the reply that
it got, and what they say about both sides at every point (`Accounted`): the wait stands where it
would stand alone with the replies to its own reads, and the guard goes on as long as no check has
found a match.
-/

namespace Settle

/-- A call that has been made. -/
structure Made (τ : Type) where
  call  : Call
  time  : τ
  reply : Reply τ Value

namespace Feed

variable {τ : Type} (feed : Feed τ)

/-- The calls among events, after so many reads and checks. -/
def made : Nat → Nat → List (Event τ) → List (Made τ)
  | _, _, []                      => []
  | m, n, .call .read t  :: es    => ⟨.read, t, feed.read m n⟩ :: made (m + 1) n es
  | m, n, .call .check t :: es    => ⟨.check, t, feed.check m n⟩ :: made m (n + 1) es
  | m, n, .call .write _ :: es
  | m, n, .sleep _ _     :: es
  | m, n, .notice _      :: es    => made m n es

/-- The reads of the wait among events. -/
def reads (es : List (Event τ)) : List (Made τ) := (feed.made 0 0 es).filter (·.call = .read)

/-- The checks among events. -/
def checks (es : List (Event τ)) : List (Made τ) := (feed.made 0 0 es).filter (·.call = .check)

variable {feed}

lemma made_append (m n : Nat) (es fs : List (Event τ)) :
    feed.made m n (es ++ fs) = feed.made m n es ++
      feed.made (m + ((feed.made m n es).filter (·.call = .read)).length)
        (n + ((feed.made m n es).filter (·.call = .check)).length) fs := by
  induction es generalizing m n with
  | nil => simp [made]
  | cons e es ih =>
    cases e with
    | call c t => cases c <;> simp [made, ih, Nat.add_assoc, Nat.add_comm 1]
    | sleep t span | notice n => simp [made, ih]

lemma made_notices (m n : Nat) (notices : List (Notice τ)) :
    feed.made m n (notices.map .notice) = [] := by
  induction notices with
  | nil => rfl
  | cons notice notices ih => simpa [made] using ih

lemma made_eq_nil {es : List (Event τ)} (h : ∀ c, es.filterMap (Event.timeOf? c) = [])
    (m n : Nat) : feed.made m n es = [] := by
  induction es with
  | nil => rfl
  | cons e es ih =>
    cases e with
    | call c t => simpa [Event.timeOf?] using h c
    | sleep t span | notice n => simpa [made] using ih fun c => by simpa [Event.timeOf?] using h c

lemma exists_reply_of_mem_made {m n : Nat} {es : List (Event τ)} {c : Made τ}
    (h : c ∈ feed.made m n es) :
    (c.call = .read ∧ ∃ m' n', c.reply = feed.read m' n') ∨
      (c.call = .check ∧ ∃ m' n', c.reply = feed.check m' n') := by
  induction es generalizing m n with
  | nil => cases h
  | cons e es ih =>
    cases e with
    | call d t =>
      cases d with
      | read =>
        rcases List.mem_cons.mp h with rfl | h
        · exact Or.inl ⟨rfl, m, n, rfl⟩
        · exact ih h
      | check =>
        rcases List.mem_cons.mp h with rfl | h
        · exact Or.inr ⟨rfl, m, n, rfl⟩
        · exact ih h
      | write => exact ih h
    | sleep t span | notice notice => exact ih h

/-- Reads get their replies from the feed. -/
lemma exists_reply_of_mem_reads {es : List (Event τ)} {c : Made τ} (h : c ∈ feed.reads es) :
    ∃ m n, c.reply = feed.read m n := by
  obtain ⟨hmem, hread⟩ := List.mem_filter.mp h
  rcases exists_reply_of_mem_made hmem with ⟨-, hreply⟩ | ⟨hcheck, -⟩
  · exact hreply
  · simp [hcheck] at hread

/-- Checks get their replies from the feed. -/
lemma exists_reply_of_mem_checks {es : List (Event τ)} {c : Made τ} (h : c ∈ feed.checks es) :
    ∃ m n, c.reply = feed.check m n := by
  obtain ⟨hmem, hcheck⟩ := List.mem_filter.mp h
  rcases exists_reply_of_mem_made hmem with ⟨hread, -⟩ | ⟨-, hreply⟩
  · simp [hread] at hcheck
  · exact hreply

section Append

variable (es : List (Event τ))

lemma made_append_read (reply : Reply τ Value) (t : τ) :
    feed.made 0 0 (es ++ reply.events .read t) = feed.made 0 0 es ++
      [⟨.read, t, feed.read (feed.reads es).length (feed.checks es).length⟩] := by
  simp [made_append, Reply.events, made, made_notices, reads, checks]

lemma made_append_check (reply : Reply τ Value) (t : τ) :
    feed.made 0 0 (es ++ reply.events .check t) = feed.made 0 0 es ++
      [⟨.check, t, feed.check (feed.reads es).length (feed.checks es).length⟩] := by
  simp [made_append, Reply.events, made, made_notices, reads, checks]

lemma made_append_of_no_call {fs : List (Event τ)}
    (h : ∀ c, fs.filterMap (Event.timeOf? c) = []) :
    feed.made 0 0 (es ++ fs) = feed.made 0 0 es := by
  rw [made_append, made_eq_nil h, List.append_nil]

lemma reads_append_read (reply : Reply τ Value) (t : τ) :
    feed.reads (es ++ reply.events .read t) = feed.reads es ++
      [⟨.read, t, feed.read (feed.reads es).length (feed.checks es).length⟩] := by
  rw [reads, made_append_read, List.filter_append]
  rfl

lemma checks_append_read (reply : Reply τ Value) (t : τ) :
    feed.checks (es ++ reply.events .read t) = feed.checks es := by
  rw [checks, made_append_read, List.filter_append]
  simp [checks]

lemma reads_append_check (reply : Reply τ Value) (t : τ) :
    feed.reads (es ++ reply.events .check t) = feed.reads es := by
  rw [reads, made_append_check, List.filter_append]
  simp [reads]

lemma checks_append_check (reply : Reply τ Value) (t : τ) :
    feed.checks (es ++ reply.events .check t) = feed.checks es ++
      [⟨.check, t, feed.check (feed.reads es).length (feed.checks es).length⟩] := by
  rw [checks, made_append_check, List.filter_append]
  rfl

lemma reads_append_of_no_call {fs : List (Event τ)}
    (h : ∀ c, fs.filterMap (Event.timeOf? c) = []) : feed.reads (es ++ fs) = feed.reads es := by
  rw [reads, made_append_of_no_call es h, reads]

lemma checks_append_of_no_call {fs : List (Event τ)}
    (h : ∀ c, fs.filterMap (Event.timeOf? c) = []) : feed.checks (es ++ fs) = feed.checks es := by
  rw [checks, made_append_of_no_call es h, checks]

end Append

end Feed

/-- A source gives the replies that calls have got, and goes on in some way. -/
def Source.Continues {τ : Type} (source : Source τ Value) (calls : List (Made τ)) : Prop :=
  ∀ i c, calls[i]? = some c → source i = c.reply

lemma Source.Continues.of_append {τ : Type} {source : Source τ Value} {before after : List (Made τ)}
    (h : source.Continues (before ++ after)) : source.Continues before := by
  intro i c hi
  have hlt : i < before.length := (List.getElem?_eq_some_iff.mp hi).1
  exact h i c (by rw [List.getElem?_append_left hlt, hi])

namespace Race

section Finds

variable {τ : Type} (r : Race τ)

/-- The rules match on the snapshot that a check has brought. -/
def Matches (reply : Reply τ Value) (a : Abort) : Prop :=
  ∃ v, reply.result = .ok v ∧ Rule.firstMatch r.poll.name v r.rules = .ok (some a)

/-- The rules match on none of the calls. -/
def Clear (calls : List (Made τ)) : Prop := ∀ c ∈ calls, ∀ a, ¬ r.Matches c.reply a

variable {r}

lemma find_eq_some_iff {reply : Reply τ Value} {a : Abort} :
    find r.poll.name r.rules reply.result = .ok (some a) ↔ r.Matches reply a := by
  rw [Matches]
  cases reply.result <;> simp [find]

lemma Matches.unique {reply : Reply τ Value} {a b : Abort} (ha : r.Matches reply a)
    (hb : r.Matches reply b) : a = b := by
  rw [← find_eq_some_iff] at ha hb
  exact Option.some.inj (Except.ok.inj (ha.symm.trans hb))

/-- A check that finds nothing has no match. -/
lemma not_matches_of_find {reply : Reply τ Value}
    (h : find r.poll.name r.rules reply.result = .ok none) (a : Abort) : ¬ r.Matches reply a := by
  intro hmatches
  rw [← find_eq_some_iff, h] at hmatches
  cases hmatches

/-- On snapshots that can be written, rules make sense. -/
lemma find_ne_error {result : Except Failure Value} (h : ∀ v, result = .ok v → v.Writable)
    (e : Failure) : find r.poll.name r.rules result ≠ .error e := by
  cases result with
  | error => simp [find]
  | ok v =>
    obtain ⟨found, hfound⟩ := Rule.exists_firstMatch (h v rfl) r.poll.name r.rules
    simp [find, hfound]

lemma Clear.concat {calls : List (Made τ)} {c : Made τ} (h : r.Clear calls)
    (hc : ∀ a, ¬ r.Matches c.reply a) : r.Clear (calls ++ [c]) := by
  intro b hb
  rcases List.mem_append.mp hb with hb | hb
  · exact h b hb
  · rw [List.mem_singleton.mp hb]
    exact hc

end Finds

variable {τ : Type} [TimeScale τ] (r : Race τ) (feed : Feed τ) (now : τ)

/-- Where the guard stands, by the checks that have been made and by where the wait stands. -/
inductive Stands (checks : List (Made τ)) (wait : Poll.State τ) : Guard τ → Prop where
  | pausing {wake : τ} (clear : r.Clear checks) : Stands checks wait (.pausing wake)
  | checking {back : τ} {before : List (Made τ)} {c : Made τ} (last : checks = before ++ [c])
      (clear : r.Clear before) : Stands checks wait (.checking back c.reply.result)
  | aborted {t : τ} {before : List (Made τ)} {c : Made τ} {a : Abort}
      (last : checks = before ++ [c]) (clear : r.Clear before) (matched : r.Matches c.reply a) :
      Stands checks wait (.finished t (.error (.aborted a)))
  | followed {t t' : τ} {o : Except Failure Unit} (clear : r.Clear checks)
      (ended : wait = .finished t' o) : Stands checks wait (.finished t o)
  | expired {t : τ} (clear : r.Clear checks) (expired : r.poll.deadline.expired t = true)
      (pending : wait.outcome? = none) :
      Stands checks wait (.finished t (.error (.expired ("resource " ++ r.poll.name))))

/-- What holds of each point of a race, in whatever order the steps have been taken. -/
structure Accounted (c : Course τ) : Prop where
  reads  : c.state.reads = (feed.reads c.events).length
  checks : c.state.checks = (feed.checks c.events).length
  inTime : ∀ call ∈ feed.made 0 0 c.events, r.poll.deadline.expired call.time = false
  /-- The wait stands where it stands alone. -/
  wait   : ∀ source : Source τ Value, source.Continues (feed.reads c.events) →
    ∃ k, c.state.wait = (r.poll.course source now k).state ∧
      c.state.reads = (r.poll.course source now k).reads
  guard  : r.Stands (feed.checks c.events) c.state.wait c.state.guard

variable {r feed now}

/-- The guard does not notice that the wait goes on. -/
lemma Stands.of_running {checks : List (Made τ)} {wait : Poll.State τ} {guard : Guard τ}
    (h : r.Stands checks wait guard) (hrunning : guard.outcome? = none) (wait' : Poll.State τ) :
    r.Stands checks wait' guard := by
  cases h with
  | pausing clear => exact .pausing clear
  | checking last clear => exact .checking last clear
  | aborted | followed | expired => cases hrunning

/-- Alone, the wait would take the same step. -/
lemma Accounted.wait_next {c : Course τ} (h : r.Accounted feed now c) {source : Source τ Value}
    (hsource : source.Continues (feed.reads c.events))
    (hstep : r.poll.step (source c.state.reads) c.state.wait
      = r.poll.step (feed.read c.state.reads c.state.checks) c.state.wait) :
    ∃ k, (c.next r feed .wait).state.wait = (r.poll.course source now k).state ∧
      (c.next r feed .wait).state.reads = (r.poll.course source now k).reads := by
  cases hcancelled : c.state.cancelled with
  | true => simpa [Course.next, step, hcancelled] using h.wait source hsource
  | false =>
    obtain ⟨k, hstate, hreads⟩ := h.wait source hsource
    refine ⟨k + 1, ?_⟩
    rw [Course.next, step_wait hcancelled, Poll.course_succ, Poll.Course.next, ← hstate, ← hreads,
      hstep]
    exact ⟨rfl, rfl⟩

lemma Accounted.waitStep {c : Course τ} (h : r.Accounted feed now c)
    (hlive : c.state.cancelled = false) (hrunning : c.state.guard.outcome? = none) :
    r.Accounted feed now (c.next r feed .wait) := by
  have hguard := h.guard.of_running hrunning (c.next r feed .wait).state.wait
  have hstate : (c.next r feed .wait).state.guard = c.state.guard ∧
      (c.next r feed .wait).state.checks = c.state.checks := by
    rw [Course.next, step_wait hlive]
    exact ⟨rfl, rfl⟩
  rcases r.poll.step_cases (feed.read c.state.reads c.state.checks) c.state.wait with
    ⟨t, -, hexp, hstep⟩ | ⟨hreply, hcount, htimes⟩
  · have hevents : (c.next r feed .wait).events
        = c.events ++ (feed.read c.state.reads c.state.checks).events .read t := by
      rw [Course.next, step_wait hlive, hstep]
    have hreads : (c.next r feed .wait).state.reads = c.state.reads + 1 := by
      rw [Course.next, step_wait hlive, hstep]
      rfl
    constructor
    · simp [hevents, hreads, Feed.reads_append_read, h.reads]
    · rw [hevents, hstate.2, Feed.checks_append_read, h.checks]
    · simp only [hevents, Feed.made_append_read, List.forall_mem_append,
        List.forall_mem_singleton]
      exact ⟨h.inTime, hexp⟩
    · intro source hsource
      rw [hevents, Feed.reads_append_read] at hsource
      refine h.wait_next hsource.of_append ?_
      have hnew := hsource c.state.reads _ (by rw [h.reads, List.getElem?_concat_length])
      rw [hnew, ← h.reads, ← h.checks]
    · rw [hevents, hstate.1, Feed.checks_append_read]
      exact hguard
  · have hnone : ∀ c', (r.poll.step (feed.read c.state.reads c.state.checks)
        c.state.wait).2.filterMap (Event.timeOf? c') = [] := htimes
    have hevents : (c.next r feed .wait).events = c.events ++
        (r.poll.step (feed.read c.state.reads c.state.checks) c.state.wait).2 := by
      rw [Course.next, step_wait hlive]
    have hreads : (c.next r feed .wait).state.reads = c.state.reads := by
      rw [Course.next, step_wait hlive]
      exact hcount _
    constructor
    · rw [hevents, hreads, Feed.reads_append_of_no_call _ hnone, h.reads]
    · rw [hevents, hstate.2, Feed.checks_append_of_no_call _ hnone, h.checks]
    · rw [hevents, Feed.made_append_of_no_call _ hnone]
      exact h.inTime
    · intro source hsource
      rw [hevents, Feed.reads_append_of_no_call _ hnone] at hsource
      exact h.wait_next hsource (hreply _)
    · rw [hevents, hstate.1, Feed.checks_append_of_no_call _ hnone]
      exact hguard

lemma Accounted.guardTo {c : Course τ} (h : r.Accounted feed now c) {guard : Guard τ}
    {es : List (Event τ)} (hes : ∀ c', es.filterMap (Event.timeOf? c') = [])
    (hstands : r.Stands (feed.checks c.events) c.state.wait guard) :
    r.Accounted feed now ⟨State.close { c.state with guard := guard }, c.events ++ es⟩ := by
  constructor
  · simpa [Feed.reads_append_of_no_call _ hes] using h.reads
  · simpa [Feed.checks_append_of_no_call _ hes] using h.checks
  · simpa only [Feed.made_append_of_no_call _ hes] using h.inTime
  · simpa [Feed.reads_append_of_no_call _ hes] using h.wait
  · simpa [Feed.checks_append_of_no_call _ hes] using hstands

lemma Accounted.guardStep (hwritable : ∀ m n v, (feed.check m n).result = .ok v → v.Writable)
    {c : Course τ} (h : r.Accounted feed now c) (hrunning : c.state.guard.outcome? = none) :
    r.Accounted feed now (c.next r feed .guard) := by
  have hmove := r.move (feed.check c.state.reads c.state.checks) c.state.wait hrunning
  have hguard := h.guard
  simp only [Course.next, step]
  generalize c.state.guard = guard at hmove hguard
  generalize r.guardStep _ _ guard = next at hmove
  obtain ⟨guard', es⟩ := next
  dsimp only at hmove ⊢
  cases hmove with
  | leave ended =>
    obtain ⟨clear⟩ := hguard
    exact h.guardTo (by simp) (.followed clear ended)
  | expire pending expired =>
    obtain ⟨clear⟩ := hguard
    exact h.guardTo (by simp) (.expired clear expired pending)
  | begin pending expired =>
    obtain ⟨clear⟩ := hguard
    constructor
    · simpa [Feed.reads_append_check] using h.reads
    · simp [Feed.checks_append_check, count, h.checks]
    · simp only [Feed.made_append_check, List.forall_mem_append, List.forall_mem_singleton]
      exact ⟨h.inTime, expired⟩
    · simpa [Feed.reads_append_check] using h.wait
    · rw [h.reads, h.checks, Feed.checks_append_check]
      exact .checking rfl clear
  | fail found =>
    obtain ⟨-⟩ | ⟨last, -⟩ := hguard
    obtain ⟨m, n, hreply⟩ := Feed.exists_reply_of_mem_checks (last ▸ List.mem_concat_self)
    rw [hreply] at found
    exact absurd found (find_ne_error (hwritable m n) _)
  | abort found =>
    obtain ⟨-⟩ | ⟨last, clear⟩ := hguard
    exact h.guardTo (by simp [Event.timeOf?]) (.aborted last clear (find_eq_some_iff.mp found))
  | follow found ended =>
    obtain ⟨-⟩ | ⟨last, clear⟩ := hguard
    exact h.guardTo (by simp) (.followed (last ▸ clear.concat (not_matches_of_find found)) ended)
  | rest found pending =>
    obtain ⟨-⟩ | ⟨last, clear⟩ := hguard
    exact h.guardTo (by simp) (.pausing (last ▸ clear.concat (not_matches_of_find found)))

lemma Accounted.next (hwritable : ∀ m n v, (feed.check m n).result = .ok v → v.Writable)
    {c : Course τ} (h : r.Accounted feed now c) (hclosed : c.state.Closed) (side : Side) :
    r.Accounted feed now (c.next r feed side) := by
  by_cases hrunning : c.state.guard.outcome? = none
  · cases side with
    | wait => exact h.waitStep (hclosed.live hrunning) hrunning
    | guard => exact h.guardStep hwritable hrunning
  · rwa [Course.next_of_ended hclosed hrunning]

/-- Whatever the order of the steps is, every point is accounted for. -/
theorem accounted (hwritable : ∀ m n v, (feed.check m n).result = .ok v → v.Writable)
    (sides : List Side) : r.Accounted feed now (r.course feed now sides) := by
  induction sides using List.reverseRecOn with
  | nil =>
    have hbegin : r.Accounted feed now ⟨⟨.ready now, r.rest now, 0, 0, false⟩, []⟩ :=
      ⟨rfl, rfl, by simp [Feed.made], fun source _ => ⟨0, rfl, rfl⟩,
        .pausing (by simp [Clear, Feed.checks, Feed.made])⟩
    exact hbegin.next hwritable rfl .wait
  | append_singleton sides side ih =>
    rw [course_concat]
    exact ih.next hwritable (closed_course sides) side

end Race

end Settle
